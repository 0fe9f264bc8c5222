import Akhira.Verif.ClpRecords

/-!
# Unit accounting

The units of a pool are the sum of the units of the records of its asset, as long as
every contribution is rounded exactly and reaches the record of its signer. A signer
text that is not the account's own, such as one in capital letters, finds no record and
overwrites the one stored under the account's own text. A decommission that is not handed
all records of its pool leaves units behind, which a pool opened again does not count.
-/
namespace Akhira.Verif.Clp

open Akhira.Base Akhira.Sdk Akhira.Clp

variable {env : Environment} {context : Context} {state next : State}

/-- The units of a record, counted for one asset. -/
def recordUnits (asset : Asset) (lp : LiquidityProvider) : Nat :=
  if lp.asset = asset then lp.liquidityProviderUnits.val else 0

/-- The units of all records of an asset. -/
def issued (providers : Store String LiquidityProvider) (asset : Asset) : Nat :=
  providers.total fun _ lp => recordUnits asset lp

/-- Every pool has exactly the units of the records of its asset. -/
def UnitsBalanced (state : State) : Prop :=
  Store.All (fun _ pool => pool.poolUnits.val = issued state.providers pool.externalAsset)
    state.pools

/-- A stored pool has the units of the records of its asset. -/
theorem UnitsBalanced.units_eq (balanced : UnitsBalanced state) {key : String} {pool : Pool}
    (found : state.pools.get key = some pool) :
    pool.poolUnits.val = issued state.providers pool.externalAsset := balanced key pool found

section Issued

variable {providers : Store String LiquidityProvider}

/-- An asset without records has no units issued. -/
theorem issued_of_none {asset : Asset}
    (none : Store.All (fun _ lp => lp.asset ≠ asset) providers) : issued providers asset = 0 := by
  apply List.sum_eq_zero
  intro units member
  obtain ⟨⟨key, lp⟩, stored, rfl⟩ := List.mem_map.mp member
  exact if_neg (none key lp (providers.get_eq_some.mpr stored))

/-- A new record of a valid asset adds its units. -/
theorem issued_insert (lp : LiquidityProvider) (asset : Asset)
    (valid : lp.asset.validate = .ok true)
    (missing : providers.get
      (getLiquidityProviderKey lp.asset.symbol lp.liquidityProviderAddress) = none) :
    issued (putRecord providers lp) asset = recordUnits asset lp + issued providers asset := by
  unfold issued putRecord
  rw [if_pos valid]
  exact providers.total_insert (fun _ lp => recordUnits asset lp) lp missing

/-- A record that replaces another moves the units by the two of that record. -/
theorem issued_replace (lp : LiquidityProvider) {old : LiquidityProvider} (asset : Asset)
    (valid : lp.asset.validate = .ok true)
    (found : providers.get
      (getLiquidityProviderKey lp.asset.symbol lp.liquidityProviderAddress) = some old) :
    issued (putRecord providers lp) asset + recordUnits asset old =
      issued providers asset + recordUnits asset lp := by
  unfold issued putRecord
  rw [if_pos valid]
  exact providers.total_replace (fun _ lp => recordUnits asset lp) lp found

/-- Dropping a record takes its units away. -/
theorem issued_delete {lp : LiquidityProvider} (asset : Asset) {key : String}
    (found : providers.get key = some lp) :
    issued (providers.delete key) asset + recordUnits asset lp = issued providers asset := by
  unfold issued
  rw [providers.total_of_get (fun _ lp => recordUnits asset lp) found, Nat.add_comm]

/-- Dropping records of other assets leaves the units of an asset. -/
theorem issued_dropRecords {asset : Asset} {lps : List LiquidityProvider}
    (keyed : RecordsKeyed providers)
    (others : ∀ lp ∈ lps, lp.asset ≠ asset ∧ lp.asset.validate = .ok true) :
    issued (dropRecords providers lps) asset = issued providers asset := by
  induction lps generalizing providers with
  | nil => rfl
  | cons lp lps ih =>
    obtain ⟨different, valid⟩ := others lp List.mem_cons_self
    have rest := fun other member => others other (List.mem_cons_of_mem _ member)
    change issued (dropRecords (providers.delete
      (getLiquidityProviderKey lp.asset.symbol lp.liquidityProviderAddress)) lps) asset = _
    rw [ih (Store.All.delete keyed _) rest]
    cases found : providers.get
        (getLiquidityProviderKey lp.asset.symbol lp.liquidityProviderAddress) with
    | none => rw [providers.delete_of_get_none found]
    | some held =>
      have sameAsset := (keyed.found_eq valid found).1
      have nothing : recordUnits asset held = 0 := if_neg (by rw [sameAsset]; exact different)
      have dropped := issued_delete asset found
      omega

end Issued

/-- Writing the pool of one asset keeps the units balanced when the units of other assets stay and
the pool has those of its own. -/
theorem UnitsBalanced.set {after : Pool} {providers : Store String LiquidityProvider}
    (balanced : UnitsBalanced state) (keyed : PoolsKeyed state.pools)
    (pools : next.pools = state.pools.set (poolKey after.externalAsset.symbol) after)
    (records : next.providers = providers)
    (others : ∀ asset, asset ≠ after.externalAsset →
      issued providers asset = issued state.providers asset)
    (own : after.poolUnits.val = issued providers after.externalAsset) : UnitsBalanced next := by
  intro key pool found
  rw [pools] at found
  rw [records]
  by_cases same : key = poolKey after.externalAsset.symbol
  · rw [same, Store.get_set_same, Option.some.injEq] at found
    rw [← found]
    exact own
  · rw [Store.get_set_other _ _ same] at found
    have different : pool.externalAsset ≠ after.externalAsset := by
      intro clash
      apply same
      rw [(keyed _ _ found).1, clash]
    rw [others _ different]
    exact balanced key pool found

/-- The scaled inputs of a contribution, computed from the message and the state before it. -/
def scaledContribution (context : Context) (state : State) (msg : MsgAddLiquidity) :
    Outcome UnitInputs := do
  let entry ← clpEntry context.registry msg.externalAsset.symbol
  let pool ← state.getPool msg.externalAsset.symbol
  let factor ← getNormalizationFactor entry.decimals
  (State.contribution pool msg).normalize factor.1 factor.2

/-- The amounts of a contribution leave nothing to rounding. -/
def RoundsExactly (context : Context) (state : State) (msg : MsgAddLiquidity) : Prop :=
  match scaledContribution context state msg with
  | .ok inputs => UnitsSettled inputs
  | .error _ => True

/-- A contribution whose signer text finds no record overwrites no units stored under the
account's own text. -/
def OverwritesNothing (env : Environment) (state : State) (msg : MsgAddLiquidity) : Prop :=
  match state.getLiquidityProvider msg.externalAsset.symbol msg.signer,
    env.accAddressFromBech32 msg.signer with
  | none, some signer =>
    match state.getLiquidityProvider msg.externalAsset.symbol (env.accAddressText signer) with
    | some lp => lp.liquidityProviderUnits.val = 0
    | none => True
  | _, _ => True

/-- A delivery brings no contribution that is rounded with a loss or overwrites units, and no
decommission that leaves records behind. -/
def AccountedDelivery (env : Environment) (state : State) (delivery : Delivery) : Prop :=
  match delivery.msg with
  | .addLiquidity msg =>
    RoundsExactly delivery.context state msg ∧ OverwritesNothing env state msg
  | .decommissionPool msg => HandsOverAll state msg
  | _ => True

/-- The amounts decide whether something is left to rounding. -/
instance (context : Context) (state : State) (msg : MsgAddLiquidity) :
    Decidable (RoundsExactly context state msg) := by
  unfold RoundsExactly
  split <;> infer_instance

/-- The two lookups decide whether units are overwritten. -/
instance (env : Environment) (state : State) (msg : MsgAddLiquidity) :
    Decidable (OverwritesNothing env state msg) := by
  unfold OverwritesNothing
  split
  · split <;> infer_instance
  · infer_instance

/-- Whether a decommission reaches every record is decided on the pool it is of. -/
instance (state : State) (msg : MsgDecommissionPool) : Decidable (HandsOverAll state msg) := by
  unfold HandsOverAll
  exact match state.pools.get (poolKey msg.symbol) with
    | some pool => inferInstanceAs (Decidable (_ → ListsAll state pool.externalAsset))
    | none => inferInstanceAs (Decidable True)

/-- The message decides the class of a delivery. -/
instance (env : Environment) (state : State) (delivery : Delivery) :
    Decidable (AccountedDelivery env state delivery) := by
  unfold AccountedDelivery
  exact match delivery.msg with
    | .addLiquidity msg => inferInstanceAs
        (Decidable (RoundsExactly delivery.context state msg ∧ OverwritesNothing env state msg))
    | .decommissionPool msg => inferInstanceAs (Decidable (HandsOverAll state msg))
    | .createPool _ | .removeLiquidity _ | .swap _ => inferInstanceAs (Decidable True)

/-- A created pool has the units of its creator's record. -/
theorem UnitsBalanced.created {msg : MsgCreatePool} {signer : AccAddress} {units : Uint}
    (balanced : UnitsBalanced state) (orderly : Orderly state)
    (effect : Created env state next msg signer units) : UnitsBalanced next := by
  let lp : LiquidityProvider := ⟨msg.externalAsset, units, env.accAddressText signer⟩
  let pool : Pool := ⟨msg.externalAsset, msg.nativeAssetAmount, msg.externalAssetAmount, units⟩
  have unowned : Store.All (fun _ lp => lp.asset ≠ msg.externalAsset) state.providers := by
    intro key record found same
    have owned : (state.pools.get (poolKey record.asset.symbol)).isSome = true :=
      orderly.owned key record found
    rw [same, effect.fresh] at owned
    cases owned
  have missing : state.providers.get
      (getLiquidityProviderKey lp.asset.symbol lp.liquidityProviderAddress) = none := by
    cases found : state.providers.get
        (getLiquidityProviderKey lp.asset.symbol lp.liquidityProviderAddress) with
    | none => rfl
    | some record =>
      exact absurd (orderly.recordsKeyed.found_eq effect.valid found).1 (unowned _ _ found)
  have pools : next.pools = state.pools.set (poolKey pool.externalAsset.symbol) pool := by
    rw [effect.written]
  have records : next.providers = putRecord state.providers lp := by rw [effect.written]
  refine balanced.set orderly.keyed pools records (fun asset different => ?_) ?_
  · rw [issued_insert lp asset effect.valid missing]
    have nothing : recordUnits asset lp = 0 := if_neg (Ne.symm different)
    omega
  · rw [issued_insert lp _ effect.valid missing, issued_of_none unowned]
    change units.val = recordUnits msg.externalAsset lp + 0
    unfold recordUnits
    rw [if_pos rfl, Nat.add_zero]

/-- A contribution that overwrites nothing adds the units issued to the records of its asset. -/
theorem issued_contributor {msg : MsgAddLiquidity} {signer : AccAddress} {lpUnits : Uint}
    {lp : LiquidityProvider} (keyed : RecordsKeyed state.providers)
    (valid : msg.externalAsset.validate = .ok true)
    (signed : env.accAddressFromBech32 msg.signer = some signer)
    (kept : OverwritesNothing env state msg)
    (record : contributor env state msg signer lpUnits = .ok lp) (asset : Asset) :
    issued (putRecord state.providers lp) asset = issued state.providers asset +
      if msg.externalAsset = asset then lpUnits.val else 0 := by
  have sameAsset := contributor_asset keyed valid record
  unfold contributor at record
  unfold OverwritesNothing at kept
  cases found : state.getLiquidityProvider msg.externalAsset.symbol msg.signer with
  | some old =>
    simp only [found, Result.bind_ok, Uint.add_ok, Result.pure_ok] at record
    obtain ⟨total, sum, rfl⟩ := record
    have own := keyed _ _ found
    let grown : LiquidityProvider := { old with liquidityProviderUnits := total }
    have replaced := issued_replace grown asset own.2 (by
      change state.providers.get (getLiquidityProviderKey old.asset.symbol _) = _
      rw [← own.1]
      exact found)
    have oldAsset : old.asset = msg.externalAsset := sameAsset
    have before : recordUnits asset old =
        if msg.externalAsset = asset then old.liquidityProviderUnits.val else 0 := by
      rw [recordUnits, oldAsset]
    have after : recordUnits asset grown =
        if msg.externalAsset = asset then total.val else 0 := by
      rw [recordUnits, sameAsset]
    rw [before, after] at replaced
    change issued (putRecord state.providers grown) asset = _
    split_ifs at replaced ⊢ <;> omega
  | none =>
    simp only [found, signed] at record kept
    cases record
    let new : LiquidityProvider := ⟨msg.externalAsset, lpUnits, env.accAddressText signer⟩
    have after : recordUnits asset new =
        if msg.externalAsset = asset then lpUnits.val else 0 := rfl
    change issued (putRecord state.providers new) asset = _
    cases stored : state.getLiquidityProvider msg.externalAsset.symbol
        (env.accAddressText signer) with
    | none =>
      have inserted := issued_insert new asset valid stored
      omega
    | some old =>
      rw [stored] at kept
      have replaced := issued_replace new asset valid stored
      have before : recordUnits asset old = 0 := by
        unfold recordUnits
        split
        · exact kept
        · rfl
      omega

/-- A contribution that is rounded exactly and overwrites nothing keeps the units balanced. -/
theorem UnitsBalanced.added {msg : MsgAddLiquidity} {signer : AccAddress}
    {entry : TokenRegistry.RegistryEntry} {factor : Dec × Bool} {pool : Pool}
    {newPoolUnits lpUnits nativeTotal externalTotal : Uint} {lp : LiquidityProvider}
    (balanced : UnitsBalanced state) (orderly : Orderly state)
    (valid : msg.externalAsset.validate = .ok true)
    (signed : env.accAddressFromBech32 msg.signer = some signer)
    (exact : RoundsExactly context state msg) (kept : OverwritesNothing env state msg)
    (effect : Added env context state next msg signer entry factor pool newPoolUnits lpUnits
      nativeTotal externalTotal lp) : UnitsBalanced next := by
  have own := orderly.keyed.asset_eq effect.found
  obtain ⟨native, external⟩ := orderly.positive _ _ effect.found
  obtain ⟨scaled, scaling, sumIff⟩ :=
    calculatePoolUnits_exact_iff effect.normalized native external effect.computed
  have computed : scaledContribution context state msg = .ok scaled := by
    simp only [scaledContribution, Result.bind_ok, getPool_ok]
    exact ⟨entry, effect.registered, pool, effect.found, factor, effect.normalized, scaling⟩
  have settled : UnitsSettled scaled := by
    rw [RoundsExactly, computed] at exact
    exact exact
  have sum : newPoolUnits.val = pool.poolUnits.val + lpUnits.val := sumIff.mpr settled.exact
  have contributions := issued_contributor orderly.recordsKeyed valid signed kept effect.record
  let after := contributed pool newPoolUnits nativeTotal externalTotal
  have pools : next.pools = state.pools.set (poolKey after.externalAsset.symbol) after := by
    rw [effect.written]
    rfl
  have records : next.providers = putRecord state.providers lp := by rw [effect.written]
  have afterAsset : after.externalAsset = msg.externalAsset := own
  refine balanced.set orderly.keyed pools records (fun asset different => ?_) ?_
  · rw [contributions, if_neg (by rw [← afterAsset]; exact different.symm), Nat.add_zero]
  · have before := balanced.units_eq effect.found
    rw [contributions, afterAsset, if_pos rfl]
    change newPoolUnits.val = _
    rw [sum, before, own]

/-- A withdrawal takes the same units from the pool and from the record. -/
theorem UnitsBalanced.removed {msg : MsgRemoveLiquidity} {pool finalPool : Pool}
    {lp : LiquidityProvider} {withdrawal : Withdrawal} {paidExternal paidNative : Nat}
    (balanced : UnitsBalanced state) (orderly : Orderly state)
    (valid : msg.externalAsset.validate = .ok true)
    (effect : Removed env context state next msg pool lp withdrawal finalPool paidExternal
      paidNative) : UnitsBalanced next := by
  have own := orderly.keyed.asset_eq effect.found
  have found := effect.recorded
  obtain ⟨key, recordValid⟩ := orderly.recordsKeyed _ _ found
  have recordAsset := (orderly.recordsKeyed.found_eq valid found).1
  have units := effect.units
  have left : ∀ asset, issued (withdrawn state.providers lp withdrawal.lpUnitsLeft) asset +
      recordUnits asset lp = issued state.providers asset +
        if lp.asset = asset then withdrawal.lpUnitsLeft.val else 0 := by
    intro asset
    unfold withdrawn
    have stored : state.providers.get
        (getLiquidityProviderKey lp.asset.symbol lp.liquidityProviderAddress) = some lp := by
      rw [← key]
      exact found
    split
    · rename_i none
      rw [Uint.isZero_iff.mp none, ite_self, Nat.add_zero]
      exact issued_delete asset stored
    · exact issued_replace _ asset recordValid stored
  have pools : next.pools =
      state.pools.set (poolKey finalPool.externalAsset.symbol) finalPool := by
    rw [effect.written]
  have records : next.providers = withdrawn state.providers lp withdrawal.lpUnitsLeft := by
    rw [effect.written]
  have finalAsset : finalPool.externalAsset = lp.asset := by
    rw [effect.sameAsset, own, recordAsset]
  refine balanced.set orderly.keyed pools records (fun asset different => ?_) ?_
  · have same := left asset
    rw [finalAsset] at different
    rw [recordUnits, if_neg different.symm, if_neg different.symm] at same
    exact same
  · have same := left lp.asset
    have before := balanced.units_eq effect.found
    rw [own, ← recordAsset] at before
    rw [recordUnits, if_pos rfl, if_pos rfl] at same
    rw [finalAsset]
    omega

/-- Writing a pool with the asset and the units it had keeps the units balanced. -/
theorem UnitsBalanced.same_units {key : String} {pool after : Pool} {pools : Store String Pool}
    {providers : Store String LiquidityProvider}
    (balanced : Store.All (fun _ pool =>
      pool.poolUnits.val = issued providers pool.externalAsset) pools)
    (found : pools.get key = some pool) (sameAsset : after.externalAsset = pool.externalAsset)
    (sameUnits : after.poolUnits = pool.poolUnits) :
    Store.All (fun _ pool => pool.poolUnits.val = issued providers pool.externalAsset)
      (pools.set (poolKey after.externalAsset.symbol) after) := by
  apply balanced.set
  rw [sameUnits, sameAsset]
  exact balanced key pool found

/-- A swap leaves all units. -/
theorem UnitsBalanced.traded {msg : MsgSwap} (balanced : UnitsBalanced state)
    (effect : Traded env state next msg) : UnitsBalanced next := by
  cases effect with
  | native sent found sold exchanged =>
    rw [exchanged.written]
    exact UnitsBalanced.same_units balanced found sold.sameAsset sold.sameUnits
  | external received found sold exchanged =>
    rw [exchanged.written]
    exact UnitsBalanced.same_units balanced found sold.sameAsset sold.sameUnits
  | both sent received firstFound firstSold secondFound secondSold exchanged =>
    rw [exchanged.written]
    have first := UnitsBalanced.same_units balanced firstFound firstSold.sameAsset
      firstSold.sameUnits
    exact UnitsBalanced.same_units first secondFound secondSold.sameAsset secondSold.sameUnits

/-- Decommissioning a pool leaves the units of the other assets. -/
theorem UnitsBalanced.decommissioned {msg : MsgDecommissionPool} {pool : Pool}
    {paidExternal paidNative : Nat} (balanced : UnitsBalanced state)
    (orderly : Orderly state)
    (effect : Decommissioned env state next msg pool paidExternal paidNative) :
    UnitsBalanced next := by
  have pools : next.pools = state.pools.delete (poolKey pool.externalAsset.symbol) := by
    rw [effect.written]
  have records : next.providers = dropRecords state.providers
      (state.getLiquidityProvidersForAsset pool.externalAsset) := by
    rw [effect.written]
  intro key other found
  rw [pools] at found
  by_cases same : key = poolKey pool.externalAsset.symbol
  · rw [same, Store.get_delete_same] at found
    cases found
  · rw [Store.get_delete_other _ same] at found
    have different : pool.externalAsset ≠ other.externalAsset := by
      intro clash
      apply same
      rw [clash]
      exact (orderly.keyed _ _ found).1
    rw [records, issued_dropRecords orderly.recordsKeyed]
    · exact balanced key other found
    · intro lp member
      obtain ⟨⟨recordKey, stored⟩, asset⟩ := mem_listed member
      exact ⟨by rw [asset]; exact different, (orderly.recordsKeyed _ _ stored).2⟩

/-- What unit accounting keeps along a run. -/
structure Accounted (state : State) : Prop where
  /-- The records are orderly. -/
  orderly : Orderly state
  /-- The units are balanced. -/
  balanced : UnitsBalanced state

/-- A delivery that rounds exactly, overwrites nothing and leaves nothing behind keeps the
accounting. -/
theorem accounted_step {delivery : Delivery} (accounted : Accounted state)
    (exact : AccountedDelivery env state delivery)
    (delivered : deliver env state delivery = .ok next) : Accounted next := by
  refine ⟨orderly_step accounted.orderly (fun msg kind => ?_) delivered, ?_⟩
  · unfold AccountedDelivery at exact
    rw [kind] at exact
    exact exact
  obtain ⟨orderly, balanced⟩ := accounted
  cases deliver_effect orderly.keyed delivered with
  | created kind external amounts effect => exact balanced.created orderly effect
  | added kind valid signed effect =>
    unfold AccountedDelivery at exact
    rw [kind] at exact
    exact balanced.added orderly valid signed exact.1 exact.2 effect
  | removed kind valid effect => exact balanced.removed orderly valid effect
  | traded kind effect => exact balanced.traded effect
  | decommissioned kind effect => exact balanced.decommissioned orderly effect

/-- From an empty clp store, every run whose contributions are rounded exactly and overwrite
nothing, and whose decommissions are handed all records, leaves every pool with the units of its
records. -/
theorem units_balanced_of_accounted (env : Environment) (start : State)
    (noPools : start.pools = Store.empty) (noRecords : start.providers = Store.empty)
    (deliveries : List Delivery)
    (exact : Meets (deliver env) (AccountedDelivery env) start deliveries) :
    UnitsBalanced (run (deliver env) start deliveries) := by
  have accounted : Accounted start := by
    have balanced : UnitsBalanced start := by
      unfold UnitsBalanced
      rw [noPools]
      exact Store.All.empty
    exact ⟨Orderly.empty noPools noRecords, balanced⟩
  have reached := run_invariant (fun _ _ _ holds allowed => accounted_step holds allowed)
    accounted exact
  exact reached.balanced

section Sample

/-- The address of a second account. -/
def bobAddress : AccAddress := List.replicate 20 2

/-- The bech32 text of the second account. -/
def bobText : String := "ak1qgpqyqszqgpqyqszqgpqyqszqgpqyqszntrequ"

/-- The chain seen by two accounts. -/
def pairEnvironment : Environment where
  accAddressFromBech32 text :=
    if text = aliceText then some aliceAddress
    else if text = bobText then some bobAddress else none
  accAddressText address :=
    if address = aliceAddress then aliceText else if address = bobAddress then bobText else ""
  moduleAddress _ := clpModuleAddress
  blockedAddr address := address = clpModuleAddress

/-- Both accounts own both assets; there is no pool. -/
def pairState : State where
  pools := Store.empty
  providers := Store.empty
  whiteList := none
  bank := ⟨fun address _ => if address = clpModuleAddress then 0 else 10 ^ 24⟩

/-- The first account may decommission pools. -/
def adminState : State := { pairState with whiteList := some [aliceText] }

/-- A token that comes before the other one. -/
def earlierToken : Asset := ⟨"cbat"⟩

/-- Three assets are registered for pools and nothing is vesting. -/
def threeAssets : Context where
  registry := ⟨"cbat", 18, [.clp], "cbat"⟩ :: openContext.registry
  locked _ _ := 0

/-- An account opens a pool with 10^18 of both assets. -/
def opens (account : String) (asset : Asset) : Delivery :=
  ⟨threeAssets, .createPool ⟨account, asset, amount (10 ^ 18), amount (10 ^ 18)⟩⟩

/-- The first account sells some of the token. -/
def sells (sold : Nat) : Delivery :=
  ⟨threeAssets, .swap ⟨aliceText, token, Asset.settlement, amount sold, amount 0⟩⟩

/-- The first account decommissions the pool of the token. -/
def closes : Delivery := ⟨threeAssets, .decommissionPool ⟨aliceText, token.symbol⟩⟩

/-- Opening a pool with even amounts, adding to it, selling until its native reserve is low,
withdrawing a quarter, and closing it to open it again. -/
def evenDeliveries : List Delivery :=
  [opens aliceText token,
    ⟨threeAssets, .addLiquidity ⟨aliceText, token, amount (10 ^ 18), amount (10 ^ 18)⟩⟩,
    sells (2 * 10 ^ 18), sells (4 * 10 ^ 18), sells (8 * 10 ^ 18),
    ⟨threeAssets, .removeLiquidity ⟨aliceText, token, ⟨2500, by decide⟩, ⟨0, SInt.zero_bounded⟩⟩⟩,
    closes, opens bobText token]

end Sample

/-- The units are balanced after an even contribution, swaps, a withdrawal and a decommission that
is handed the one record there is. -/
theorem units_balanced_even_pool :
    UnitsBalanced (run (deliver pairEnvironment) adminState evenDeliveries) :=
  units_balanced_of_accounted pairEnvironment adminState rfl rfl evenDeliveries (by decide +kernel)

section Sample

/-- Opening a pool with one native unit more than 10^20 and adding 10^20 of both assets. -/
def oddDeliveries : List Delivery :=
  [⟨openContext, .createPool ⟨aliceText, token, amount (10 ^ 20 + 1), amount (10 ^ 20)⟩⟩,
    ⟨openContext, .addLiquidity ⟨aliceText, token, amount (10 ^ 20), amount (10 ^ 20)⟩⟩]

/-- Opening the pools of two tokens, closing that of the second one when its native reserve is low,
and opening it again from the other account. -/
def reopenedDeliveries : List Delivery :=
  [opens aliceText earlierToken, opens aliceText token, sells (10 ^ 18), closes,
    opens bobText token]

end Sample

/-- The reduction by 20 digits drops the last unit of the pool and the record keeps it. A pool that
is closed without its records is opened again with units that do not count them. -/
theorem units_unbalanced :
    (aliceState.pools = Store.empty ∧ aliceState.providers = Store.empty ∧
      ¬ UnitsBalanced (run (deliver aliceEnvironment) aliceState oddDeliveries)) ∧
    (adminState.pools = Store.empty ∧ adminState.providers = Store.empty ∧
      ¬ UnitsBalanced (run (deliver pairEnvironment) adminState reopenedDeliveries)) := by
  refine ⟨⟨rfl, rfl, fun balanced => ?_⟩, rfl, rfl, fun balanced => ?_⟩
  · have stored : (run (deliver aliceEnvironment) aliceState oddDeliveries).pools.get
        (poolKey token.symbol) =
          some ⟨token, amount (2 * 10 ^ 20 + 1), amount (2 * 10 ^ 20), amount (2 * 10 ^ 20)⟩ := by
      decide +kernel
    have units := balanced.units_eq stored
    revert units
    decide +kernel
  · have stored : (run (deliver pairEnvironment) adminState reopenedDeliveries).pools.get
        (poolKey token.symbol) =
          some ⟨token, amount (10 ^ 18), amount (10 ^ 18), amount (10 ^ 18)⟩ := by
      decide +kernel
    have units := balanced.units_eq stored
    revert units
    decide +kernel

end Akhira.Verif.Clp
