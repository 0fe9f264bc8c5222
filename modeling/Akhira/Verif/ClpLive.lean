import Akhira.Verif.ClpAccounting
import Akhira.Verif.ClpDue

/-!
# Live pools

The reserves of a stored pool are positive on every run, so a contribution never counts as the
first one. Its units can reach zero: a contribution too small for one unit opens a record without
units, and a withdrawal can round the last units of a pool away while reserves are left.
-/
namespace Akhira.Verif.Clp

open Akhira.Base Akhira.Sdk Akhira.Clp

variable {env : Environment} {context : Context} {state next : State}

/-- A state without pools has sound pools. -/
theorem SoundPools.empty {pools : Store String Pool} (none : pools = Store.empty) :
    SoundPools pools := by
  rw [none]
  exact ⟨Store.All.empty, Store.All.empty⟩

/-- On every run from an empty store the reserves of every pool are positive, and the scaled
reserves that decide whether a contribution is the first one are positive, too. -/
theorem reserves_stay_positive (env : Environment) (start : State)
    (noPools : start.pools = Store.empty) (deliveries : List Delivery) :
    ReservesPositive (run (deliver env) start deliveries).pools ∧
      ∀ (context : Context) (msg : MsgAddLiquidity) (scaled : UnitInputs),
        scaledContribution context (run (deliver env) start deliveries) msg = .ok scaled →
          (scaled.nativeAssetBalance.isZero || scaled.externalAssetBalance.isZero) = false := by
  have kept : ∀ state delivery next, SoundPools state.pools → True →
      deliver env state delivery = .ok next → SoundPools next.pools :=
    fun _ _ _ sound _ delivered => sound.effect (deliver_effect sound.keyed delivered)
  have sound : SoundPools (run (deliver env) start deliveries).pools :=
    @run_invariant _ _ _ (deliver env) _ (fun state => SoundPools state.pools) kept start
      (SoundPools.empty noPools) deliveries (meets_of_forall (fun _ _ => trivial) start deliveries)
  refine ⟨sound.positive, fun context msg scaled computed => ?_⟩
  simp only [scaledContribution, Result.bind_ok, getPool_ok] at computed
  obtain ⟨entry, -, pool, found, factor, normalized, scaling⟩ := computed
  obtain ⟨native, external⟩ := sound.positive _ _ found
  obtain ⟨-, nativeScaled, externalScaled⟩ := scaled_positive normalized native external scaling
  have nativeSome : scaled.nativeAssetBalance.isZero = false := by
    rw [← Bool.not_eq_true, Uint.isZero_iff]
    omega
  have externalSome : scaled.externalAssetBalance.isZero = false := by
    rw [← Bool.not_eq_true, Uint.isZero_iff]
    omega
  rw [nativeSome, externalSome]
  rfl

/-- In a run over a deep pool, the pool stays and its reserves stay positive. -/
theorem reserves_positive_deep_pool :
    (run (deliver aliceEnvironment) aliceState deepDeliveries).pools.get (poolKey token.symbol) ≠
        none ∧
      ReservesPositive (run (deliver aliceEnvironment) aliceState deepDeliveries).pools :=
  ⟨by decide +kernel, (reserves_stay_positive aliceEnvironment aliceState rfl deepDeliveries).1⟩

/-- Every pool and every record has units. -/
structure Live (state : State) : Prop where
  pools : Store.All (fun _ pool => 0 < pool.poolUnits.val) state.pools
  records : Store.All (fun _ lp => 0 < lp.liquidityProviderUnits.val) state.providers

/-- A contribution grows the record of its signer or is ample for a new one. -/
def IssuesUnits (context : Context) (state : State) (msg : MsgAddLiquidity) : Prop :=
  (state.getLiquidityProvider msg.externalAsset.symbol msg.signer).isSome = true ∨
    match scaledContribution context state msg with
    | .ok inputs => Ample inputs
    | .error _ => True

/-- A withdrawal is from a pool with other units or exactly leaves more than half a unit. -/
def LeavesUnits (state : State) (msg : MsgRemoveLiquidity) : Prop :=
  match state.getPool msg.externalAsset.symbol,
    state.getLiquidityProvider msg.externalAsset.symbol msg.signer with
  | .ok pool, some lp => lp.liquidityProviderUnits.val < pool.poolUnits.val ∨
      5000 < (10000 - msg.wBasisPoints.val) * lp.liquidityProviderUnits.val
  | _, _ => True

/-- A delivery that neither opens a record without units nor takes the last units of a pool. -/
def LiveDelivery (state : State) (delivery : Delivery) : Prop :=
  match delivery.msg with
  | .addLiquidity msg => IssuesUnits delivery.context state msg
  | .removeLiquidity msg => LeavesUnits state msg
  | _ => True

/-- Whether a contribution issues units is decided by computing them. -/
instance (context : Context) (state : State) (msg : MsgAddLiquidity) :
    Decidable (IssuesUnits context state msg) := by
  unfold IssuesUnits
  exact match scaledContribution context state msg with
    | .ok inputs => inferInstanceAs (Decidable (_ ∨ Ample inputs))
    | .error _ => inferInstanceAs (Decidable (_ ∨ True))

/-- Whether a removal leaves units is decided on the pool and the record. -/
instance (state : State) (msg : MsgRemoveLiquidity) : Decidable (LeavesUnits state msg) := by
  unfold LeavesUnits
  split <;> infer_instance

/-- Whether a delivery keeps units alive is decided by its message. -/
instance (state : State) (delivery : Delivery) : Decidable (LiveDelivery state delivery) := by
  unfold LiveDelivery
  exact match delivery.msg with
    | .addLiquidity msg => inferInstanceAs (Decidable (IssuesUnits delivery.context state msg))
    | .removeLiquidity msg => inferInstanceAs (Decidable (LeavesUnits state msg))
    | .createPool _ | .swap _ | .decommissionPool _ => inferInstanceAs (Decidable True)

/-- Writing a record with units keeps the records live. -/
theorem live_put {providers : Store String LiquidityProvider} {lp : LiquidityProvider}
    (records : Store.All (fun _ lp => 0 < lp.liquidityProviderUnits.val) providers)
    (units : 0 < lp.liquidityProviderUnits.val) :
    Store.All (fun _ lp => 0 < lp.liquidityProviderUnits.val) (putRecord providers lp) := by
  unfold putRecord
  split
  · exact records.set units
  · exact records

/-- A contribution to a live pool keeps everything live. -/
theorem Live.added {msg : MsgAddLiquidity} {signer : AccAddress}
    {entry : TokenRegistry.RegistryEntry} {factor : Dec × Bool} {pool : Pool}
    {newPoolUnits lpUnits nativeTotal externalTotal : Uint} {lp : LiquidityProvider}
    (live : Live state) (sound : SoundPools state.pools) (issues : IssuesUnits context state msg)
    (effect : Added env context state next msg signer entry factor pool newPoolUnits lpUnits
      nativeTotal externalTotal lp) : Live next := by
  obtain ⟨native, external⟩ := sound.positive _ _ effect.found
  have held : 0 < pool.poolUnits.val := live.pools _ _ effect.found
  obtain ⟨scaled, -, scaling, -⟩ :=
    calculatePoolUnits_rounded effect.normalized native external effect.computed
  obtain ⟨kept, issued⟩ :=
    calculatePoolUnits_positive effect.normalized native external held scaling effect.computed
  have computed : scaledContribution context state msg = .ok scaled := by
    simp only [scaledContribution, Result.bind_ok, getPool_ok]
    exact ⟨entry, effect.registered, pool, effect.found, factor, effect.normalized, scaling⟩
  have units : 0 < lp.liquidityProviderUnits.val := by
    have record := effect.record
    unfold contributor at record
    cases found : state.getLiquidityProvider msg.externalAsset.symbol msg.signer with
    | some old =>
      simp only [found, Result.bind_ok, Uint.add_ok, Result.pure_ok] at record
      obtain ⟨total, sum, rfl⟩ := record
      have before : 0 < old.liquidityProviderUnits.val := live.records _ _ found
      change 0 < total.val
      omega
    | none =>
      simp only [found] at record
      cases record
      rw [IssuesUnits, found, computed] at issues
      exact issued (issues.resolve_left (by decide))
  rw [effect.written]
  constructor
  · exact live.pools.set kept
  · dsimp only
    exact live_put live.records units

/-- A withdrawal that leaves units keeps everything live. -/
theorem Live.removed {msg : MsgRemoveLiquidity} {pool finalPool : Pool} {lp : LiquidityProvider}
    {withdrawal : Withdrawal} {paidExternal paidNative : Nat} (live : Live state)
    (checked : msg.validateBasic = .ok ()) (leaves : LeavesUnits state msg)
    (effect : Removed env context state next msg pool lp withdrawal finalPool paidExternal
      paidNative) : Live next := by
  simp only [MsgRemoveLiquidity.validateBasic, Result.bind_ok, Outcome.require_ok] at checked
  obtain ⟨-, -, -, -, -, ⟨some, part⟩, -⟩ := checked
  have poolFound : state.getPool msg.externalAsset.symbol = .ok pool := getPool_ok.mpr effect.found
  have enough := effect.enough
  have sum := effect.units
  have units : 0 < finalPool.poolUnits.val := by
    rw [LeavesUnits, poolFound, effect.recorded] at leaves
    rcases leaves with others | remainder
    · omega
    · have left := lpUnitsLeft_pos effect.computed some part remainder
      omega
  rw [effect.written]
  refine ⟨live.pools.set units, ?_⟩
  unfold withdrawn
  split
  · exact Store.All.delete live.records _
  · rename_i left
    dsimp only
    apply live_put live.records
    apply Nat.pos_of_ne_zero
    intro zero
    exact left (Uint.isZero_iff.mpr zero)

/-- Writing a pool with the units it had keeps the pools live. -/
theorem live_same {pools : Store String Pool} {key : String} {pool after : Pool}
    (live : Store.All (fun _ pool => 0 < pool.poolUnits.val) pools)
    (found : pools.get key = some pool) (sameUnits : after.poolUnits = pool.poolUnits)
    (other : String) : Store.All (fun _ pool => 0 < pool.poolUnits.val) (pools.set other after) := by
  apply live.set
  rw [sameUnits]
  exact live key pool found

/-- A swap leaves all units alone. -/
theorem Live.traded {msg : MsgSwap} (live : Live state) (effect : Traded env state next msg) :
    Live next := by
  cases effect with
  | native sent found sold exchanged =>
    rw [exchanged.written]
    exact ⟨live_same live.pools found sold.sameUnits _, live.records⟩
  | external received found sold exchanged =>
    rw [exchanged.written]
    exact ⟨live_same live.pools found sold.sameUnits _, live.records⟩
  | both sent received firstFound firstSold secondFound secondSold exchanged =>
    rw [exchanged.written]
    have first := live_same live.pools firstFound firstSold.sameUnits
    exact ⟨live_same (first _) secondFound secondSold.sameUnits _, live.records⟩

/-- A delivery of the class keeps everything live. -/
theorem live_step {delivery : Delivery} (sound : SoundPools state.pools) (live : Live state)
    (admitted : LiveDelivery state delivery) (delivered : deliver env state delivery = .ok next) :
    Live next := by
  obtain ⟨checked, -⟩ := deliver_ok delivered
  unfold LiveDelivery at admitted
  cases deliver_effect sound.keyed delivered with
  | created kind external amounts effect =>
    rw [effect.written]
    constructor
    · exact live.pools.set effect.issued
    · dsimp only
      exact live_put live.records effect.issued
  | added kind valid signed effect =>
    rw [kind] at admitted
    exact live.added sound admitted effect
  | removed kind valid effect =>
    rw [kind] at admitted checked
    exact live.removed checked admitted effect
  | traded kind effect => exact live.traded effect
  | decommissioned kind effect =>
    rw [effect.written]
    refine ⟨Store.All.delete live.pools _, fun key lp found => ?_⟩
    exact live.records key lp (get_dropRecords.mp found).1

/-- From an empty store, every run of such deliveries leaves every pool and every record with
units. -/
theorem live_of_deliveries (env : Environment) (start : State)
    (noPools : start.pools = Store.empty) (noRecords : start.providers = Store.empty)
    (deliveries : List Delivery) (admitted : Meets (deliver env) LiveDelivery start deliveries) :
    Live (run (deliver env) start deliveries) := by
  have live : Live start := by
    constructor
    · rw [noPools]
      exact Store.All.empty
    · rw [noRecords]
      exact Store.All.empty
  have kept : ∀ state delivery next, SoundPools state.pools ∧ Live state →
      LiveDelivery state delivery → deliver env state delivery = .ok next →
      SoundPools next.pools ∧ Live next := by
    rintro state delivery next ⟨sound, live⟩ allowed delivered
    exact ⟨sound.effect (deliver_effect sound.keyed delivered),
      live_step sound live allowed delivered⟩
  exact (run_invariant kept ⟨SoundPools.empty noPools, live⟩ admitted).2

section Sample

/-- A pool of equal reserves is opened. -/
def openEven : Delivery :=
  ⟨openContext, .createPool ⟨aliceText, token, amount (10 ^ 18), amount (10 ^ 18)⟩⟩

/-- The second account adds to both sides. -/
def bobAdds (native external : Nat) : Delivery :=
  ⟨openContext, .addLiquidity ⟨bobText, token, amount native, amount external⟩⟩

/-- The first account removes all but one part in ten thousand. -/
def aliceWithdraws : Delivery :=
  ⟨openContext, .removeLiquidity ⟨aliceText, token, ⟨9999, by decide⟩, ⟨0, SInt.zero_bounded⟩⟩⟩

/-- The first account swaps a little. -/
def aliceSells (sent received : Asset) : Delivery :=
  ⟨openContext, .swap ⟨aliceText, sent, received, amount (10 ^ 6), amount 0⟩⟩

end Sample

/-- The pool stays live when a second account joins and the first one leaves almost wholly. -/
theorem live_after_contribution :
    Live (run (deliver pairEnvironment) pairState
      [openEven, bobAdds (10 ^ 17) (10 ^ 16), aliceWithdraws]) :=
  live_of_deliveries pairEnvironment pairState rfl rfl
    [openEven, bobAdds (10 ^ 17) (10 ^ 16), aliceWithdraws] (by decide +kernel)

/-- One unit of the native asset opens a record without units, and withdrawals with two swaps leave
a pool with reserves and without units. -/
theorem units_run_out :
    pairState.pools = Store.empty ∧ pairState.providers = Store.empty ∧
      (run (deliver pairEnvironment) pairState [openEven, bobAdds 1 0]).providers.get
          (getLiquidityProviderKey token.symbol bobText) = some ⟨token, amount 0, bobText⟩ ∧
      (run (deliver pairEnvironment) pairState
        [openEven, aliceWithdraws, aliceWithdraws, aliceWithdraws, aliceWithdraws,
          aliceSells token Asset.settlement, aliceSells Asset.settlement token,
          aliceWithdraws]).pools.get (poolKey token.symbol) =
        some ⟨token, amount 100, amount 100, amount 0⟩ := by
  refine ⟨rfl, rfl, ?_, ?_⟩
  · decide +kernel
  · decide +kernel

end Akhira.Verif.Clp
