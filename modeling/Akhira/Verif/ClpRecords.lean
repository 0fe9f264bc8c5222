import Akhira.Base.Text
import Akhira.Verif.ClpUnits

/-!
# The clp records on every run

Whatever messages are delivered, every pool is stored under its own symbol with two
reserves that are not empty, every provider record is stored under its own asset and
address, and its asset has a pool. The last needs that the unlimited page of a
decommission lists every record of the asset.
-/
namespace Akhira.Verif.Clp

open Akhira.Base Akhira.Sdk Akhira.Clp

variable {env : Environment} {context : Context} {state next : State}

/-- A denomination has no underscore. -/
theorem underscore_notMem {denom : Denom} (valid : validDenom denom = true) :
    '_' ∉ denom.toList := by
  unfold validDenom at valid
  split at valid
  · cases valid
  · rename_i first rest letters
    rw [letters]
    simp only [Bool.and_eq_true, List.all_eq_true, Bool.or_eq_true] at valid
    obtain ⟨⟨⟨head, -⟩, -⟩, tail⟩ := valid
    intro member
    rcases List.mem_cons.mp member with rfl | later
    · revert head
      decide
    · have wrong := tail _ later
      revert wrong
      decide

/-- Records of valid assets have the same key only if they agree in asset and address. -/
theorem recordKey_injective {left right : Asset} {leftAddress rightAddress : String}
    (leftValid : left.validate = .ok true) (rightValid : right.validate = .ok true)
    (same : getLiquidityProviderKey left.symbol leftAddress =
      getLiquidityProviderKey right.symbol rightAddress) :
    left = right ∧ leftAddress = rightAddress := by
  unfold getLiquidityProviderKey at same
  have letters := congrArg String.toList same
  simp only [String.toList_append, List.append_assoc] at letters
  change left.symbol.toList ++ '_' :: leftAddress.toList =
    right.symbol.toList ++ '_' :: rightAddress.toList at letters
  have leftClean := underscore_notMem (Asset.validDenom_of_validate leftValid)
  have rightClean := underscore_notMem (Asset.validDenom_of_validate rightValid)
  obtain ⟨symbols, addresses⟩ := separated_injective leftClean rightClean letters
  refine ⟨?_, String.toList_inj.mp addresses⟩
  cases left
  cases right
  exact congrArg Asset.mk (String.toList_inj.mp symbols)

/-- Every record is stored under its own asset, which is a denomination, and its own address. -/
def RecordsKeyed : Store String LiquidityProvider → Prop :=
  Store.All fun key lp =>
    key = getLiquidityProviderKey lp.asset.symbol lp.liquidityProviderAddress ∧
      lp.asset.validate = .ok true

namespace RecordsKeyed

variable {providers : Store String LiquidityProvider}

/-- A record found under an asset and an address is of that asset and address. -/
theorem found_eq (keyed : RecordsKeyed providers) {asset : Asset} {address : String}
    {lp : LiquidityProvider} (valid : asset.validate = .ok true)
    (found : providers.get (getLiquidityProviderKey asset.symbol address) = some lp) :
    lp.asset = asset ∧ lp.liquidityProviderAddress = address := by
  obtain ⟨own, ownValid⟩ := keyed _ _ found
  obtain ⟨sameAsset, sameAddress⟩ := recordKey_injective valid ownValid own
  exact ⟨sameAsset.symm, sameAddress.symm⟩

/-- Writing a record keeps the keys. -/
theorem put (keyed : RecordsKeyed providers) (lp : LiquidityProvider) :
    RecordsKeyed (putRecord providers lp) := by
  unfold putRecord
  split
  · rename_i valid
    exact Store.All.set keyed ⟨rfl, valid⟩
  · exact keyed

/-- A withdrawal keeps the keys. -/
theorem withdrawn (keyed : RecordsKeyed providers) (lp : LiquidityProvider) (left : Uint) :
    RecordsKeyed (Clp.withdrawn providers lp left) := by
  unfold Clp.withdrawn
  split
  · exact Store.All.delete keyed _
  · exact keyed.put _

end RecordsKeyed

/-- A record is left by dropping others when it was there and is none of them. -/
theorem get_dropRecords {providers : Store String LiquidityProvider} {lps : List LiquidityProvider}
    {key : String} {lp : LiquidityProvider} :
    (dropRecords providers lps).get key = some lp ↔ providers.get key = some lp ∧
      ∀ other ∈ lps,
        key ≠ getLiquidityProviderKey other.asset.symbol other.liquidityProviderAddress := by
  induction lps generalizing providers with
  | nil => simp [dropRecords]
  | cons head tail ih =>
    change (dropRecords (providers.delete _) tail).get key = some lp ↔ _
    rw [ih, List.forall_mem_cons]
    by_cases same : key = getLiquidityProviderKey head.asset.symbol head.liquidityProviderAddress
    · rw [same, Store.get_delete_same]
      simp
    · rw [Store.get_delete_other _ same]
      exact ⟨fun ⟨found, rest⟩ => ⟨found, same, rest⟩, fun ⟨found, _, rest⟩ => ⟨found, rest⟩⟩

/-- A page has records that are kept only. -/
theorem mem_filteredPaginate {α : Type} {offset limit : UInt64} {onResult : α → Bool}
    {numHits : UInt64} {values : List α} {value : α}
    (listed : value ∈ filteredPaginate offset limit onResult numHits values) :
    value ∈ values ∧ onResult value = true := by
  induction values generalizing numHits with
  | nil => cases listed
  | cons first rest ih =>
    rw [filteredPaginate] at listed
    generalize (if onResult first = true then numHits + 1 else numHits) = hits at listed
    have parts : value ∈ (if onResult first = true ∧ offset ≤ numHits ∧ numHits < offset + limit
        then [first] else []) ∨ value ∈ filteredPaginate offset limit onResult hits rest := by
      split at listed
      · exact .inl listed
      · exact List.mem_append.mp listed
    rcases parts with own | later
    · split at own
      · next kept =>
        rw [List.mem_singleton.mp own]
        exact ⟨List.mem_cons_self, kept.1⟩
      · cases own
    · obtain ⟨among, kept⟩ := ih later
      exact ⟨List.mem_cons_of_mem _ among, kept⟩

/-- The records that are listed for an asset are stored, and are of the asset. -/
theorem mem_listed {asset : Asset} {lp : LiquidityProvider}
    (listed : lp ∈ state.getLiquidityProvidersForAsset asset) :
    (∃ key, state.providers.get key = some lp) ∧ lp.asset = asset := by
  obtain ⟨among, own⟩ := mem_filteredPaginate listed
  obtain ⟨⟨key, record⟩, stored, rfl⟩ := List.mem_map.mp among
  exact ⟨⟨key, state.providers.get_eq_some.mpr stored⟩, of_decide_eq_true own⟩

/-- Every record of an asset is listed for it. -/
def ListsAll (state : State) (asset : Asset) : Prop :=
  ∀ lp ∈ state.providers.values, lp.asset = asset → lp ∈ state.getLiquidityProvidersForAsset asset

/-- Whether all records are listed is decided over the stored ones. -/
instance (state : State) (asset : Asset) : Decidable (ListsAll state asset) :=
  inferInstanceAs (Decidable (∀ _ ∈ _, _))

/-- After all records of an asset are dropped, the records left are those of other assets. -/
theorem of_dropListed {asset : Asset} {key : String} {lp : LiquidityProvider}
    (all : ListsAll state asset) (keyed : RecordsKeyed state.providers)
    (left : (dropRecords state.providers (state.getLiquidityProvidersForAsset asset)).get key =
      some lp) : state.providers.get key = some lp ∧ lp.asset ≠ asset := by
  obtain ⟨found, others⟩ := get_dropRecords.mp left
  refine ⟨found, fun same => ?_⟩
  have stored : lp ∈ state.providers.values :=
    List.mem_map.mpr ⟨(key, lp), state.providers.get_eq_some.mp found, rfl⟩
  exact others lp (all lp stored same) (keyed _ _ found).1

/-- No pool has an empty reserve. -/
def ReservesPositive : Store String Pool → Prop :=
  Store.All fun _ pool => 0 < pool.nativeAssetBalance.val ∧ 0 < pool.externalAssetBalance.val

/-- Every record is of an asset that has a pool. -/
def RecordsOwned (pools : Store String Pool) (providers : Store String LiquidityProvider) : Prop :=
  Store.All (fun _ lp => (pools.get (poolKey lp.asset.symbol)).isSome = true) providers

/-- What holds of the clp records as long as no decommission leaves records behind. -/
structure Orderly (state : State) : Prop where
  /-- Pools are stored under their symbols. -/
  keyed : PoolsKeyed state.pools
  /-- Their reserves are not empty. -/
  positive : ReservesPositive state.pools
  /-- Records are stored under their assets and addresses. -/
  recordsKeyed : RecordsKeyed state.providers
  /-- Their assets have pools. -/
  owned : RecordsOwned state.pools state.providers

/-- A state without pools and records is orderly. -/
theorem Orderly.empty {state : State} (noPools : state.pools = Store.empty)
    (noRecords : state.providers = Store.empty) : Orderly state := by
  constructor
  case keyed | positive =>
    rw [noPools]
    exact Store.All.empty
  case recordsKeyed | owned =>
    rw [noRecords]
    exact Store.All.empty

namespace RecordsOwned

variable {pools : Store String Pool} {providers : Store String LiquidityProvider}

/-- Writing a pool keeps the records owned. -/
theorem set_pool (owned : RecordsOwned pools providers) (key : String) (pool : Pool) :
    RecordsOwned (pools.set key pool) providers := by
  intro recordKey lp found
  exact Store.isSome_set _ (owned recordKey lp found)

/-- Writing a record of an asset that has a pool keeps the records owned. -/
theorem put (owned : RecordsOwned pools providers) {lp : LiquidityProvider}
    (new : (pools.get (poolKey lp.asset.symbol)).isSome = true) :
    RecordsOwned pools (putRecord providers lp) := by
  unfold putRecord
  split
  · exact Store.All.set owned new
  · exact owned

end RecordsOwned

/-- The record a contribution writes is of the asset of the message. -/
theorem contributor_asset (keyed : RecordsKeyed state.providers) {msg : MsgAddLiquidity}
    {signer : AccAddress} {lpUnits : Uint} {lp : LiquidityProvider}
    (valid : msg.externalAsset.validate = .ok true)
    (record : contributor env state msg signer lpUnits = .ok lp) :
    lp.asset = msg.externalAsset := by
  unfold contributor at record
  split at record
  · rename_i old found
    simp only [Result.bind_ok, Result.pure_ok] at record
    obtain ⟨units, -, rfl⟩ := record
    exact (keyed.found_eq valid found).1
  · cases record
    rfl

/-- Pools stored under their symbols with reserves that are not empty. -/
structure SoundPools (pools : Store String Pool) : Prop where
  keyed : PoolsKeyed pools
  positive : ReservesPositive pools

namespace SoundPools

variable {pools : Store String Pool} {key : String} {pool after : Pool} {sold result : Nat}

/-- Writing an external pool with two reserves keeps the pools sound. -/
theorem set (sound : SoundPools pools) (external : after.externalAsset ≠ Asset.settlement)
    (reserves : 0 < after.nativeAssetBalance.val ∧ 0 < after.externalAssetBalance.val) :
    SoundPools (pools.set (poolKey after.externalAsset.symbol) after) :=
  ⟨sound.keyed.set ⟨rfl, external⟩, sound.positive.set reserves⟩

/-- A sale of the native asset keeps the pools sound. -/
theorem nativeSold (sound : SoundPools pools) (found : pools.get key = some pool)
    (sale : NativeSold pool after sold result) :
    SoundPools (pools.set (poolKey after.externalAsset.symbol) after) := by
  have external := (sound.keyed _ _ found).2
  have before := sound.positive _ _ found
  have grown := sale.native
  have paid := sale.external
  have low := sale.low
  rw [← sale.sameAsset] at external
  exact sound.set external ⟨by omega, by omega⟩

/-- A sale of an external asset keeps the pools sound. -/
theorem externalSold (sound : SoundPools pools) (found : pools.get key = some pool)
    (sale : ExternalSold pool after sold result) :
    SoundPools (pools.set (poolKey after.externalAsset.symbol) after) := by
  have external := (sound.keyed _ _ found).2
  have before := sound.positive _ _ found
  have grown := sale.external
  have paid := sale.native
  have low := sale.low
  rw [← sale.sameAsset] at external
  exact sound.set external ⟨by omega, by omega⟩

/-- Every effect of a delivery keeps the pools sound. -/
theorem effect {delivery : Delivery} (sound : SoundPools state.pools)
    (effect : Effect env state next delivery) : SoundPools next.pools := by
  cases effect with
  | @created msg _ units kind external amounts created =>
    let pool : Pool := ⟨msg.externalAsset, msg.nativeAssetAmount, msg.externalAssetAmount, units⟩
    rw [created.written]
    exact @SoundPools.set _ pool sound external amounts
  | @added msg _ _ _ pool newPoolUnits _ nativeTotal externalTotal _ kind valid signed added =>
    have external := (sound.keyed _ _ added.found).2
    have before := sound.positive _ _ added.found
    have native := added.native
    have grown := added.external
    let after := contributed pool newPoolUnits nativeTotal externalTotal
    have reserves : 0 < after.nativeAssetBalance.val ∧ 0 < after.externalAssetBalance.val := by
      change 0 < nativeTotal.val ∧ 0 < externalTotal.val
      omega
    rw [added.written]
    exact @SoundPools.set _ after sound external reserves
  | removed kind valid removed =>
    have external := (sound.keyed _ _ removed.found).2
    rw [← removed.sameAsset] at external
    rw [removed.written]
    exact sound.set external removed.positive
  | traded kind traded =>
    cases traded with
    | native sent found sale exchanged =>
      rw [exchanged.written]
      exact sound.nativeSold found sale
    | external received found sale exchanged =>
      rw [exchanged.written]
      exact sound.externalSold found sale
    | both sent received firstFound firstSale secondFound secondSale exchanged =>
      rw [exchanged.written]
      exact (sound.externalSold firstFound firstSale).nativeSold secondFound secondSale
  | decommissioned kind decommissioned =>
    rw [decommissioned.written]
    exact ⟨Store.All.delete sound.keyed _, Store.All.delete sound.positive _⟩

end SoundPools

/-- Every effect of a delivery keeps the records under their keys. -/
theorem RecordsKeyed.effect {delivery : Delivery} (keyed : RecordsKeyed state.providers)
    (effect : Effect env state next delivery) : RecordsKeyed next.providers := by
  cases effect with
  | created kind external amounts created =>
    rw [created.written]
    exact keyed.put _
  | added kind valid signed added =>
    rw [added.written]
    exact keyed.put _
  | removed kind valid removed =>
    rw [removed.written]
    exact keyed.withdrawn _ _
  | traded kind traded =>
    cases traded with
    | native sent found sale exchanged =>
      rw [exchanged.written]
      exact keyed
    | external received found sale exchanged =>
      rw [exchanged.written]
      exact keyed
    | both sent received firstFound firstSale secondFound secondSale exchanged =>
      rw [exchanged.written]
      exact keyed
  | decommissioned kind decommissioned =>
    rw [decommissioned.written]
    intro key lp found
    exact keyed key lp (get_dropRecords.mp found).1

/-- The page of a decommission lists every record of the asset of its pool. -/
def HandsOverAll (state : State) (msg : MsgDecommissionPool) : Prop :=
  match state.pools.get (poolKey msg.symbol) with
  | some pool => pool.nativeAssetBalance.val < poolThrehold → ListsAll state pool.externalAsset
  | none => True

/-- Decommissioning a pool leaves the records of the assets that keep a pool. -/
theorem Orderly.decommissioned {msg : MsgDecommissionPool} {pool : Pool}
    {paidExternal paidNative : Nat} (orderly : Orderly state) (all : HandsOverAll state msg)
    (decommissioned : Decommissioned env state next msg pool paidExternal paidNative) :
    RecordsOwned next.pools next.providers := by
  have listed : ListsAll state pool.externalAsset := by
    unfold HandsOverAll at all
    rw [decommissioned.found] at all
    exact all decommissioned.low
  have pools : next.pools = state.pools.delete (poolKey pool.externalAsset.symbol) := by
    rw [decommissioned.written]
  intro key lp found
  rw [decommissioned.written] at found
  obtain ⟨before, different⟩ := of_dropListed listed orderly.recordsKeyed found
  have other : poolKey lp.asset.symbol ≠ poolKey pool.externalAsset.symbol := by
    intro same
    exact different (congrArg Asset.mk (poolKey_injective same))
  rw [pools, Store.get_delete_other _ other]
  exact orderly.owned key lp before

/-- Every effect of a delivery leaves the assets of the records with pools, if a decommission is
handed all records of its pool. -/
theorem Orderly.owned_effect {delivery : Delivery} (orderly : Orderly state)
    (all : ∀ msg, delivery.msg = .decommissionPool msg → HandsOverAll state msg)
    (effect : Effect env state next delivery) : RecordsOwned next.pools next.providers := by
  cases effect with
  | created kind external amounts created =>
    rw [created.written]
    dsimp only
    refine (orderly.owned.set_pool _ _).put ?_
    rw [Store.get_set_same]
    rfl
  | added kind valid signed added =>
    have own := orderly.keyed.asset_eq added.found
    rw [added.written]
    dsimp only
    refine (orderly.owned.set_pool _ _).put ?_
    rw [contributor_asset orderly.recordsKeyed valid added.record, ← own, Store.get_set_same]
    rfl
  | @removed _ _ finalPool lp _ _ _ kind valid removed =>
    have owned := orderly.owned.set_pool (poolKey finalPool.externalAsset.symbol) finalPool
    rw [removed.written]
    unfold withdrawn
    dsimp only
    split
    · exact Store.All.delete owned _
    · exact owned.put (owned _ lp removed.recorded)
  | traded kind traded =>
    cases traded with
    | native sent found sale exchanged =>
      rw [exchanged.written]
      exact orderly.owned.set_pool _ _
    | external received found sale exchanged =>
      rw [exchanged.written]
      exact orderly.owned.set_pool _ _
    | both sent received firstFound firstSale secondFound secondSale exchanged =>
      rw [exchanged.written]
      exact (orderly.owned.set_pool _ _).set_pool _ _
  | decommissioned kind decommissioned => exact orderly.decommissioned (all _ kind) decommissioned

/-- Every delivery keeps the records orderly, if a decommission is handed all records of its
pool. -/
theorem orderly_step {delivery : Delivery} (orderly : Orderly state)
    (all : ∀ msg, delivery.msg = .decommissionPool msg → HandsOverAll state msg)
    (delivered : deliver env state delivery = .ok next) : Orderly next := by
  have effect := deliver_effect orderly.keyed delivered
  have sound : SoundPools state.pools := ⟨orderly.keyed, orderly.positive⟩
  have pools := sound.effect effect
  exact ⟨pools.keyed, pools.positive, orderly.recordsKeyed.effect effect,
    orderly.owned_effect all effect⟩

end Akhira.Verif.Clp
