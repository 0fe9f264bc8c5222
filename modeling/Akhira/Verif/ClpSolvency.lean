import Akhira.Base.Custody
import Akhira.Verif.ClpHandlers

/-!
# Solvency of the clp module account

Every pool claims its two reserves from the module account. The account covers the pools
as long as no withdrawal swaps a part of itself for nothing: a swap that yields nothing
adds its amount to a reserve although the amount is paid out. The cover is an instance
of the general custody rules, one for each handler.
-/
namespace Akhira.Verif.Clp

open Akhira.Base Akhira.Sdk Akhira.Clp

variable {env : Environment} {context : Context} {state next : State}

/-- A pool claims its external reserve in its own denomination and its native reserve. -/
def poolClaim (pool : Pool) (denom : Denom) : Nat :=
  pairAmount pool.externalAsset.symbol pool.externalAssetBalance.val pool.nativeAssetBalance.val
    denom

/-- Balances that cover keyed pools. -/
structure Covered (pools : Store String Pool) (balance : Denom → Nat) : Prop where
  /-- The pools are keyed. -/
  keyed : PoolsKeyed pools
  /-- Their reserves are covered. -/
  covers : Covers poolClaim pools balance

/-- The module account holds the native reserves of all pools together and the external reserve
of each. -/
structure Solvent (env : Environment) (state : State) : Prop where
  /-- The native reserves. -/
  native : (state.pools.total fun _ pool => pool.nativeAssetBalance.val) ≤
    held env state nativeSymbol
  /-- The external reserve of each pool. -/
  external : ∀ symbol pool, state.pools.get (poolKey symbol) = some pool →
    pool.externalAssetBalance.val ≤ held env state symbol

/-- A covered state is solvent. -/
theorem Covered.solvent (covered : Covered state.pools (held env state)) :
    Solvent env state := by
  constructor
  · have bound := covered.covers nativeSymbol
    refine le_trans ?_ bound
    apply List.sum_le_sum
    intro entry member
    dsimp only
    unfold poolClaim pairAmount
    rw [if_pos (rfl : nativeSymbol = nativeSymbol)]
    exact Nat.le_add_left _ _
  · intro symbol pool found
    have own : pool.externalAsset = ⟨symbol⟩ := covered.keyed.asset_eq found
    have bound := covered.covers.claim_le found symbol
    unfold poolClaim pairAmount at bound
    rw [own, if_pos rfl] at bound
    omega

/-- Creating a pool collects what it claims. -/
theorem Covered.created {msg : MsgCreatePool} {signer : AccAddress} {units : Uint}
    (covered : Covered state.pools (held env state))
    (external : msg.externalAsset ≠ Asset.settlement)
    (created : Created env state next msg signer units) :
    Covered next.pools (held env next) := by
  let pool : Pool := ⟨msg.externalAsset, msg.nativeAssetAmount, msg.externalAssetAmount, units⟩
  have pools : next.pools = state.pools.set (poolKey pool.externalAsset.symbol) pool := by
    rw [created.written]
  rw [pools]
  refine ⟨covered.keyed.set ⟨rfl, external⟩, covered.covers.insert created.fresh fun denom => ?_⟩
  exact le_of_eq (created.gained denom).symm

/-- Replacing a pool by one of the same asset keeps the cover when its claim grows by no more
than the balances. -/
theorem Covered.replaced {pools : Store String Pool} {balance later : Denom → Nat}
    {pool after : Pool} {asset : Asset} (covered : Covered pools balance)
    (found : pools.get (poolKey asset.symbol) = some pool)
    (sameAsset : after.externalAsset = pool.externalAsset)
    (paid : ∀ denom, balance denom +
        pairAmount asset.symbol after.externalAssetBalance.val after.nativeAssetBalance.val denom ≤
      later denom + pairAmount asset.symbol pool.externalAssetBalance.val
        pool.nativeAssetBalance.val denom) :
    Covered (pools.set (poolKey after.externalAsset.symbol) after) later := by
  have own := covered.keyed.asset_eq found
  have external : after.externalAsset ≠ Asset.settlement := by
    rw [sameAsset]
    exact (covered.keyed _ _ found).2
  constructor
  · exact covered.keyed.set ⟨rfl, external⟩
  · rw [sameAsset, own]
    apply covered.covers.replace found
    intro denom
    unfold poolClaim
    rw [sameAsset, own]
    exact paid denom

/-- A contribution is collected. -/
theorem Covered.added {msg : MsgAddLiquidity} {signer : AccAddress}
    {entry : TokenRegistry.RegistryEntry} {factor : Dec × Bool} {pool : Pool}
    {newPoolUnits lpUnits nativeTotal externalTotal : Uint} {lp : LiquidityProvider}
    (covered : Covered state.pools (held env state))
    (added : Added env context state next msg signer entry factor pool newPoolUnits lpUnits
      nativeTotal externalTotal lp) : Covered next.pools (held env next) := by
  let grown := contributed pool newPoolUnits nativeTotal externalTotal
  have pools : next.pools = state.pools.set (poolKey grown.externalAsset.symbol) grown := by
    rw [added.written]
    rfl
  have sameAsset : grown.externalAsset = pool.externalAsset := rfl
  rw [pools]
  refine covered.replaced added.found sameAsset fun denom => ?_
  have native : grown.nativeAssetBalance.val = _ := added.native
  have external : grown.externalAssetBalance.val = _ := added.external
  rw [added.gained denom, native, external]
  unfold pairAmount
  split_ifs <;> omega

/-- A withdrawal that swaps nothing for nothing pays what leaves the reserves. -/
theorem Covered.removed {msg : MsgRemoveLiquidity} {pool finalPool : Pool} {lp : LiquidityProvider}
    {withdrawal : Withdrawal} {paidExternal paidNative : Nat}
    (covered : Covered state.pools (held env state)) (yields : SwapYields context state msg)
    (removed : Removed env context state next msg pool lp withdrawal finalPool paidExternal
      paidNative) : Covered next.pools (held env next) := by
  have pools : next.pools =
      state.pools.set (poolKey finalPool.externalAsset.symbol) finalPool := by
    rw [removed.written]
  rw [pools]
  refine covered.replaced removed.found removed.sameAsset fun denom => ?_
  obtain ⟨native, external⟩ := removed.reserves yields
  have lost := removed.lost denom
  unfold pairAmount at lost ⊢
  split_ifs at lost ⊢ <;> omega

/-- A sale of the native asset, paid in and out of the given balances. -/
theorem Covered.nativeSold {pools : Store String Pool} {balance later : Denom → Nat}
    {asset : Asset} {pool after : Pool} {amount result : Nat} (covered : Covered pools balance)
    (found : pools.get (poolKey asset.symbol) = some pool)
    (sold : NativeSold pool after amount result)
    (moved : ∀ denom, balance denom + only nativeSymbol amount denom ≤
      later denom + only asset.symbol result denom) :
    Covered (pools.set (poolKey after.externalAsset.symbol) after) later := by
  refine covered.replaced found sold.sameAsset fun denom => ?_
  have exchange := moved denom
  have external := sold.external
  rw [sold.native, external]
  unfold only at exchange
  unfold pairAmount
  split_ifs at exchange ⊢ <;> omega

/-- A sale of an external asset, paid in and out of the given balances. -/
theorem Covered.externalSold {pools : Store String Pool} {balance later : Denom → Nat}
    {asset : Asset} {pool after : Pool} {amount result : Nat} (covered : Covered pools balance)
    (found : pools.get (poolKey asset.symbol) = some pool)
    (sold : ExternalSold pool after amount result)
    (moved : ∀ denom, balance denom + only asset.symbol amount denom ≤
      later denom + only nativeSymbol result denom) :
    Covered (pools.set (poolKey after.externalAsset.symbol) after) later := by
  refine covered.replaced found sold.sameAsset fun denom => ?_
  have exchange := moved denom
  have native := sold.native
  rw [sold.external, native]
  unfold only at exchange
  unfold pairAmount
  split_ifs at exchange ⊢ <;> omega

/-- The pools after a swap. -/
theorem Exchanged.pools_eq {msg : MsgSwap} {pools : Store String Pool} {result : Nat}
    (exchanged : Exchanged env state next msg pools result) : next.pools = pools := by
  rw [exchanged.written]

/-- A swap through one or two pools moves the amounts that enter and leave the reserves. -/
theorem Covered.traded {msg : MsgSwap} (covered : Covered state.pools (held env state))
    (traded : Traded env state next msg) : Covered next.pools (held env next) := by
  cases traded with
  | native sent found sold exchanged =>
    rw [exchanged.pools_eq]
    refine covered.nativeSold found sold fun denom => ?_
    have moved := exchanged.moved denom
    rw [sent] at moved
    exact moved
  | external received found sold exchanged =>
    rw [exchanged.pools_eq]
    refine covered.externalSold found sold fun denom => ?_
    have moved := exchanged.moved denom
    rw [received] at moved
    exact moved
  | @both first firstAfter second secondAfter middle result sent received firstFound firstSold
      secondFound secondSold exchanged =>
    rw [exchanged.pools_eq]
    -- Between the hops the native amount is in neither reserve, so the balances that count are
    -- those without it.
    let between (denom : Denom) : Nat := held env state denom +
      only msg.sentAsset.symbol msg.sentAmount.val denom - only nativeSymbol middle denom
    have enough : middle ≤ held env state nativeSymbol := by
      have bound := covered.covers.claim_le firstFound nativeSymbol
      have low := firstSold.low
      unfold poolClaim pairAmount at bound
      rw [if_pos (rfl : nativeSymbol = nativeSymbol)] at bound
      omega
    have hopped : Covered _ between := covered.externalSold firstFound firstSold (by
      intro denom
      by_cases native : nativeSymbol = denom
      · rw [← native]
        simp only [between, only, ↓reduceIte]
        omega
      · simp only [between, only, if_neg native]
        omega)
    refine hopped.nativeSold secondFound secondSold fun denom => ?_
    have moved := exchanged.moved denom
    by_cases native : nativeSymbol = denom
    · rw [← native] at moved ⊢
      simp only [between, only, ↓reduceIte] at moved ⊢
      omega
    · simp only [between, only, if_neg native] at moved ⊢
      omega

/-- Decommissioning a pool pays at most its reserves. -/
theorem Covered.decommissioned {msg : MsgDecommissionPool} {pool : Pool}
    {paidExternal paidNative : Nat} (covered : Covered state.pools (held env state))
    (decommissioned : Decommissioned env state next msg pool paidExternal paidNative) :
    Covered next.pools (held env next) := by
  have found := decommissioned.found
  have own : pool.externalAsset = ⟨msg.symbol⟩ := covered.keyed.asset_eq found
  have pools : next.pools = state.pools.delete (poolKey msg.symbol) := by
    rw [decommissioned.written, own]
  rw [pools]
  refine ⟨covered.keyed.delete _, covered.covers.remove found fun denom => ?_⟩
  have lost := decommissioned.lost denom
  have native := decommissioned.native
  have external := decommissioned.external
  unfold poolClaim
  rw [own]
  unfold pairAmount at lost ⊢
  split_ifs at lost ⊢ <;> omega

/-- A delivery brings no withdrawal that swaps a part of itself for nothing. -/
def YieldingDelivery (state : State) (delivery : Delivery) : Prop :=
  match delivery.msg with
  | .removeLiquidity msg => SwapYields delivery.context state msg
  | _ => True

/-- The quote decides the class of a delivery. -/
instance (state : State) (delivery : Delivery) : Decidable (YieldingDelivery state delivery) := by
  unfold YieldingDelivery
  split <;> infer_instance

/-- A delivery that swaps nothing for nothing keeps the pools covered. -/
theorem covered_step {delivery : Delivery} (covered : Covered state.pools (held env state))
    (yields : YieldingDelivery state delivery)
    (delivered : deliver env state delivery = .ok next) : Covered next.pools (held env next) := by
  cases deliver_effect covered.keyed delivered with
  | created kind external amounts effect => exact covered.created external effect
  | added kind valid signed effect => exact covered.added effect
  | removed kind valid effect =>
    unfold YieldingDelivery at yields
    rw [kind] at yields
    exact covered.removed yields effect
  | traded kind effect => exact covered.traded effect
  | decommissioned kind effect => exact covered.decommissioned effect

/-- From a state without pools, every run of deliveries that swap nothing for nothing leaves the
module account solvent. -/
theorem solvent_of_yielding (env : Environment) (start : State)
    (noPools : start.pools = Store.empty) (deliveries : List Delivery)
    (yields : Meets (deliver env) YieldingDelivery start deliveries) :
    Solvent env (run (deliver env) start deliveries) := by
  have covered : Covered start.pools (held env start) := by
    rw [noPools]
    exact ⟨Store.All.empty, Covers.empty⟩
  have reached := run_invariant (fun _ _ _ holds allowed => covered_step holds allowed) covered
    yields
  exact reached.solvent

/-- The bytes of an account. -/
def aliceAddress : AccAddress := List.replicate 20 1

/-- The bech32 text of that account. -/
def aliceText : String := "ak1qyqszqgpqyqszqgpqyqszqgpqyqszqgpz09ut2"

/-- The address of the clp module account. -/
def clpModuleAddress : AccAddress :=
  [12, 182, 165, 28, 112, 67, 128, 149, 71, 163, 177, 189, 253, 148, 129, 177, 55, 223, 108, 67]

/-- The chain seen by one account, whose text decodes in small and in capital letters. -/
def aliceEnvironment : Environment where
  accAddressFromBech32 text :=
    if text = aliceText ∨ text = aliceText.toUpper then some aliceAddress else none
  accAddressText address := if address = aliceAddress then aliceText else ""
  moduleAddress _ := clpModuleAddress
  blockedAddr address := address = clpModuleAddress

/-- A token with 18 decimals. -/
def token : Asset := ⟨"cdai"⟩

/-- The account owns both assets; there is no pool and nothing in the module account. -/
def aliceState : State where
  pools := Store.empty
  providers := Store.empty
  whiteList := none
  bank := ⟨fun address _ => if address = aliceAddress then 10 ^ 24 else 0⟩

/-- Both assets are registered for pools and nothing is vesting. -/
def openContext : Context where
  registry := [⟨"aku", 18, [.clp], "aku"⟩, ⟨"cdai", 18, [.clp], "cdai"⟩]
  locked _ _ := 0

/-- A small number as a `Uint`. -/
def amount (value : Nat) : Uint := ⟨value % 2 ^ 256, Nat.mod_lt _ (by decide)⟩

/-- Opening a deep pool, trading with it and withdrawing half of it mostly in the token. -/
def deepDeliveries : List Delivery :=
  [⟨openContext, .createPool ⟨aliceText, token, amount (10 ^ 20), amount (10 ^ 20)⟩⟩,
    ⟨openContext, .swap ⟨aliceText, Asset.settlement, token, amount (10 ^ 18), amount 1⟩⟩,
    ⟨openContext, .removeLiquidity ⟨aliceText, token, ⟨5000, by decide⟩, ⟨2000, by decide⟩⟩⟩]

/-- The module account is solvent after a swap and an asymmetric withdrawal that yield. -/
theorem solvent_deep_pool :
    Solvent aliceEnvironment (run (deliver aliceEnvironment) aliceState deepDeliveries) :=
  solvent_of_yielding aliceEnvironment aliceState rfl deepDeliveries (by decide +kernel)

/-- Opening a pool with 10^18 of the native asset and one unit of the token. -/
def createThin : Delivery :=
  ⟨openContext, .createPool ⟨aliceText, token, amount (10 ^ 18), amount 1⟩⟩

/-- Withdrawing a tenth and taking all of it in the token. -/
def withdrawToken : Delivery :=
  ⟨openContext, .removeLiquidity ⟨aliceText, token, ⟨1000, by decide⟩, ⟨10000, by decide⟩⟩⟩

/-- Withdrawing a tenth from a pool with one unit of the token and taking all of it in the token
pays the native part out and leaves it in the reserve. -/
theorem insolvent_after_withdrawal :
    aliceState.pools = Store.empty ∧
      (∀ denom, held aliceEnvironment aliceState denom = 0) ∧
      ¬ Solvent aliceEnvironment
        (run (deliver aliceEnvironment) aliceState [createThin, withdrawToken]) := by
  refine ⟨rfl, fun denom => by rfl, fun solvent => ?_⟩
  have native := solvent.native
  revert native
  decide +kernel

end Akhira.Verif.Clp
