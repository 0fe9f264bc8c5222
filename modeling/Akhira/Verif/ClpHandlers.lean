import Akhira.Verif.ClpKeeper

/-!
# What the handlers do

For each message, one structure says what a successful handler leaves: the pool and the
provider record it writes, the amounts that enter or leave the module account, and how
the reserves, the units and these amounts relate. The invariants of the module follow
from these descriptions alone.
-/
namespace Akhira.Verif.Clp

open Akhira.Base Akhira.Sdk Akhira.Clp Akhira.TokenRegistry

variable {env : Environment} {context : Context} {state next : State}

/-- A pool after selling it an amount of the native asset. -/
structure NativeSold (pool after : Pool) (amount result : Nat) : Prop where
  /-- The pool keeps its asset. -/
  sameAsset : after.externalAsset = pool.externalAsset
  /-- The pool keeps its units. -/
  sameUnits : after.poolUnits = pool.poolUnits
  /-- The native reserve grows by the amount sold. -/
  native : after.nativeAssetBalance.val = pool.nativeAssetBalance.val + amount
  /-- The external reserve pays the amount bought. -/
  external : pool.externalAssetBalance.val = result + after.externalAssetBalance.val
  /-- Less than the external reserve is paid. -/
  low : result < pool.externalAssetBalance.val

/-- A pool after selling it an amount of its external asset. -/
structure ExternalSold (pool after : Pool) (amount result : Nat) : Prop where
  /-- The pool keeps its asset. -/
  sameAsset : after.externalAsset = pool.externalAsset
  /-- The pool keeps its units. -/
  sameUnits : after.poolUnits = pool.poolUnits
  /-- The external reserve grows by the amount sold. -/
  external : after.externalAssetBalance.val = pool.externalAssetBalance.val + amount
  /-- The native reserve pays the amount bought. -/
  native : pool.nativeAssetBalance.val = result + after.nativeAssetBalance.val
  /-- Less than the native reserve is paid. -/
  low : result < pool.nativeAssetBalance.val

/-- A swap of the native asset grows the native reserve and pays from the external one. -/
theorem swapOne_native {sentAmount : Uint} {toAsset : Asset} {pool : Pool} {factor : Dec}
    {adjust : Bool} {swapped : Swapped} (external : toAsset ≠ Asset.settlement)
    (traded : swapOne Asset.settlement sentAmount toAsset pool factor adjust = .ok swapped) :
    calcSwapResult false factor adjust
        ⟨pool.nativeAssetBalance, sentAmount, pool.externalAssetBalance⟩ = .ok swapped.swapResult ∧
      NativeSold pool swapped.pool sentAmount.val swapped.swapResult.val := by
  simp only [swapOne, setInputs, if_neg external, Result.bind_ok, Outcome.require_ok,
    Uint.add_ok, Uint.sub_ok, ↓reduceIte, Result.pure_ok] at traded
  obtain ⟨fee, -, impact, -, result, computed, -, enough, grown, grownEq, left, leftEq, rfl⟩ :=
    traded
  exact ⟨computed, rfl, rfl, grownEq, leftEq, enough⟩

/-- A swap into the native asset grows the external reserve and pays from the native one. -/
theorem swapOne_external {fromAsset : Asset} {sentAmount : Uint} {pool : Pool} {factor : Dec}
    {adjust : Bool} {swapped : Swapped} (external : fromAsset ≠ Asset.settlement)
    (traded : swapOne fromAsset sentAmount Asset.settlement pool factor adjust = .ok swapped) :
    calcSwapResult true factor adjust
        ⟨pool.externalAssetBalance, sentAmount, pool.nativeAssetBalance⟩ = .ok swapped.swapResult ∧
      ExternalSold pool swapped.pool sentAmount.val swapped.swapResult.val := by
  simp only [swapOne, setInputs, if_neg external, Result.bind_ok, Outcome.require_ok,
    Uint.add_ok, Uint.sub_ok, ↓reduceIte, Result.pure_ok] at traded
  obtain ⟨fee, -, impact, -, result, computed, -, enough, grown, grownEq, left, leftEq, rfl⟩ :=
    traded
  exact ⟨computed, rfl, rfl, grownEq, leftEq, enough⟩

/-- Scaling multiplies the amounts of one side and keeps the units. -/
theorem normalize_ok {inputs scaled : UnitInputs} {factor : Dec} {adjust : Bool}
    (normalized : inputs.normalize factor adjust = .ok scaled) :
    ∃ nf, factor.roundUint = .ok nf ∧ scaled.oldPoolUnits = inputs.oldPoolUnits ∧
      scaled.nativeAssetBalance.val =
        inputs.nativeAssetBalance.val * (if adjust then 1 else nf.val) ∧
      scaled.externalAssetBalance.val =
        inputs.externalAssetBalance.val * (if adjust then nf.val else 1) ∧
      scaled.nativeAssetAmount.val =
        inputs.nativeAssetAmount.val * (if adjust then 1 else nf.val) ∧
      scaled.externalAssetAmount.val =
        inputs.externalAssetAmount.val * (if adjust then nf.val else 1) := by
  rw [UnitInputs.normalize, Result.bind_ok] at normalized
  obtain ⟨nf, rounded, rest⟩ := normalized
  refine ⟨nf, rounded, ?_⟩
  split at rest
  · rename_i external
    simp only [Result.bind_ok, Uint.mul_ok, Result.pure_ok] at rest
    obtain ⟨amount, amountEq, balance, balanceEq, rfl⟩ := rest
    exact ⟨rfl, by rw [if_pos external, Nat.mul_one], by rw [if_pos external]; exact balanceEq,
      by rw [if_pos external, Nat.mul_one], by rw [if_pos external]; exact amountEq⟩
  · rename_i native
    simp only [Result.bind_ok, Uint.mul_ok, Result.pure_ok] at rest
    obtain ⟨amount, amountEq, balance, balanceEq, rfl⟩ := rest
    exact ⟨rfl, by rw [if_neg native]; exact balanceEq, by rw [if_neg native, Nat.mul_one],
      by rw [if_neg native]; exact amountEq, by rw [if_neg native, Nat.mul_one]⟩

/-- By how many decimals a token differs from 18. -/
def decimalsGap (decimals : Int) : Nat := (decimals - 18).natAbs

/-- A normalisation factor is a power of ten, and the external side is scaled when its token has
fewer decimals. -/
theorem getNormalizationFactor_ok {decimals : Int} {factor : Dec × Bool}
    (normalized : getNormalizationFactor decimals = .ok factor) :
    factor.1.raw = 10 ^ decimalsGap decimals * Dec.precision ∧
      factor.2 = decide (decimals < 18) := by
  unfold getNormalizationFactor at normalized
  unfold decimalsGap
  split at normalized
  · rename_i same
    subst same
    cases normalized
    exact ⟨rfl, rfl⟩
  · split at normalized <;>
    · rename_i fewer
      simp only [Result.bind_ok, Result.pure_ok] at normalized
      obtain ⟨power, computed, rfl⟩ := normalized
      refine ⟨?_, by simp [fewer]⟩
      rw [Dec.power_integral 10 computed]
      congr 2
      omega

/-- A normalisation factor is a positive integer. -/
theorem normalizationFactor_pos {decimals : Int} {factor : Dec × Bool} {nf : Uint}
    (normalized : getNormalizationFactor decimals = .ok factor)
    (rounded : factor.1.roundUint = .ok nf) : 0 < nf.val := by
  have value := Dec.roundUint_ok rounded
  rw [(getNormalizationFactor_ok normalized).1, chop_mul _ Dec.precision_pos] at value
  have positive : (0 : Int) < 10 ^ decimalsGap decimals := by positivity
  omega

/-- The first contribution to a pool is issued as many units as the pool has, some for every native
amount. -/
theorem calculatePoolUnits_first {native external : Uint} {decimals : Int} {factor : Dec × Bool}
    {units : Uint × Uint} (normalizing : getNormalizationFactor decimals = .ok factor)
    (computed : calculatePoolUnits ⟨Uint.zero, Uint.zero, Uint.zero, native, external⟩ factor.1
      factor.2 = .ok units) : units.1 = units.2 ∧ (0 < native.val → 0 < units.1.val) := by
  simp only [calculatePoolUnits, Result.bind_ok] at computed
  obtain ⟨scaled, normalized, -, -, branch⟩ := computed
  obtain ⟨nf, rounded, -, nativeScaled, -, amountScaled, -⟩ := normalize_ok normalized
  have zero : scaled.nativeAssetBalance.isZero = true := by
    rw [Uint.isZero_iff, nativeScaled, Uint.zero_val, Nat.zero_mul]
  rw [zero, Bool.true_or, if_pos rfl, Result.pure_ok] at branch
  subst branch
  refine ⟨rfl, fun some => ?_⟩
  have nfPositive := normalizationFactor_pos normalizing rounded
  have scale : 0 < (if factor.2 then 1 else nf.val) := by split <;> omega
  rw [amountScaled]
  exact Nat.mul_pos some scale

/-- A created pool with its first record. -/
structure Created (env : Environment) (state next : State) (msg : MsgCreatePool)
    (signer : AccAddress) (units : Uint) : Prop where
  /-- The asset is a denomination. -/
  valid : msg.externalAsset.validate = .ok true
  /-- There was no pool. -/
  fresh : state.pools.get (poolKey msg.externalAsset.symbol) = none
  /-- The creation amount is above the threshold. -/
  threshold : poolThrehold ≤ msg.nativeAssetAmount.val
  /-- Units are issued. -/
  issued : 0 < units.val
  /-- The pool and the record are written. -/
  written : next = { state with
    pools := state.pools.set (poolKey msg.externalAsset.symbol)
      ⟨msg.externalAsset, msg.nativeAssetAmount, msg.externalAssetAmount, units⟩
    providers := putRecord state.providers ⟨msg.externalAsset, units, env.accAddressText signer⟩
    bank := next.bank }
  /-- The module collects the reserves. -/
  gained : ∀ denom, held env next denom = held env state denom + pairAmount
    msg.externalAsset.symbol msg.externalAssetAmount.val msg.nativeAssetAmount.val denom

/-- A successful creation is described by `Created`. -/
theorem handleCreatePool_ok {msg : MsgCreatePool} {signer : AccAddress}
    (signed : env.accAddressFromBech32 msg.signer = some signer)
    (outside : signer ≠ env.clpAddress)
    (handled : state.handleCreatePool env context msg = .ok next) :
    ∃ units, Created env state next msg signer units := by
  simp only [State.handleCreatePool, Result.bind_ok, Outcome.require_ok, Outcome.wrapping_ok,
    decode_ok, signed, Option.some.injEq, Result.pure_ok] at handled
  obtain ⟨-, threshold, entry, -, -, missing, factor, normalizing, units, computed, middle, created,
    addr, rfl, record, recorded, rfl⟩ := handled
  obtain ⟨sameUnits, some⟩ := calculatePoolUnits_first normalizing computed
  have native : 0 < msg.nativeAssetAmount.val := by
    unfold poolThrehold at threshold
    omega
  obtain ⟨valid, frame, gained⟩ := createPool_ok signed outside created
  obtain ⟨-, written⟩ := createLiquidityProvider_ok recorded
  have fresh : state.pools.get (poolKey msg.externalAsset.symbol) = none := by
    simpa [State.existsPool, Store.has] using missing
  refine ⟨units.1, valid, fresh, threshold, some native, ?_, ?_⟩
  · rw [written, frame, ← sameUnits]
  · rw [written]
    exact gained

/-- A contribution to a pool. -/
structure Added (env : Environment) (context : Context) (state next : State)
    (msg : MsgAddLiquidity) (signer : AccAddress) (entry : RegistryEntry) (factor : Dec × Bool)
    (pool : Pool) (newPoolUnits lpUnits nativeTotal externalTotal : Uint)
    (lp : LiquidityProvider) : Prop where
  /-- The registry entry of the asset. -/
  registered : clpEntry context.registry msg.externalAsset.symbol = .ok entry
  /-- The pool before. -/
  found : state.pools.get (poolKey msg.externalAsset.symbol) = some pool
  /-- The normalisation factor of the asset. -/
  normalized : getNormalizationFactor entry.decimals = .ok factor
  /-- The units issued. -/
  computed : calculatePoolUnits (State.contribution pool msg) factor.1 factor.2 =
    .ok (newPoolUnits, lpUnits)
  /-- The native reserve after. -/
  native : nativeTotal.val = pool.nativeAssetBalance.val + msg.nativeAssetAmount.val
  /-- The external reserve after. -/
  external : externalTotal.val = pool.externalAssetBalance.val + msg.externalAssetAmount.val
  /-- The record written. -/
  record : contributor env state msg signer lpUnits = .ok lp
  /-- The pool and the record are written. -/
  written : next = { state with
    pools := state.pools.set (poolKey pool.externalAsset.symbol)
      (contributed pool newPoolUnits nativeTotal externalTotal)
    providers := putRecord state.providers lp
    bank := next.bank }
  /-- The module collects the contribution. -/
  gained : ∀ denom, held env next denom = held env state denom + pairAmount
    msg.externalAsset.symbol msg.externalAssetAmount.val msg.nativeAssetAmount.val denom

/-- A successful contribution is described by `Added`. -/
theorem handleAddLiquidity_ok {msg : MsgAddLiquidity} {signer : AccAddress}
    (signed : env.accAddressFromBech32 msg.signer = some signer)
    (outside : signer ≠ env.clpAddress)
    (handled : state.handleAddLiquidity env context msg = .ok next) :
    ∃ entry factor pool newPoolUnits lpUnits nativeTotal externalTotal lp,
      Added env context state next msg signer entry factor pool newPoolUnits lpUnits nativeTotal
        externalTotal lp := by
  simp only [State.handleAddLiquidity, Result.bind_ok, Outcome.wrapping_ok, getPool_ok] at handled
  obtain ⟨entry, registered, pool, found, factor, normalized, units, computed, added⟩ := handled
  obtain ⟨nativeTotal, externalTotal, lp, native, external, record, written, gained⟩ :=
    addLiquidity_ok signed outside added
  exact ⟨entry, factor, pool, units.1, units.2, nativeTotal, externalTotal, lp, registered, found,
    normalized, computed, native, external, record, written, gained⟩

/-- The part of a withdrawal that is swapped and what the swap formula yields for it, computed
from the message and the state before it. -/
def asymmetricQuote (context : Context) (state : State) (msg : MsgRemoveLiquidity) :
    Outcome (Uint × Uint) := do
  let entry ← clpEntry context.registry msg.externalAsset.symbol
  let pool ← state.getPool msg.externalAsset.symbol
  let lp ← Outcome.present (state.getLiquidityProvider msg.externalAsset.symbol msg.signer)
    (.error errLiquidityProviderDoesNotExist)
  let withdrawal ← calculateWithdrawal pool.poolUnits pool.nativeAssetBalance
    pool.externalAssetBalance lp.liquidityProviderUnits msg.wBasisPoints.val msg.asymmetry.val
  let native ← pool.nativeAssetBalance.sub withdrawal.native
  let external ← pool.externalAssetBalance.sub withdrawal.external
  let (factor, adjust) ← getNormalizationFactor entry.decimals
  let result ←
    (if 0 < msg.asymmetry.val then
      calcSwapResult false factor adjust ⟨native, withdrawal.swapAmount, external⟩
    else calcSwapResult true factor adjust ⟨external, withdrawal.swapAmount, native⟩)
  pure (withdrawal.swapAmount, result)

/-- No part of the withdrawal is swapped for nothing. -/
def SwapYields (context : Context) (state : State) (msg : MsgRemoveLiquidity) : Prop :=
  match asymmetricQuote context state msg with
  | .ok (amount, result) => amount.val = 0 ∨ result.val ≠ 0
  | .error _ => True

/-- The quote decides whether a swap yields something. -/
instance (context : Context) (state : State) (msg : MsgRemoveLiquidity) :
    Decidable (SwapYields context state msg) := by
  unfold SwapYields
  split <;> infer_instance

/-- A swap that yields something does so at its quote. -/
theorem yields_of_quote {msg : MsgRemoveLiquidity} {amount result : Uint}
    (yields : SwapYields context state msg)
    (quoted : asymmetricQuote context state msg = .ok (amount, result)) :
    amount.val = 0 ∨ result.val ≠ 0 := by
  rw [SwapYields, quoted] at yields
  exact yields

/-- The coins and the pool after the swap of an asymmetric withdrawal, where the swap either
yields nothing and leaves the coins, or moves its amounts between them. -/
theorem adjustAsymmetry_ok {fromAsset toAsset : Asset} {amount : Uint} {pool : Pool}
    {decimals : Int} {sold bought : Coin} {result : Coin × Coin × Pool}
    (adjusted : State.adjustAsymmetry fromAsset amount toAsset pool decimals sold bought =
      .ok result) :
    ∃ factor swapped, getNormalizationFactor decimals = .ok factor ∧
      swapOne fromAsset amount toAsset pool factor.1 factor.2 = .ok swapped ∧
      result.1.denom = sold.denom ∧ result.2.1.denom = bought.denom ∧
      result.2.2 = swapped.pool ∧
      (swapped.swapResult.val = 0 ∧ result.1 = sold ∧ result.2.1 = bought ∨
        result.1.amount + amount.val = sold.amount ∧
        result.2.1.amount = bought.amount + swapped.swapResult.val) := by
  simp only [State.adjustAsymmetry, Result.bind_ok, Outcome.wrapping_ok] at adjusted
  obtain ⟨factor, normalized, swapped, traded, rest⟩ := adjusted
  refine ⟨factor, swapped, normalized, traded, ?_⟩
  split at rest
  · rename_i nothing
    cases rest
    exact ⟨rfl, rfl, rfl, .inl ⟨Uint.isZero_iff.mp nothing, rfl, rfl⟩⟩
  · simp only [Result.bind_ok, Result.pure_ok] at rest
    obtain ⟨resultInt, parseResult, amountInt, parseAmount, swapCoin, swapMade, amountCoin,
      amountMade, boughtMore, boughtAdded, soldLess, soldSubtracted, rfl⟩ := rest
    obtain ⟨-, swapAmount⟩ := newCoin_parsed parseResult swapMade
    obtain ⟨-, soldAmount⟩ := newCoin_parsed parseAmount amountMade
    obtain ⟨-, boughtDenom, boughtSum⟩ := Coin.add_ok boughtAdded
    obtain ⟨-, soldDenom, soldDifference⟩ := Coin.sub_ok soldSubtracted
    exact ⟨soldDenom, boughtDenom, rfl, .inr ⟨by rw [soldDifference, soldAmount, Nat.add_comm],
      by rw [boughtSum, swapAmount]⟩⟩

/-- A withdrawal from a pool. -/
structure Removed (env : Environment) (context : Context) (state next : State)
    (msg : MsgRemoveLiquidity) (pool : Pool) (lp : LiquidityProvider) (withdrawal : Withdrawal)
    (finalPool : Pool) (paidExternal paidNative : Nat) : Prop where
  /-- The pool before. -/
  found : state.pools.get (poolKey msg.externalAsset.symbol) = some pool
  /-- The record before. -/
  recorded : state.getLiquidityProvider msg.externalAsset.symbol msg.signer = some lp
  /-- The amounts computed. -/
  computed : calculateWithdrawal pool.poolUnits pool.nativeAssetBalance pool.externalAssetBalance
    lp.liquidityProviderUnits msg.wBasisPoints.val msg.asymmetry.val = .ok withdrawal
  /-- The pool keeps its asset. -/
  sameAsset : finalPool.externalAsset = pool.externalAsset
  /-- The pool has the units of the record. -/
  enough : lp.liquidityProviderUnits.val ≤ pool.poolUnits.val
  /-- The pool loses the units the record loses. -/
  units : finalPool.poolUnits.val + lp.liquidityProviderUnits.val =
    pool.poolUnits.val + withdrawal.lpUnitsLeft.val
  /-- Less than the external reserve is paid. -/
  externalLow : paidExternal < pool.externalAssetBalance.val
  /-- Less than the native reserve is paid. -/
  nativeLow : paidNative < pool.nativeAssetBalance.val
  /-- The reserves are not empty after. -/
  positive : 0 < finalPool.nativeAssetBalance.val ∧ 0 < finalPool.externalAssetBalance.val
  /-- The reserves lose what is paid, unless a part is swapped for nothing. -/
  reserves : SwapYields context state msg →
    finalPool.nativeAssetBalance.val + paidNative = pool.nativeAssetBalance.val ∧
      finalPool.externalAssetBalance.val + paidExternal = pool.externalAssetBalance.val
  /-- The pool and the record are written. -/
  written : next = { state with
    pools := state.pools.set (poolKey finalPool.externalAsset.symbol) finalPool
    providers := withdrawn state.providers lp withdrawal.lpUnitsLeft
    bank := next.bank }
  /-- The module pays the two amounts. -/
  lost : ∀ denom, held env state denom ≤
    held env next denom + pairAmount msg.externalAsset.symbol paidExternal paidNative denom

/-- What the asymmetric part of a withdrawal leaves: coins of the same denominations and a pool
of the same asset and units, and, when it does not swap for nothing, reserves that together with
the coins are what they were before the swap. -/
structure Adjusted (yields : Prop) (reduced finalPool : Pool) (native external nativeOut
    externalOut : Coin) : Prop where
  /-- The native coin stays native. -/
  nativeDenom : nativeOut.denom = native.denom
  /-- The external coin stays external. -/
  externalDenom : externalOut.denom = external.denom
  /-- The pool keeps its asset. -/
  sameAsset : finalPool.externalAsset = reduced.externalAsset
  /-- The pool keeps its units. -/
  sameUnits : finalPool.poolUnits = reduced.poolUnits
  /-- The native reserve and coin change together. -/
  nativeSum : yields → nativeOut.amount + finalPool.nativeAssetBalance.val =
    native.amount + reduced.nativeAssetBalance.val
  /-- The external reserve and coin change together. -/
  externalSum : yields → externalOut.amount + finalPool.externalAssetBalance.val =
    external.amount + reduced.externalAssetBalance.val
  /-- Reserves that are not empty before are not empty after. -/
  positive : 0 < reduced.nativeAssetBalance.val → 0 < reduced.externalAssetBalance.val →
    0 < finalPool.nativeAssetBalance.val ∧ 0 < finalPool.externalAssetBalance.val

/-- An adjustment towards the external asset. -/
theorem adjusted_external {asset : Asset} {amount : Uint} {reduced finalPool : Pool}
    {decimals : Int} {native external nativeOut externalOut : Coin} {yields : Prop}
    (notNative : asset ≠ Asset.settlement)
    (quoted : ∀ factor result, getNormalizationFactor decimals = .ok factor →
      calcSwapResult false factor.1 factor.2
        ⟨reduced.nativeAssetBalance, amount, reduced.externalAssetBalance⟩ = .ok result →
      yields → amount.val = 0 ∨ result.val ≠ 0)
    (adjusted : State.adjustAsymmetry Asset.settlement amount asset reduced decimals native
      external = .ok (nativeOut, externalOut, finalPool)) :
    Adjusted yields reduced finalPool native external nativeOut externalOut := by
  obtain ⟨factor, swapped, normalized, traded, nativeDenom, externalDenom, rfl, moved⟩ :=
    adjustAsymmetry_ok adjusted
  obtain ⟨computed, sold⟩ := swapOne_native notNative traded
  have settled : yields → nativeOut.amount + amount.val = native.amount ∧
      externalOut.amount = external.amount + swapped.swapResult.val := by
    intro yield
    rcases moved with ⟨nothing, rfl, rfl⟩ | both
    · rcases quoted factor _ normalized computed yield with unswapped | something
      · exact ⟨by rw [unswapped, Nat.add_zero], by rw [nothing, Nat.add_zero]⟩
      · exact absurd nothing something
    · exact both
  have grown := sold.native
  have paid := sold.external
  have low := sold.low
  refine ⟨nativeDenom, externalDenom, sold.sameAsset, sold.sameUnits, fun yield => ?_,
    fun yield => ?_, fun nativeBefore externalBefore => ⟨by omega, by omega⟩⟩
  · have both := settled yield
    omega
  · have both := settled yield
    omega

/-- An adjustment towards the native asset. -/
theorem adjusted_native {asset : Asset} {amount : Uint} {reduced finalPool : Pool}
    {decimals : Int} {native external nativeOut externalOut : Coin} {yields : Prop}
    (notNative : asset ≠ Asset.settlement)
    (quoted : ∀ factor result, getNormalizationFactor decimals = .ok factor →
      calcSwapResult true factor.1 factor.2
        ⟨reduced.externalAssetBalance, amount, reduced.nativeAssetBalance⟩ = .ok result →
      yields → amount.val = 0 ∨ result.val ≠ 0)
    (adjusted : State.adjustAsymmetry asset amount Asset.settlement reduced decimals external
      native = .ok (externalOut, nativeOut, finalPool)) :
    Adjusted yields reduced finalPool native external nativeOut externalOut := by
  obtain ⟨factor, swapped, normalized, traded, externalDenom, nativeDenom, rfl, moved⟩ :=
    adjustAsymmetry_ok adjusted
  obtain ⟨computed, sold⟩ := swapOne_external notNative traded
  have settled : yields → externalOut.amount + amount.val = external.amount ∧
      nativeOut.amount = native.amount + swapped.swapResult.val := by
    intro yield
    rcases moved with ⟨nothing, rfl, rfl⟩ | both
    · rcases quoted factor _ normalized computed yield with unswapped | something
      · exact ⟨by rw [unswapped, Nat.add_zero], by rw [nothing, Nat.add_zero]⟩
      · exact absurd nothing something
    · exact both
  have grown := sold.native
  have paid := sold.external
  have low := sold.low
  refine ⟨nativeDenom, externalDenom, sold.sameAsset, sold.sameUnits, fun yield => ?_,
    fun yield => ?_, fun nativeBefore externalBefore => ⟨by omega, by omega⟩⟩
  · have both := settled yield
    omega
  · have both := settled yield
    omega

/-- A withdrawal is from a stored pool. -/
theorem handleRemoveLiquidity_found {msg : MsgRemoveLiquidity}
    (handled : state.handleRemoveLiquidity env context msg = .ok next) :
    ∃ pool, state.pools.get (poolKey msg.externalAsset.symbol) = some pool := by
  rw [State.handleRemoveLiquidity, Result.bind_ok] at handled
  obtain ⟨entry, -, rest⟩ := handled
  rw [Result.bind_ok] at rest
  obtain ⟨pool, found, -⟩ := rest
  exact ⟨pool, getPool_ok.mp found⟩

/-- A successful withdrawal is described by `Removed`. -/
theorem handleRemoveLiquidity_ok {msg : MsgRemoveLiquidity}
    (notNative : msg.externalAsset ≠ Asset.settlement)
    (handled : state.handleRemoveLiquidity env context msg = .ok next) :
    ∃ pool lp withdrawal finalPool paidExternal paidNative,
      Removed env context state next msg pool lp withdrawal finalPool paidExternal paidNative := by
  simp only [State.handleRemoveLiquidity, Result.bind_ok, Outcome.wrapping_ok, Outcome.require_ok,
    Outcome.present_ok, getPool_ok, Uint.sub_ok, Uint.add_ok] at handled
  obtain ⟨entry, registered, pool, found, lp, recorded, withdrawal, computed, externalInt,
    parseExternal, nativeInt, parseNative, external, externalMade, native, nativeMade, unitsLess,
    unitsLessEq, poolUnits, poolUnitsEq, nativeLeft, nativeLeftEq, externalLeft, externalLeftEq, -,
    deep, ⟨nativeOut, externalOut, finalPool⟩, chosen, removed⟩ := handled
  obtain ⟨externalDenom, externalAmount⟩ := newCoin_parsed parseExternal externalMade
  obtain ⟨nativeDenom, nativeAmount⟩ := newCoin_parsed parseNative nativeMade
  let reduced : Pool :=
    { pool with
      poolUnits
      nativeAssetBalance := nativeLeft
      externalAssetBalance := externalLeft }
  have adjusted : Adjusted (SwapYields context state msg) reduced finalPool native external
      nativeOut externalOut := by
    split at chosen
    · rename_i positive
      refine adjusted_external notNative (fun factor result normalized yielded yields => ?_) chosen
      refine yields_of_quote yields ?_
      simp only [asymmetricQuote, Result.bind_ok, Outcome.present_ok, getPool_ok, Uint.sub_ok,
        Result.pure_ok]
      exact ⟨entry, registered, pool, found, lp, recorded, withdrawal, computed, nativeLeft,
        nativeLeftEq, externalLeft, externalLeftEq, factor, normalized, result,
        by rw [if_pos positive]; exact yielded, rfl⟩
    · rename_i notPositive
      split at chosen
      · simp only [Result.bind_ok, Result.pure_ok, Prod.mk.injEq] at chosen
        obtain ⟨⟨_, _, _⟩, swapped, rfl, rfl, rfl⟩ := chosen
        refine adjusted_native notNative (fun factor result normalized yielded yields => ?_) swapped
        refine yields_of_quote yields ?_
        simp only [asymmetricQuote, Result.bind_ok, Outcome.present_ok, getPool_ok, Uint.sub_ok,
          Result.pure_ok]
        exact ⟨entry, registered, pool, found, lp, recorded, withdrawal, computed, nativeLeft,
          nativeLeftEq, externalLeft, externalLeftEq, factor, normalized, result, by rw [if_neg notPositive]; exact yielded, rfl⟩
      · cases chosen
        exact ⟨rfl, rfl, rfl, rfl, fun _ => rfl, fun _ => rfl, fun native external =>
          ⟨native, external⟩⟩
  obtain ⟨externalLow, nativeLow, written, lost⟩ := removeLiquidity_ok
    (adjusted.externalDenom.trans externalDenom) (adjusted.nativeDenom.trans nativeDenom) removed
  have positive : 0 < finalPool.nativeAssetBalance.val ∧
      0 < finalPool.externalAssetBalance.val := by
    rcases deep with symmetric | ⟨externalDeep, nativeDeep⟩
    · -- Without a swap the reserves are the reduced ones, and less than each is paid.
      simp only [symmetric, lt_self_iff_false, ↓reduceIte] at chosen
      cases chosen
      exact ⟨by simp only; omega, by simp only; omega⟩
    · have native : nativeLeft.val ≠ 0 := fun none => by
        rw [Uint.isZero_iff.mpr none] at nativeDeep
        cases nativeDeep
      have external : externalLeft.val ≠ 0 := fun none => by
        rw [Uint.isZero_iff.mpr none] at externalDeep
        cases externalDeep
      exact adjusted.positive (Nat.pos_of_ne_zero native) (Nat.pos_of_ne_zero external)
  refine ⟨pool, lp, withdrawal, finalPool, externalOut.amount, nativeOut.amount, found, recorded,
    computed, adjusted.sameAsset, by omega, ?_, externalLow, nativeLow, positive,
    fun yields => ⟨?_, ?_⟩, written, lost⟩
  · rw [adjusted.sameUnits]
    change poolUnits.val + _ = _
    omega
  · have sum := adjusted.nativeSum yields
    change _ = native.amount + nativeLeft.val at sum
    omega
  · have sum := adjusted.externalSum yields
    change _ = external.amount + externalLeft.val at sum
    omega

/-- The amount a denomination is concerned with. -/
def only (symbol : String) (amount : Nat) (denom : Denom) : Nat :=
  if symbol = denom then amount else 0

/-- The state after a swap: other pools and a bank, in which the module gained the amount sent
and lost at most the amount bought. -/
structure Exchanged (env : Environment) (state next : State) (msg : MsgSwap)
    (pools : Store String Pool) (result : Nat) : Prop where
  /-- Only pools and balances change. -/
  written : next = { state with pools, bank := next.bank }
  /-- The balances of the module account. -/
  moved : ∀ denom, held env state denom + only msg.sentAsset.symbol msg.sentAmount.val denom ≤
    held env next denom + only msg.receivedAsset.symbol result denom

/-- The pools of a swap. -/
inductive Traded (env : Environment) (state next : State) (msg : MsgSwap) : Prop where
  /-- The native asset is sold to the pool of the received asset. -/
  | native {pool after : Pool} {result : Nat}
    (sent : msg.sentAsset = Asset.settlement)
    (found : state.pools.get (poolKey msg.receivedAsset.symbol) = some pool)
    (sold : NativeSold pool after msg.sentAmount.val result)
    (exchanged : Exchanged env state next msg
      (state.pools.set (poolKey after.externalAsset.symbol) after) result)
  /-- The native asset is bought from the pool of the sent asset. -/
  | external {pool after : Pool} {result : Nat}
    (received : msg.receivedAsset = Asset.settlement)
    (found : state.pools.get (poolKey msg.sentAsset.symbol) = some pool)
    (sold : ExternalSold pool after msg.sentAmount.val result)
    (exchanged : Exchanged env state next msg
      (state.pools.set (poolKey after.externalAsset.symbol) after) result)
  /-- The sent asset is sold for the native one, and that for the received asset. -/
  | both {first firstAfter second secondAfter : Pool} {middle result : Nat}
    (sent : msg.sentAsset ≠ Asset.settlement)
    (received : msg.receivedAsset ≠ Asset.settlement)
    (firstFound : state.pools.get (poolKey msg.sentAsset.symbol) = some first)
    (firstSold : ExternalSold first firstAfter msg.sentAmount.val middle)
    (secondFound : (state.pools.set (poolKey firstAfter.externalAsset.symbol) firstAfter).get
      (poolKey msg.receivedAsset.symbol) = some second)
    (secondSold : NativeSold second secondAfter middle result)
    (exchanged : Exchanged env state next msg
      ((state.pools.set (poolKey firstAfter.externalAsset.symbol) firstAfter).set
        (poolKey secondAfter.externalAsset.symbol) secondAfter) result)

/-- The frame of a swap: initiate, change pools, finalize. -/
theorem exchanged_of {msg : MsgSwap} {sentCoin : Coin} {swapper : AccAddress} {parsed : SInt}
    {paid : State} {pools : Store String Pool} {swapped : Swapped}
    (outside : swapper ≠ env.clpAddress) (parse : parseToInt msg.sentAmount = .ok parsed)
    (made : Coin.newCoin msg.sentAsset.symbol parsed = .ok sentCoin)
    (initiated : state.initiateSwap env context sentCoin swapper = .ok paid)
    (finalized : State.finalizeSwap env context { paid with pools } swapped.swapResult swapped.pool
      msg = .ok next) :
    Exchanged env state next msg
      (pools.set (poolKey swapped.pool.externalAsset.symbol) swapped.pool)
      swapped.swapResult.val := by
  obtain ⟨coinDenom, coinAmount⟩ := newCoin_parsed parse made
  obtain ⟨initFrame, gained⟩ := initiateSwap_ok outside initiated
  obtain ⟨finalFrame, lost⟩ := finalizeSwap_ok finalized
  refine ⟨by rw [finalFrame, initFrame], fun denom => ?_⟩
  have grown := gained denom
  have bound := lost denom
  rw [coinDenom, coinAmount] at grown
  change held env paid denom ≤ _ at bound
  unfold only
  omega

/-- A successful swap is described by `Traded`. -/
theorem handleSwap_ok {msg : MsgSwap} {signer : AccAddress}
    (signed : env.accAddressFromBech32 msg.signer = some signer)
    (outside : signer ≠ env.clpAddress) (different : msg.sentAsset ≠ msg.receivedAsset)
    (handled : state.handleSwap env context msg = .ok next) : Traded env state next msg := by
  simp only [State.handleSwap, Result.bind_ok, Outcome.wrapping_ok, Outcome.replacing_ok,
    Outcome.require_ok, decode_ok, signed, Option.some.injEq, Result.pure_ok, getPool_ok]
    at handled
  obtain ⟨sAsset, -, rAsset, -, -, -, -, -, inPool, inFound, parsed, parse, addr, rfl, sentCoin,
    made, paid, initiated, ⟨sentAsset, sentAmount, feeNative, impact, hopped⟩, chosen, outPool,
    outFound, factor, -, swapped, traded, -, -, later, finalized, -, -, -, -, rfl⟩ := handled
  obtain ⟨initFrame, -⟩ := initiateSwap_ok outside initiated
  have samePools : paid.pools = state.pools := by rw [initFrame]
  by_cases sentNative : msg.sentAsset = Asset.settlement
  · have receivedExternal : msg.receivedAsset ≠ Asset.settlement := by
      rw [← sentNative]
      exact different.symm
    rw [if_pos sentNative, Result.pure_ok] at inFound
    subst inFound
    simp only [Result.pure_ok, Prod.mk.injEq] at chosen
    obtain ⟨rfl, rfl, rfl, rfl, rfl⟩ := chosen
    simp only [if_neg receivedExternal] at outFound
    rw [samePools] at outFound
    dsimp only at traded
    rw [sentNative] at traded
    obtain ⟨-, sold⟩ := swapOne_native receivedExternal traded
    have exchanged := exchanged_of outside parse made initiated finalized
    rw [samePools] at exchanged
    exact .native sentNative outFound sold exchanged
  · rw [if_neg sentNative, Result.bind_ok] at inFound
    obtain ⟨first, firstFound, inFound⟩ := inFound
    rw [Outcome.replacing_ok, getPool_ok] at firstFound
    rw [Result.pure_ok] at inFound
    subst inFound
    by_cases receivedNative : msg.receivedAsset = Asset.settlement
    · simp only [if_pos receivedNative, Result.pure_ok, Prod.mk.injEq] at chosen
      obtain ⟨rfl, rfl, rfl, rfl, rfl⟩ := chosen
      simp only [if_pos receivedNative] at outFound
      rw [samePools] at outFound
      dsimp only at traded
      rw [receivedNative] at traded
      obtain ⟨-, sold⟩ := swapOne_external sentNative traded
      have exchanged := exchanged_of outside parse made initiated finalized
      rw [samePools] at exchanged
      exact .external receivedNative outFound sold exchanged
    · simp only [if_neg receivedNative, State.firstHop, Result.bind_ok, Outcome.wrapping_ok,
        setPool_ok, Result.pure_ok] at chosen
      obtain ⟨hop, ⟨hopFactor, -, hopSwapped, hopTraded, hopState, ⟨-, rfl⟩, rfl⟩, hopEq⟩ := chosen
      simp only [Prod.mk.injEq] at hopEq
      obtain ⟨rfl, rfl, rfl, rfl, rfl⟩ := hopEq
      simp only [if_neg receivedNative] at outFound
      obtain ⟨-, firstSold⟩ := swapOne_external sentNative hopTraded
      dsimp only at traded
      obtain ⟨-, secondSold⟩ := swapOne_native receivedNative traded
      have exchanged := exchanged_of outside parse made initiated finalized
      rw [samePools] at exchanged outFound
      exact .both sentNative receivedNative firstFound firstSold outFound secondSold exchanged

/-- The records after those of a list of providers are dropped. -/
def dropRecords (providers : Store String LiquidityProvider) (lps : List LiquidityProvider) :
    Store String LiquidityProvider :=
  lps.foldl (fun providers lp => providers.delete
    (getLiquidityProviderKey lp.asset.symbol lp.liquidityProviderAddress)) providers

/-- The units of a list of providers. -/
def unitsOf (lps : List LiquidityProvider) : Nat :=
  (lps.map fun lp => lp.liquidityProviderUnits.val).sum

/-- Rounds of the refund loop: the records are dropped, their units leave the remaining units, and
the module loses at most what leaves the remaining reserves. -/
structure Refunded (env : Environment) (symbol : String) (lps : List LiquidityProvider)
    (start finish : State.Refund) (paidExternal paidNative : Nat) : Prop where
  /-- The records are dropped. -/
  written : finish.state = { start.state with
    providers := dropRecords start.state.providers lps
    bank := finish.state.bank }
  /-- The units refunded. -/
  units : start.poolUnits.val = unitsOf lps + finish.poolUnits.val
  /-- The native amount paid. -/
  native : start.nativeAssetBalance.val = paidNative + finish.nativeAssetBalance.val
  /-- The external amount paid. -/
  external : start.externalAssetBalance.val = paidExternal + finish.externalAssetBalance.val
  /-- The balances of the module account. -/
  lost : ∀ denom, held env start.state denom ≤
    held env finish.state denom + pairAmount symbol paidExternal paidNative denom

/-- Two payments of a pair are one payment of the sums. -/
theorem pairAmount_add (symbol : String) (a b c d : Nat) (denom : Denom) :
    pairAmount symbol a b denom + pairAmount symbol c d denom =
      pairAmount symbol (a + c) (b + d) denom := by
  unfold pairAmount
  split_ifs <;> omega

/-- One round refunds its provider. -/
theorem refundProvider_ok {symbol : String} {pool : Pool} {lp : LiquidityProvider}
    {start finish : State.Refund}
    (refunded : State.refundProvider env context symbol pool start lp = .ok finish) :
    ∃ paidExternal paidNative, Refunded env symbol [lp] start finish paidExternal paidNative := by
  simp only [State.refundProvider, Result.bind_ok, Outcome.wrapping_ok, Uint.sub_ok,
    Result.pure_ok] at refunded
  obtain ⟨withdrawal, -, poolUnits, units, native, nativeEq, external, externalEq, nativeInt,
    parseNative, externalInt, parseExternal, nativeCoin, nativeMade, externalCoin, externalMade,
    coins, coinsMade, state, removed, rfl⟩ := refunded
  obtain ⟨externalDenom, externalAmount⟩ := newCoin_parsed parseExternal externalMade
  obtain ⟨nativeDenom, nativeAmount⟩ := newCoin_parsed parseNative nativeMade
  obtain ⟨written, lost⟩ := removeLiquidityProvider_ok removed
  refine ⟨withdrawal.external.val, withdrawal.native.val, written, ?_, nativeEq, externalEq, ?_⟩
  · simpa [unitsOf] using units
  · intro denom
    have bound := lost denom
    rw [newCoins_pair externalDenom nativeDenom coinsMade, externalAmount, nativeAmount] at bound
    exact bound

/-- The loop refunds every provider of its list. -/
theorem refundLoop_ok {symbol : String} {pool : Pool} {lps : List LiquidityProvider}
    {start finish : State.Refund}
    (refunded : lps.foldlM (State.refundProvider env context symbol pool) start = .ok finish) :
    ∃ paidExternal paidNative, Refunded env symbol lps start finish paidExternal paidNative := by
  induction lps generalizing start with
  | nil =>
    cases refunded
    exact ⟨0, 0, rfl, by simp [unitsOf], by simp, by simp, fun denom => Nat.le_add_right _ _⟩
  | cons lp lps ih =>
    rw [List.foldlM_cons, Result.bind_ok] at refunded
    obtain ⟨middle, first, rest⟩ := refunded
    obtain ⟨a, b, head⟩ := refundProvider_ok first
    obtain ⟨c, d, tail⟩ := ih rest
    refine ⟨a + c, b + d, ?_, ?_, ?_, ?_, fun denom => ?_⟩
    · rw [tail.written, head.written]
      rfl
    · have now := head.units
      have later := tail.units
      simp only [unitsOf, List.map_cons, List.map_nil, List.sum_cons, List.sum_nil] at now later ⊢
      omega
    · rw [head.native, tail.native, Nat.add_assoc]
    · rw [head.external, tail.external, Nat.add_assoc]
    · rw [← pairAmount_add]
      have now := head.lost denom
      have later := tail.lost denom
      omega

/-- A decommissioned pool. -/
structure Decommissioned (env : Environment) (state next : State) (msg : MsgDecommissionPool)
    (pool : Pool) (paidExternal paidNative : Nat) : Prop where
  /-- The pool before. -/
  found : state.pools.get (poolKey msg.symbol) = some pool
  /-- Its native reserve is below the threshold. -/
  low : pool.nativeAssetBalance.val < poolThrehold
  /-- The refunded units are units of the pool. -/
  units : unitsOf (state.getLiquidityProvidersForAsset pool.externalAsset) ≤ pool.poolUnits.val
  /-- At most the native reserve is paid. -/
  native : paidNative ≤ pool.nativeAssetBalance.val
  /-- At most the external reserve is paid. -/
  external : paidExternal ≤ pool.externalAssetBalance.val
  /-- The pool and the records listed for its asset are dropped. -/
  written : next = { state with
    pools := state.pools.delete (poolKey pool.externalAsset.symbol)
    providers := dropRecords state.providers
      (state.getLiquidityProvidersForAsset pool.externalAsset)
    bank := next.bank }
  /-- The balances of the module account. -/
  lost : ∀ denom, held env state denom ≤
    held env next denom + pairAmount msg.symbol paidExternal paidNative denom

/-- A successful decommission is described by `Decommissioned`. -/
theorem handleDecommissionPool_ok {msg : MsgDecommissionPool}
    (handled : state.handleDecommissionPool env context msg = .ok next) :
    ∃ pool paidExternal paidNative,
      Decommissioned env state next msg pool paidExternal paidNative := by
  simp only [State.handleDecommissionPool, Result.bind_ok, Outcome.wrapping_ok, Outcome.require_ok,
    getPool_ok] at handled
  obtain ⟨pool, found, addr, -, permitted, -, -, -, -, low, refund, refunded, destroyed⟩ := handled
  obtain ⟨paidExternal, paidNative, loop⟩ := refundLoop_ok refunded
  have units := loop.units
  have native := loop.native
  have external := loop.external
  dsimp only at units native external
  refine ⟨pool, paidExternal, paidNative, found, low, by omega, by omega, by omega, ?_, ?_⟩
  · rw [destroyPool_ok destroyed, loop.written]
  · rw [destroyPool_ok destroyed]
    exact loop.lost

/-- Different symbols have different pool keys. -/
theorem poolKey_injective {left right : String} (same : poolKey left = poolKey right) :
    left = right := by
  unfold poolKey getPoolKey at same
  exact String.append_left_inj "_" |>.mp (String.append_left_inj _ |>.mp same)

/-- Every pool is stored under its own symbol, which is not the native one. -/
def PoolsKeyed : Store String Pool → Prop :=
  Store.All fun key pool =>
    key = poolKey pool.externalAsset.symbol ∧ pool.externalAsset ≠ Asset.settlement

/-- A pool found under a symbol is of that asset. -/
theorem PoolsKeyed.asset_eq {pools : Store String Pool} (keyed : PoolsKeyed pools) {asset : Asset}
    {pool : Pool} (found : pools.get (poolKey asset.symbol) = some pool) :
    pool.externalAsset = asset := by
  have own := poolKey_injective (keyed _ _ found).1
  cases asset
  cases same : pool.externalAsset
  rw [same] at own
  exact congrArg Asset.mk own.symm

/-- A delivered message passed its checks, has a signer other than the module, and was handled. -/
theorem deliver_ok {delivery : Delivery} (delivered : deliver env state delivery = .ok next) :
    delivery.msg.validateBasic = .ok () ∧
      (∃ signer, env.accAddressFromBech32 delivery.msg.signer = some signer ∧
        signer ≠ env.clpAddress) ∧
      state.handle env delivery.context delivery.msg = .ok next := by
  simp only [deliver, authenticate, Result.bind_ok, Outcome.present_ok, Outcome.require_ok,
    Result.pure_ok] at delivered
  obtain ⟨⟨⟩, checked, signer, ⟨_, decoded, -, outside, -⟩, handled⟩ := delivered
  exact ⟨checked, ⟨_, decoded, outside⟩, handled⟩

/-- What a delivered message did, by its kind. -/
inductive Effect (env : Environment) (state next : State) (delivery : Delivery) : Prop where
  /-- A pool was created. -/
  | created {msg : MsgCreatePool} {signer : AccAddress} {units : Uint}
    (kind : delivery.msg = .createPool msg)
    (external : msg.externalAsset ≠ Asset.settlement)
    (amounts : 0 < msg.nativeAssetAmount.val ∧ 0 < msg.externalAssetAmount.val)
    (effect : Created env state next msg signer units)
  /-- A provider contributed. -/
  | added {msg : MsgAddLiquidity} {signer : AccAddress} {entry : RegistryEntry}
    {factor : Dec × Bool} {pool : Pool} {newPoolUnits lpUnits nativeTotal externalTotal : Uint}
    {lp : LiquidityProvider}
    (kind : delivery.msg = .addLiquidity msg)
    (valid : msg.externalAsset.validate = .ok true)
    (signed : env.accAddressFromBech32 msg.signer = some signer)
    (effect : Added env delivery.context state next msg signer entry factor pool newPoolUnits
      lpUnits nativeTotal externalTotal lp)
  /-- A provider withdrew. -/
  | removed {msg : MsgRemoveLiquidity} {pool finalPool : Pool} {lp : LiquidityProvider}
    {withdrawal : Withdrawal} {paidExternal paidNative : Nat}
    (kind : delivery.msg = .removeLiquidity msg)
    (valid : msg.externalAsset.validate = .ok true)
    (effect : Removed env delivery.context state next msg pool lp withdrawal finalPool paidExternal
      paidNative)
  /-- A trader swapped. -/
  | traded {msg : MsgSwap} (kind : delivery.msg = .swap msg) (effect : Traded env state next msg)
  /-- A pool was decommissioned. -/
  | decommissioned {msg : MsgDecommissionPool} {pool : Pool} {paidExternal paidNative : Nat}
    (kind : delivery.msg = .decommissionPool msg)
    (effect : Decommissioned env state next msg pool paidExternal paidNative)

/-- Every successful delivery has one of the effects. -/
theorem deliver_effect {delivery : Delivery} (keyed : PoolsKeyed state.pools)
    (delivered : deliver env state delivery = .ok next) : Effect env state next delivery := by
  obtain ⟨checked, ⟨signer, signed, outside⟩, handled⟩ := deliver_ok delivered
  obtain ⟨context, msg⟩ := delivery
  cases msg with
  | createPool msg =>
    simp only [Msg.validateBasic, MsgCreatePool.validateBasic, Result.bind_ok,
      Outcome.require_ok] at checked
    obtain ⟨-, -, -, -, -, external, -, native, amount⟩ := checked
    obtain ⟨units, created⟩ := handleCreatePool_ok signed outside handled
    exact .created rfl external ⟨native, amount⟩ created
  | addLiquidity msg =>
    simp only [Msg.validateBasic, MsgAddLiquidity.validateBasic, Result.bind_ok,
      requireAsset_ok] at checked
    obtain ⟨-, -, -, valid, -⟩ := checked
    obtain ⟨_, _, _, _, _, _, _, _, added⟩ := handleAddLiquidity_ok signed outside handled
    exact .added rfl valid signed added
  | removeLiquidity msg =>
    simp only [Msg.validateBasic, MsgRemoveLiquidity.validateBasic, Result.bind_ok,
      requireAsset_ok] at checked
    obtain ⟨-, -, -, valid, -⟩ := checked
    obtain ⟨pool, found⟩ := handleRemoveLiquidity_found handled
    have external : msg.externalAsset ≠ Asset.settlement := by
      rw [← keyed.asset_eq found]
      exact (keyed _ _ found).2
    obtain ⟨_, _, _, _, _, _, removed⟩ := handleRemoveLiquidity_ok external handled
    exact .removed rfl valid removed
  | swap msg =>
    simp only [Msg.validateBasic, MsgSwap.validateBasic, Result.bind_ok,
      Outcome.require_ok] at checked
    obtain ⟨-, -, -, -, -, -, -, different, -⟩ := checked
    exact .traded rfl (handleSwap_ok signed outside different handled)
  | decommissionPool msg =>
    obtain ⟨_, _, _, decommissioned⟩ := handleDecommissionPool_ok handled
    exact .decommissioned rfl decommissioned

end Akhira.Verif.Clp
