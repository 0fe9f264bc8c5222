import Akhira.Clp.Msgs

/-!
# Pool arithmetic

The formulas of the pool module in the order the code evaluates them, so that every
rounding and every panic of the fixed-point arithmetic is in its place. `Uint` results
come from a `Dec` rounded to the nearest integer with ties to even.
-/
namespace Akhira.Clp

open Akhira.Sdk

/-- `ValidateZero`: no input is zero. -/
def validateZero (inputs : List Uint) : Bool := inputs.all fun value => !value.isZero

/-- `ReducePrecision`. -/
def reducePrecision (dec : Dec) (po : Nat) : Outcome Dec := do
  let p ← (Dec.ofInt 10).power po
  dec.quo p

/-- `IncreasePrecision`. -/
def increasePrecision (dec : Dec) (po : Nat) : Outcome Dec := do
  let p ← (Dec.ofInt 10).power po
  dec.mul p

/-- `GetMinLen`: the number of digits the inputs are scaled down by. -/
def getMinLen (inputs : List Uint) : Nat :=
  let minLen : Nat := inputs.foldl (fun least value => min value.textLength least) (2 ^ 63 - 1)
  let maxInputLen : Nat := inputs.foldl (fun most value => max value.textLength most) 1
  if minLen ≤ 6 then 6
  else if 27 ≤ maxInputLen ∧ maxInputLen - 27 < minLen then
    if maxInputLen - 27 ≤ 6 then 6 else maxInputLen - 27
  else minLen - 1

/-- `GetNormalizationFactor`: the factor between a token's decimals and 18, and whether the
token has fewer. -/
def getNormalizationFactor (decimals : Int) : Outcome (Dec × Bool) :=
  if decimals = 18 then .ok (Dec.ofInt 1, false)
  else if decimals < 18 then do
    let factor ← (Dec.ofInt 10).power (18 - decimals).toNat
    pure (factor, true)
  else do
    let factor ← (Dec.ofInt 10).power (decimals - 18).toNat
    pure (factor, false)

/-- The inputs of a swap formula: the reserve sold into, the amount sold and the reserve bought
from. -/
structure SwapInputs where
  /-- The reserve of the asset sold. -/
  reserveIn : Uint
  /-- The amount sold. -/
  amountIn : Uint
  /-- The reserve of the asset bought. -/
  reserveOut : Uint
deriving DecidableEq, Repr

/-- `SetInputs`, with the flag `toRowan` that the native asset is bought. -/
def setInputs (sentAmount : Uint) (toAsset : Asset) (pool : Pool) : SwapInputs × Bool :=
  if toAsset = Asset.settlement then
    (⟨pool.externalAssetBalance, sentAmount, pool.nativeAssetBalance⟩, true)
  else (⟨pool.nativeAssetBalance, sentAmount, pool.externalAssetBalance⟩, false)

/-- Bring the side with fewer decimals to the scale of the other. -/
def SwapInputs.normalize (inputs : SwapInputs) (toRowan adjustExternalToken : Bool)
    (normalizationFactor : Dec) : Outcome SwapInputs := do
  let nf ← normalizationFactor.roundUint
  if adjustExternalToken = toRowan then
    let reserveIn ← inputs.reserveIn.mul nf
    let amountIn ← inputs.amountIn.mul nf
    pure { inputs with reserveIn, amountIn }
  else
    let reserveOut ← inputs.reserveOut.mul nf
    pure { inputs with reserveOut }

/-- The list the zero check and the digit count of a swap formula read. -/
def SwapInputs.values (inputs : SwapInputs) : List Uint :=
  [inputs.reserveIn, inputs.amountIn, inputs.reserveOut]

/-- Undo the scaling of a swap formula and round. -/
def finishSwap (y : Dec) (minLen : Nat) (toRowan : Bool) (normalizationFactor : Dec) :
    Outcome Uint := do
  let y ← increasePrecision y minLen
  let y ← (if toRowan then pure y else y.quo normalizationFactor)
  y.roundUint

/-- `CalcLiquidityFee`: x² Y / (x + X)². -/
def calcLiquidityFee (toRowan : Bool) (normalizationFactor : Dec) (adjustExternalToken : Bool)
    (inputs : SwapInputs) : Outcome Uint :=
  if inputs.reserveIn.isZero && inputs.amountIn.isZero then .ok Uint.zero
  else if validateZero inputs.values = false then .ok Uint.zero
  else do
    let inputs ← inputs.normalize toRowan adjustExternalToken normalizationFactor
    let minLen := getMinLen inputs.values
    let reserveIn ← reducePrecision (Dec.ofInt inputs.reserveIn.val) minLen
    let amountIn ← reducePrecision (Dec.ofInt inputs.amountIn.val) minLen
    let reserveOut ← reducePrecision (Dec.ofInt inputs.reserveOut.val) minLen
    let square ← amountIn.mul amountIn
    let n ← square.mul reserveOut
    let s ← amountIn.add reserveIn
    let d ← s.mul s
    let y ← n.quo d
    finishSwap y minLen toRowan normalizationFactor

/-- `CalcSwapResult`: x X Y / (x + X)². -/
def calcSwapResult (toRowan : Bool) (normalizationFactor : Dec) (adjustExternalToken : Bool)
    (inputs : SwapInputs) : Outcome Uint :=
  if validateZero inputs.values = false then .ok Uint.zero
  else do
    let inputs ← inputs.normalize toRowan adjustExternalToken normalizationFactor
    let minLen := getMinLen inputs.values
    let reserveIn ← reducePrecision (Dec.ofInt inputs.reserveIn.val) minLen
    let amountIn ← reducePrecision (Dec.ofInt inputs.amountIn.val) minLen
    let reserveOut ← reducePrecision (Dec.ofInt inputs.reserveOut.val) minLen
    let s ← amountIn.add reserveIn
    let d ← s.mul s
    let product ← amountIn.mul reserveIn
    let n ← product.mul reserveOut
    let y ← n.quo d
    finishSwap y minLen toRowan normalizationFactor

/-- `calcPriceImpact`. -/
def calcPriceImpact (inputs : SwapInputs) : Outcome Uint :=
  if inputs.amountIn.isZero then .ok Uint.zero
  else do
    let d ← inputs.amountIn.add inputs.reserveIn
    inputs.amountIn.quo d

/-- The results of `SwapOne`. -/
structure Swapped where
  /-- The amount bought. -/
  swapResult : Uint
  /-- The fee kept in the pool. -/
  liquidityFee : Uint
  /-- The price impact. -/
  priceImpact : Uint
  /-- The pool after the swap. -/
  pool : Pool
deriving DecidableEq, Repr

/-- `SwapOne`. -/
def swapOne (fromAsset : Asset) (sentAmount : Uint) (toAsset : Asset) (pool : Pool)
    (normalizationFactor : Dec) (adjustExternalToken : Bool) : Outcome Swapped := do
  let (inputs, toRowan) := setInputs sentAmount toAsset pool
  let liquidityFee ← calcLiquidityFee toRowan normalizationFactor adjustExternalToken inputs
  let priceImpact ← calcPriceImpact inputs
  let swapResult ← calcSwapResult toRowan normalizationFactor adjustExternalToken inputs
  Outcome.require (swapResult.val < inputs.reserveOut.val) errNotEnoughAssetTokens
  let grown ← inputs.reserveIn.add inputs.amountIn
  let left ← inputs.reserveOut.sub swapResult
  if fromAsset = Asset.settlement then
    pure ⟨swapResult, liquidityFee, priceImpact,
      { pool with nativeAssetBalance := grown, externalAssetBalance := left }⟩
  else
    pure ⟨swapResult, liquidityFee, priceImpact,
      { pool with externalAssetBalance := grown, nativeAssetBalance := left }⟩

/-- `GetSwapFee`. -/
def getSwapFee (sentAmount : Uint) (toAsset : Asset) (pool : Pool) (normalizationFactor : Dec)
    (adjustExternalToken : Bool) : Outcome Uint := do
  let (inputs, toRowan) := setInputs sentAmount toAsset pool
  let swapResult ← calcSwapResult toRowan normalizationFactor adjustExternalToken inputs
  pure (if inputs.reserveOut.val ≤ swapResult.val then Uint.zero else swapResult)

/-- The results of `CalculateWithdrawal`. -/
structure Withdrawal where
  /-- The native amount to pay out. -/
  native : Uint
  /-- The external amount to pay out. -/
  external : Uint
  /-- The units the provider keeps. -/
  lpUnitsLeft : Uint
  /-- The part of one amount to swap into the other. -/
  swapAmount : Uint
deriving DecidableEq, Repr

/-- `CalculateWithdrawal`. -/
def calculateWithdrawal (poolUnits nativeAssetBalance externalAssetBalance lpUnits : Uint)
    (wBasisPoints asymmetry : Int) : Outcome Withdrawal := do
  let poolUnitsF := Dec.ofInt poolUnits.val
  let nativeAssetBalanceF ← Dec.ofText nativeAssetBalance.val
  let externalAssetBalanceF ← Dec.ofText externalAssetBalance.val
  let lpUnitsF ← Dec.ofText lpUnits.val
  let wBasisPointsF ← Dec.ofText wBasisPoints
  let asymmetryF ← Dec.ofText asymmetry
  let denominator ← (Dec.ofInt 10000).quo wBasisPointsF
  let unitsToClaim ← lpUnitsF.quo denominator
  let perClaim ← poolUnitsF.quo unitsToClaim
  let withdrawExternalAssetAmount ← externalAssetBalanceF.quo perClaim
  let withdrawNativeAssetAmount ← nativeAssetBalanceF.quo perClaim
  let swapAmount ←
    (if asymmetry = 0 then pure (Dec.ofInt 0)
    else do
      let ratio ← (Dec.ofInt 10000).quo asymmetryF.abs
      let unitsToSwap ← unitsToClaim.quo ratio
      let perSwap ← poolUnitsF.quo unitsToSwap
      if 0 < asymmetry then nativeAssetBalanceF.quo perSwap else externalAssetBalanceF.quo perSwap)
  let lpUnitsLeft ← lpUnitsF.sub unitsToClaim
  let native ← withdrawNativeAssetAmount.roundUint
  let external ← withdrawExternalAssetAmount.roundUint
  let left ← lpUnitsLeft.roundUint
  let swap ← swapAmount.roundUint
  pure ⟨native, external, left, swap⟩

/-- `CalculateAllAssetsForLP`: the withdrawal of everything. -/
def calculateAllAssetsForLP (pool : Pool) (lp : LiquidityProvider) : Outcome Withdrawal :=
  calculateWithdrawal pool.poolUnits pool.nativeAssetBalance pool.externalAssetBalance
    lp.liquidityProviderUnits maxWbasis 0

/-- The units issued for a contribution, in the reduced precision of `CalculatePoolUnits`:
P (a R + A r) / (2 A R) times one less |R a - r A| / ((r + R) (a + A)). -/
def stakeUnitsOf (P R A r a : Dec) : Outcome Dec := do
  let nativeTotal ← r.add R
  let externalTotal ← a.add A
  let slipAdjDenominator ← nativeTotal.mul externalTotal
  let left ← R.mul a
  let right ← r.mul A
  let difference ← (if left.gt right then left.sub right else right.sub left)
  let slip ← difference.quo slipAdjDenominator
  let slipAdjustment ← (Dec.ofInt 1).sub slip
  let first ← a.mul R
  let second ← A.mul r
  let sum ← first.add second
  let numerator ← P.mul sum
  let double ← (Dec.ofInt 2).mul A
  let denominator ← double.mul R
  let quotient ← numerator.quo denominator
  quotient.mul slipAdjustment

/-- The amounts `CalculatePoolUnits` reads. -/
structure UnitInputs where
  /-- The units before. -/
  oldPoolUnits : Uint
  /-- The native reserve before. -/
  nativeAssetBalance : Uint
  /-- The external reserve before. -/
  externalAssetBalance : Uint
  /-- The native amount added. -/
  nativeAssetAmount : Uint
  /-- The external amount added. -/
  externalAssetAmount : Uint
deriving DecidableEq, Repr

namespace UnitInputs

/-- Bring the side with fewer decimals to the scale of the other. -/
def normalize (inputs : UnitInputs) (normalizationFactor : Dec) (adjustExternalToken : Bool) :
    Outcome UnitInputs := do
  let nf ← normalizationFactor.roundUint
  if adjustExternalToken then
    let externalAssetAmount ← inputs.externalAssetAmount.mul nf
    let externalAssetBalance ← inputs.externalAssetBalance.mul nf
    pure { inputs with externalAssetAmount, externalAssetBalance }
  else
    let nativeAssetAmount ← inputs.nativeAssetAmount.mul nf
    let nativeAssetBalance ← inputs.nativeAssetBalance.mul nf
    pure { inputs with nativeAssetAmount, nativeAssetBalance }

/-- The number of digits the inputs are scaled down by. -/
def minLen (inputs : UnitInputs) : Nat :=
  getMinLen [inputs.oldPoolUnits, inputs.nativeAssetBalance, inputs.externalAssetBalance,
    inputs.nativeAssetAmount, inputs.externalAssetAmount]

/-- The checks of `CalculatePoolUnits`: something is added, and both reserves are not empty after. -/
def check (inputs : UnitInputs) : Outcome Unit := do
  Outcome.require (¬(inputs.nativeAssetAmount.isZero = true ∧
    inputs.externalAssetAmount.isZero = true)) errAmountTooLow
  let nativeTotal ← inputs.nativeAssetBalance.add inputs.nativeAssetAmount
  Outcome.require (nativeTotal.isZero = false)
    (errInsufficientFunds.wrap inputs.nativeAssetAmount.text)
  let externalTotal ← inputs.externalAssetBalance.add inputs.externalAssetAmount
  Outcome.require (externalTotal.isZero = false)
    (errInsufficientFunds.wrap inputs.externalAssetAmount.text)

/-- The units of the pool and the units issued, both in reduced precision. -/
def reducedUnits (inputs : UnitInputs) : Outcome (Dec × Dec) := do
  let P ← Dec.ofText inputs.oldPoolUnits.val
  let R ← Dec.ofText inputs.nativeAssetBalance.val
  let A ← Dec.ofText inputs.externalAssetBalance.val
  let r ← Dec.ofText inputs.nativeAssetAmount.val
  let a ← Dec.ofText inputs.externalAssetAmount.val
  let P ← reducePrecision P inputs.minLen
  let R ← reducePrecision R inputs.minLen
  let A ← reducePrecision A inputs.minLen
  let a ← reducePrecision a inputs.minLen
  let r ← reducePrecision r inputs.minLen
  let stakeUnits ← stakeUnitsOf P R A r a
  pure (P, stakeUnits)

end UnitInputs

/-- `CalculatePoolUnits`: the pool's new units and the units issued for the contribution. -/
def calculatePoolUnits (inputs : UnitInputs) (normalizationFactor : Dec)
    (adjustExternalToken : Bool) : Outcome (Uint × Uint) := do
  let inputs ← inputs.normalize normalizationFactor adjustExternalToken
  inputs.check
  if inputs.nativeAssetBalance.isZero || inputs.externalAssetBalance.isZero then
    pure (inputs.nativeAssetAmount, inputs.nativeAssetAmount)
  else do
    let (P, stakeUnits) ← inputs.reducedUnits
    let newPoolUnit ← P.add stakeUnits
    let newPoolUnit ← increasePrecision newPoolUnit inputs.minLen
    let stakeUnits ← increasePrecision stakeUnits inputs.minLen
    let newPoolUnits ← newPoolUnit.roundUint
    let lpUnits ← stakeUnits.roundUint
    pure (newPoolUnits, lpUnits)

end Akhira.Clp
