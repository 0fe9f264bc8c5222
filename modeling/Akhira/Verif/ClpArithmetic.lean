import Akhira.Verif.ClpDue
import Akhira.Verif.ClpSwapAccuracy

/-!
# Pool arithmetic in range

With values of at most 31 digits after scaling, at least six digits are dropped, so the scaled-down
values stay below 10^25 and the products of three of them within the 315 bits of a decimal. Quotients
are bounded by the exact ones and not by their parts, as a divisor can be as small as 10^-12.
-/
namespace Akhira.Verif.Clp

open Akhira.Base Akhira.Base.Result Akhira.Sdk Akhira.Sdk.Outcome Akhira.Clp

/-- The slip adjustment of `CalculatePoolUnits`, one less |R a - r A| / ((r + R) (a + A)). -/
def slipAdjustmentOf (R A r a : Dec) : Outcome Dec := do
  let nativeTotal ← r.add R
  let externalTotal ← a.add A
  let slipAdjDenominator ← nativeTotal.mul externalTotal
  let left ← R.mul a
  let right ← r.mul A
  let difference ← (if left.gt right then left.sub right else right.sub left)
  let slip ← difference.quo slipAdjDenominator
  (Dec.ofInt 1).sub slip

/-- The units issued are the quotient P (a R + A r) / (2 A R) times the slip adjustment. -/
theorem stakeUnitsOf_eq (P R A r a : Dec) : stakeUnitsOf P R A r a = (do
    let slipAdjustment ← slipAdjustmentOf R A r a
    let first ← a.mul R
    let second ← A.mul r
    let sum ← first.add second
    let numerator ← P.mul sum
    let double ← (Dec.ofInt 2).mul A
    let denominator ← double.mul R
    let quotient ← numerator.quo denominator
    quotient.mul slipAdjustment) := by
  simp only [stakeUnitsOf, slipAdjustmentOf, bind_assoc]

/-- The units of a contribution to two reserves, back in full precision. -/
def issueUnits (inputs : UnitInputs) : Outcome (Uint × Uint) := do
  let (P, stakeUnits) ← inputs.reducedUnits
  let newPoolUnit ← P.add stakeUnits
  let newPoolUnit ← increasePrecision newPoolUnit inputs.minLen
  let stakeUnits ← increasePrecision stakeUnits inputs.minLen
  let newPoolUnits ← newPoolUnit.roundUint
  let lpUnits ← stakeUnits.roundUint
  pure (newPoolUnits, lpUnits)

/-- The computation of units is the scaling, the checks, and the first or a later contribution. -/
theorem calculatePoolUnits_eq (inputs : UnitInputs) (factor : Dec) (adjust : Bool) :
    calculatePoolUnits inputs factor adjust = (do
      let inputs ← inputs.normalize factor adjust
      inputs.check
      if inputs.nativeAssetBalance.isZero || inputs.externalAssetBalance.isZero then
        pure (inputs.nativeAssetAmount, inputs.nativeAssetAmount)
      else issueUnits inputs) := rfl

/-- The slip adjustment computed for a contribution. -/
def slipAdjustment (inputs : UnitInputs) : Outcome Dec := do
  let (_, R, A, r, a) ← reducedInputs inputs
  slipAdjustmentOf R A r a

/-- The values `CalculatePoolUnits` counts the digits of. -/
def unitValues (inputs : UnitInputs) : List Uint :=
  [inputs.oldPoolUnits, inputs.nativeAssetBalance, inputs.externalAssetBalance,
    inputs.nativeAssetAmount, inputs.externalAssetAmount]

section Units

variable {inputs : UnitInputs} {P R A r a : Dec}

/-- Scaled-down inputs of at most 31 digits, with two reserves. -/
structure Bounded (inputs : UnitInputs) (P R A r a : Dec) : Prop where
  scaled : ScaledInputs inputs P R A r a
  sized : Sized (unitValues inputs)
  nativeSome : 0 < inputs.nativeAssetBalance.val
  externalSome : 0 < inputs.externalAssetBalance.val

/-- Inputs of at most 31 digits are scaled down by at most 30. -/
theorem minLen_le (sized : Sized (unitValues inputs)) : inputs.minLen ≤ 30 :=
  sized.getMinLen_le (show inputs.oldPoolUnits ∈ unitValues inputs by simp [unitValues])

/-- Sized inputs are parsed and scaled down. -/
theorem reducedInputs_total (sized : Sized (unitValues inputs)) :
    ∃ P R A r a, reducedInputs inputs = .ok (P, R, A, r, a) := by
  have parsed : ∀ value ∈ unitValues inputs, Dec.ofText value.val = .ok (Dec.ofInt value.val) := by
    intro value listed
    have small := sized value listed
    apply if_pos
    have few : (10 : Nat) ^ 50 < 2 ^ 256 := by norm_num
    rw [Dec.precision_cast]
    omega
  have reduced : ∀ value ∈ unitValues inputs,
      ∃ result, reducePrecision (Dec.ofInt value.val) inputs.minLen = .ok result :=
    fun value listed => reducePrecision_total (sized value listed) (minLen_le sized)
  simp only [unitValues, List.forall_mem_cons, List.not_mem_nil, false_imp_iff, implies_true,
    and_true] at parsed reduced
  obtain ⟨units, native, external, addedNative, addedExternal⟩ := parsed
  obtain ⟨⟨P, unitsReduced⟩, ⟨R, nativeReduced⟩, ⟨A, externalReduced⟩, ⟨r, addedNativeReduced⟩,
    ⟨a, addedExternalReduced⟩⟩ := reduced
  refine ⟨P, R, A, r, a, ?_⟩
  simp only [reducedInputs, Result.bind_ok, Result.pure_ok]
  exact ⟨_, units, _, native, _, external, _, addedNative, _, addedExternal, P, unitsReduced, R,
    nativeReduced, A, externalReduced, a, addedExternalReduced, r, addedNativeReduced, rfl⟩

namespace Bounded

/-- Every scaled-down input is small and not negative. -/
theorem raw_bounds (bounded : Bounded inputs P R A r a) {dec : Dec} {value : Uint}
    (listed : value ∈ unitValues inputs) (scaled : Scaled inputs.minLen 1 1 dec.raw value.val) :
    0 ≤ dec.raw ∧ dec.raw ≤ 2 * 10 ^ 43 :=
  ⟨scaled.raw_nonneg (by norm_num),
    scaled.raw_le (six_le_getMinLen _) (by norm_num) (bounded.sized value listed).le⟩

/-- The product of two scaled-down inputs is computed, and stands for the product. -/
theorem product_total (bounded : Bounded inputs P R A r a) {first second : Dec} {x y : Uint}
    (firstListed : x ∈ unitValues inputs) (secondListed : y ∈ unitValues inputs)
    (firstScaled : Scaled inputs.minLen 1 1 first.raw x.val)
    (secondScaled : Scaled inputs.minLen 1 1 second.raw y.val) :
    ∃ product, first.mul second = .ok product ∧
      Scaled inputs.minLen 2 4 product.raw (x.val * y.val) ∧ 0 ≤ product.raw ∧
      product.raw ≤ 2 * 10 ^ 68 := by
  obtain ⟨firstNonneg, firstLe⟩ := bounded.raw_bounds firstListed firstScaled
  obtain ⟨secondNonneg, secondLe⟩ := bounded.raw_bounds secondListed secondScaled
  obtain ⟨product, computed⟩ := Dec.mul_total firstNonneg secondNonneg
    ((mul_le_mul firstLe secondLe secondNonneg (by norm_num)).trans_lt (by norm_num))
  have few : (0 : ℚ) ≤ 1 ∧ (1 : ℚ) ≤ 10 := by norm_num
  have parts : (1 : ℚ) + 1 + 2 = 4 := by norm_num
  have scaled := firstScaled.mul secondScaled (by decide) few few computed
  rw [parts] at scaled
  refine ⟨product, computed, scaled, scaled.raw_nonneg (by norm_num), ?_⟩
  apply scaled.raw_le (six_le_getMinLen _) (by norm_num)
  calc x.val * y.val ≤ 10 ^ 31 * 10 ^ 31 :=
        Nat.mul_le_mul (bounded.sized x firstListed).le (bounded.sized y secondListed).le
    _ = 10 ^ (31 * (1 + 1)) := by norm_num

variable (bounded : Bounded inputs P R A r a)
include bounded

/-- The slip adjustment is computed and lies between zero and one. -/
theorem slip_total : ∃ adjustment, slipAdjustmentOf R A r a = .ok adjustment ∧
    0 ≤ adjustment.raw ∧ adjustment.raw ≤ Dec.precision := by
  have nativeListed : inputs.nativeAssetBalance ∈ unitValues inputs := by simp [unitValues]
  have externalListed : inputs.externalAssetBalance ∈ unitValues inputs := by simp [unitValues]
  have addedNativeListed : inputs.nativeAssetAmount ∈ unitValues inputs := by simp [unitValues]
  have addedExternalListed : inputs.externalAssetAmount ∈ unitValues inputs := by simp [unitValues]
  obtain ⟨RNonneg, RLe⟩ := bounded.raw_bounds nativeListed bounded.scaled.native
  obtain ⟨ANonneg, ALe⟩ := bounded.raw_bounds externalListed bounded.scaled.external
  obtain ⟨rNonneg, rLe⟩ := bounded.raw_bounds addedNativeListed bounded.scaled.addedNative
  obtain ⟨aNonneg, aLe⟩ := bounded.raw_bounds addedExternalListed bounded.scaled.addedExternal
  have nativeSum := Dec.add_total rNonneg RNonneg (by omega)
  have externalSum := Dec.add_total aNonneg ANonneg (by omega)
  obtain ⟨total, totalEq⟩ := @Dec.mul_total ⟨r.raw + R.raw⟩ ⟨a.raw + A.raw⟩
    (by dsimp only; omega) (by dsimp only; omega)
    ((mul_le_mul (show r.raw + R.raw ≤ 4 * 10 ^ 43 by omega)
      (show a.raw + A.raw ≤ 4 * 10 ^ 43 by omega) (by omega)
      (by norm_num)).trans_lt (by norm_num))
  obtain ⟨left, leftEq, -, leftNonneg, leftLe⟩ := bounded.product_total nativeListed
    addedExternalListed bounded.scaled.native bounded.scaled.addedExternal
  obtain ⟨right, rightEq, -, rightNonneg, rightLe⟩ := bounded.product_total addedNativeListed
    externalListed bounded.scaled.addedNative bounded.scaled.external
  have leftPart : left.raw ≤ total.raw := Dec.mul_mono leftEq totalEq (by dsimp only; omega)
    (by dsimp only; omega) (by dsimp only; omega) aNonneg
  have rightPart : right.raw ≤ total.raw := Dec.mul_mono rightEq totalEq (by dsimp only; omega)
    (by dsimp only; omega) (by dsimp only; omega) ANonneg
  -- The divisor stands for a product of two positive sums, so it does not round to zero.
  have totalLow : 10 ^ 5 ≤ total.raw := by
    have few : (0 : ℚ) ≤ 1 ∧ (1 : ℚ) ≤ 10 := by norm_num
    have parts : (1 : ℚ) + 1 + 2 = 4 := by norm_num
    have scaled := (bounded.scaled.addedNative.add bounded.scaled.native).mul
      (bounded.scaled.addedExternal.add bounded.scaled.external) (by decide) few few totalEq
    rw [parts] at scaled
    exact scaled.raw_low (Nat.mul_pos (Nat.add_pos_right _ bounded.nativeSome)
      (Nat.add_pos_right _ bounded.externalSome))
  have difference : ∃ share : Dec,
      (if left.gt right then left.sub right else right.sub left) = .ok share ∧
        0 ≤ share.raw ∧ share.raw ≤ total.raw := by
    by_cases greater : left.gt right = true
    · have more : right.raw < left.raw := by simpa [Dec.gt] using greater
      rw [if_pos greater]
      exact ⟨_, Dec.checked_total (by omega) (by omega), by dsimp only; omega, by dsimp only; omega⟩
    · have less : left.raw ≤ right.raw := by simpa [Dec.gt] using greater
      rw [if_neg greater]
      exact ⟨_, Dec.checked_total (by omega) (by omega), by dsimp only; omega, by dsimp only; omega⟩
  obtain ⟨share, shareEq, shareNonneg, sharePart⟩ := difference
  obtain ⟨slip, slipEq⟩ := @Dec.quo_total share total shareNonneg (by omega) (by omega)
  have slipLe := Dec.quo_le_one slipEq shareNonneg sharePart
  have slipNonneg := Dec.quo_nonneg slipEq shareNonneg (by omega)
  have one : (Dec.ofInt 1).raw = Dec.precision := one_mul _
  have rest : (Dec.ofInt 1).sub slip = .ok ⟨Dec.precision - slip.raw⟩ := by
    unfold Dec.sub
    rw [one]
    apply Dec.checked_total (by omega)
    rw [Dec.precision_cast]
    omega
  refine ⟨⟨Dec.precision - slip.raw⟩, ?_, by dsimp only; omega, by dsimp only; omega⟩
  simp only [slipAdjustmentOf, Result.bind_ok]
  exact ⟨_, nativeSum, _, externalSum, total, totalEq, left, leftEq, right, rightEq, share, shareEq,
    slip, slipEq, rest⟩

/-- The units issued are computed, and stay small when the digits are put back. -/
theorem stake_total : ∃ stake, stakeUnitsOf P R A r a = .ok stake ∧ 0 ≤ stake.raw ∧
    stake.raw * 10 ^ inputs.minLen ≤ 10 ^ 81 := by
  have unitsListed : inputs.oldPoolUnits ∈ unitValues inputs := by simp [unitValues]
  have nativeListed : inputs.nativeAssetBalance ∈ unitValues inputs := by simp [unitValues]
  have externalListed : inputs.externalAssetBalance ∈ unitValues inputs := by simp [unitValues]
  have addedNativeListed : inputs.nativeAssetAmount ∈ unitValues inputs := by simp [unitValues]
  have addedExternalListed : inputs.externalAssetAmount ∈ unitValues inputs := by simp [unitValues]
  obtain ⟨PNonneg, PLe⟩ := bounded.raw_bounds unitsListed bounded.scaled.units
  obtain ⟨RNonneg, RLe⟩ := bounded.raw_bounds nativeListed bounded.scaled.native
  obtain ⟨ANonneg, ALe⟩ := bounded.raw_bounds externalListed bounded.scaled.external
  obtain ⟨adjustment, adjustmentEq, adjustmentNonneg, adjustmentLe⟩ := bounded.slip_total
  obtain ⟨first, firstEq, firstScaled, firstNonneg, firstLe⟩ := bounded.product_total
    addedExternalListed nativeListed bounded.scaled.addedExternal bounded.scaled.native
  obtain ⟨second, secondEq, secondScaled, secondNonneg, secondLe⟩ := bounded.product_total
    externalListed addedNativeListed bounded.scaled.external bounded.scaled.addedNative
  have sum := Dec.add_total firstNonneg secondNonneg (by omega)
  obtain ⟨numerator, numeratorEq⟩ := @Dec.mul_total P ⟨first.raw + second.raw⟩ PNonneg
    (by dsimp only; omega)
    ((mul_le_mul PLe (show first.raw + second.raw ≤ 4 * 10 ^ 68 by omega) (by omega)
      (by norm_num)).trans_lt (by norm_num))
  have double : (Dec.ofInt 2).mul A = .ok ⟨A.raw + A.raw⟩ := by
    change Dec.checked (chop (2 * Dec.precision * A.raw) Dec.precision) = _
    rw [show (2 * Dec.precision * A.raw : Int) = (A.raw + A.raw) * Dec.precision by ring,
      chop_mul _ Dec.precision_pos]
    exact Dec.checked_total (by omega) (by omega)
  obtain ⟨denominator, denominatorEq⟩ := @Dec.mul_total ⟨A.raw + A.raw⟩ R (by dsimp only; omega)
    RNonneg ((mul_le_mul (show A.raw + A.raw ≤ 4 * 10 ^ 43 by omega) RLe RNonneg
      (by norm_num)).trans_lt (by norm_num))
  have few : (0 : ℚ) ≤ 1 ∧ (1 : ℚ) ≤ 10 := by norm_num
  have fewFour : (0 : ℚ) ≤ 4 ∧ (4 : ℚ) ≤ 10 := by norm_num
  have numScaled := bounded.scaled.units.mul (firstScaled.add secondScaled) (by decide) few fewFour
    numeratorEq
  have denScaled := (bounded.scaled.external.add bounded.scaled.external).mul bounded.scaled.native
    (by decide) few few denominatorEq
  rw [show (1 : ℚ) + 4 + 2 = 7 by norm_num] at numScaled
  rw [show (1 : ℚ) + 1 + 2 = 4 by norm_num] at denScaled
  -- The exact quotient is at most the units times the largest amount.
  have within : inputs.oldPoolUnits.val *
      (inputs.externalAssetAmount.val * inputs.nativeAssetBalance.val +
        inputs.externalAssetBalance.val * inputs.nativeAssetAmount.val) ≤
      10 ^ 62 * ((inputs.externalAssetBalance.val + inputs.externalAssetBalance.val) *
        inputs.nativeAssetBalance.val) := by
    have gross : inputs.externalAssetAmount.val * inputs.nativeAssetBalance.val +
        inputs.externalAssetBalance.val * inputs.nativeAssetAmount.val ≤
        10 ^ 31 * ((inputs.externalAssetBalance.val + inputs.externalAssetBalance.val) *
          inputs.nativeAssetBalance.val) := by
      have externalPart : inputs.externalAssetAmount.val * inputs.nativeAssetBalance.val ≤
          10 ^ 31 * (inputs.externalAssetBalance.val * inputs.nativeAssetBalance.val) := by
        rw [← mul_assoc]
        apply Nat.mul_le_mul_right
        exact (bounded.sized _ addedExternalListed).le.trans
          (Nat.le_mul_of_pos_right _ bounded.externalSome)
      have nativePart : inputs.externalAssetBalance.val * inputs.nativeAssetAmount.val ≤
          10 ^ 31 * (inputs.externalAssetBalance.val * inputs.nativeAssetBalance.val) := by
        rw [mul_left_comm]
        apply Nat.mul_le_mul_left
        exact (bounded.sized _ addedNativeListed).le.trans
          (Nat.le_mul_of_pos_right _ bounded.nativeSome)
      linarith
    calc _ ≤ 10 ^ 31 * (10 ^ 31 * ((inputs.externalAssetBalance.val +
          inputs.externalAssetBalance.val) * inputs.nativeAssetBalance.val)) :=
          Nat.mul_le_mul (bounded.sized _ unitsListed).le gross
      _ = _ := by ring
  obtain ⟨q, qEq, qNonneg, qLe⟩ := scaled_quo_total numScaled denScaled
    (Nat.mul_pos (Nat.add_pos_left bounded.externalSome _) bounded.nativeSome) within le_rfl
    (minLen_le bounded.sized)
  have unit : (1 : Int) ≤ 10 ^ inputs.minLen := one_le_pow₀ (by decide)
  have qSmall : q.raw ≤ q.raw * 10 ^ inputs.minLen := le_mul_of_one_le_right qNonneg unit
  obtain ⟨stake, stakeEq⟩ := Dec.mul_total qNonneg adjustmentNonneg
    ((mul_le_mul (qSmall.trans qLe) adjustmentLe adjustmentNonneg (by norm_num)).trans_lt
      (by rw [Dec.precision_cast]; norm_num))
  have stakeLe := Dec.mul_le_left stakeEq qNonneg adjustmentLe
  refine ⟨stake, ?_, Dec.mul_nonneg stakeEq qNonneg adjustmentNonneg, ?_⟩
  · rw [stakeUnitsOf_eq]
    simp only [Result.bind_ok]
    exact ⟨adjustment, adjustmentEq, first, firstEq, second, secondEq, _, sum, numerator,
      numeratorEq, _, double, denominator, denominatorEq, q, qEq, stakeEq⟩
  · exact (Int.mul_le_mul_of_nonneg_right stakeLe (by omega)).trans qLe

end Bounded

/-- The sums of the checks are computed. -/
theorem check_sums (sized : Sized (unitValues inputs)) : ∃ native external : Uint,
    inputs.nativeAssetBalance.add inputs.nativeAssetAmount = .ok native ∧
      inputs.externalAssetBalance.add inputs.externalAssetAmount = .ok external ∧
      native.val = inputs.nativeAssetBalance.val + inputs.nativeAssetAmount.val ∧
      external.val = inputs.externalAssetBalance.val + inputs.externalAssetAmount.val := by
  have sum : ∀ x ∈ unitValues inputs, ∀ y ∈ unitValues inputs, x.val + y.val < 2 ^ 256 := by
    intro x first y second
    have firstSmall := sized x first
    have secondSmall := sized y second
    exact (show x.val + y.val < 2 * 10 ^ 31 by omega).trans (by norm_num)
  have native := sum inputs.nativeAssetBalance (by simp [unitValues])
    inputs.nativeAssetAmount (by simp [unitValues])
  have external := sum inputs.externalAssetBalance (by simp [unitValues])
    inputs.externalAssetAmount (by simp [unitValues])
  exact ⟨⟨_, native⟩, ⟨_, external⟩, Uint.add_ok.mpr rfl, Uint.add_ok.mpr rfl, rfl, rfl⟩

/-- The checks panic on no sized inputs. -/
theorem check_neverPanics (sized : Sized (unitValues inputs)) : NeverPanics inputs.check := by
  obtain ⟨native, external, nativeSum, externalSum, -, -⟩ := check_sums sized
  unfold UnitInputs.check
  rw [nativeSum, externalSum]
  refine .bind neverPanics_require fun _ _ => .bind .ok fun _ _ => ?_
  exact .bind neverPanics_require fun _ _ => .bind .ok fun _ _ => neverPanics_require

/-- A contribution to two reserves passes the checks. -/
theorem check_passes (sized : Sized (unitValues inputs))
    (nativeSome : 0 < inputs.nativeAssetBalance.val)
    (externalSome : 0 < inputs.externalAssetBalance.val)
    (some : 0 < inputs.nativeAssetAmount.val ∨ 0 < inputs.externalAssetAmount.val) :
    inputs.check = .ok () := by
  obtain ⟨native, external, nativeSum, externalSum, nativeTotal, externalTotal⟩ := check_sums sized
  simp only [UnitInputs.check, Result.bind_ok, require_ok, ← Bool.not_eq_true, Uint.isZero_iff]
  exact ⟨(), by omega, native, nativeSum, (), by omega, external, externalSum, by omega⟩

/-- Sized inputs with two reserves have reduced units. -/
theorem bounded_reduced (sized : Sized (unitValues inputs))
    (nativeSome : 0 < inputs.nativeAssetBalance.val)
    (externalSome : 0 < inputs.externalAssetBalance.val) :
    ∃ P R A r a, reducedInputs inputs = .ok (P, R, A, r, a) ∧ Bounded inputs P R A r a := by
  obtain ⟨P, R, A, r, a, reduced⟩ := reducedInputs_total sized
  exact ⟨P, R, A, r, a, reduced, reducedInputs_ok reduced, sized, nativeSome, externalSome⟩

/-- The units of a contribution to two reserves are computed. -/
theorem reducedUnits_total (sized : Sized (unitValues inputs))
    (nativeSome : 0 < inputs.nativeAssetBalance.val)
    (externalSome : 0 < inputs.externalAssetBalance.val) :
    ∃ P stake : Dec, inputs.reducedUnits = .ok (P, stake) ∧ 0 ≤ P.raw ∧ P.raw ≤ 2 * 10 ^ 43 ∧
      0 ≤ stake.raw ∧ stake.raw * 10 ^ inputs.minLen ≤ 10 ^ 81 := by
  obtain ⟨P, R, A, r, a, reduced, bounded⟩ := bounded_reduced sized nativeSome externalSome
  obtain ⟨stake, computed, stakeNonneg, stakeLe⟩ := bounded.stake_total
  obtain ⟨nonneg, small⟩ := bounded.raw_bounds
    (show inputs.oldPoolUnits ∈ unitValues inputs by simp [unitValues]) bounded.scaled.units
  refine ⟨P, stake, ?_, nonneg, small, stakeNonneg, stakeLe⟩
  rw [reducedUnits_eq, reduced]
  change (stakeUnitsOf P R A r a >>= fun units => pure (P, units)) = _
  rw [computed]
  rfl

/-- Inputs of at most 31 digits with reserves on both sides give units. -/
theorem issueUnits_total (sized : Sized (unitValues inputs))
    (nativeSome : 0 < inputs.nativeAssetBalance.val)
    (externalSome : 0 < inputs.externalAssetBalance.val) :
    ∃ units, issueUnits inputs = .ok units := by
  obtain ⟨P, stake, reduced, unitsNonneg, unitsLe, stakeNonneg, stakeLe⟩ :=
    reducedUnits_total sized nativeSome externalSome
  have few := minLen_le sized
  have unit : (1 : Int) ≤ 10 ^ inputs.minLen := one_le_pow₀ (by decide)
  have unitHigh : (10 : Int) ^ inputs.minLen ≤ 10 ^ 30 := pow_le_pow_right₀ (by decide) few
  have stakeSmall : stake.raw ≤ stake.raw * 10 ^ inputs.minLen :=
    le_mul_of_one_le_right stakeNonneg unit
  have unitsScaled : P.raw * 10 ^ inputs.minLen ≤ 2 * 10 ^ 43 * 10 ^ 30 :=
    mul_le_mul unitsLe unitHigh (by omega) (by norm_num)
  have total := Dec.add_total unitsNonneg stakeNonneg (by omega)
  obtain ⟨grown, grownEq, grownNonneg, grownValue⟩ := @increasePrecision_total
    ⟨P.raw + stake.raw⟩ _ (by dsimp only; omega) (by dsimp only; rw [add_mul]; omega) few
  obtain ⟨issued, issuedEq, issuedNonneg, issuedValue⟩ := increasePrecision_total stakeNonneg
    (by omega) few
  obtain ⟨newPoolUnits, newEq⟩ := Dec.roundUint_total grownNonneg
    (by rw [grownValue]; dsimp only; rw [add_mul]; omega)
  obtain ⟨lpUnits, lpEq⟩ := Dec.roundUint_total issuedNonneg (by omega)
  refine ⟨(newPoolUnits, lpUnits), ?_⟩
  simp only [issueUnits, Result.bind_ok, Result.pure_ok]
  exact ⟨_, reduced, _, total, grown, grownEq, issued, issuedEq, newPoolUnits, newEq, lpUnits,
    lpEq, rfl⟩

end Units

section Range

variable {decimals : Int} {factor : Dec × Bool} {inputs scaled : UnitInputs}

/-- What the native amounts are multiplied by. -/
def nativeScale (decimals : Int) : Nat := if decimals < 18 then 1 else 10 ^ decimalsGap decimals

/-- What the external amounts are multiplied by. -/
def externalScale (decimals : Int) : Nat := if decimals < 18 then 10 ^ decimalsGap decimals else 1

/-- The units and the scaled amounts of a contribution are below a limit. -/
structure UnitsBelow (limit : Nat) (decimals : Int) (inputs : UnitInputs) : Prop where
  oldPoolUnits : inputs.oldPoolUnits.val < limit
  nativeAssetBalance : inputs.nativeAssetBalance.val * nativeScale decimals < limit
  externalAssetBalance : inputs.externalAssetBalance.val * externalScale decimals < limit
  nativeAssetAmount : inputs.nativeAssetAmount.val * nativeScale decimals < limit
  externalAssetAmount : inputs.externalAssetAmount.val * externalScale decimals < limit

/-- What is below a limit is below a wider one. -/
theorem UnitsBelow.mono {limit wider : Nat} (fit : UnitsBelow limit decimals inputs)
    (wide : limit ≤ wider) : UnitsBelow wider decimals inputs :=
  ⟨fit.oldPoolUnits.trans_le wide, fit.nativeAssetBalance.trans_le wide,
    fit.externalAssetBalance.trans_le wide, fit.nativeAssetAmount.trans_le wide,
    fit.externalAssetAmount.trans_le wide⟩

/-- The scaled amounts of a swap have at most 31 digits. -/
structure SwapFits (decimals : Int) (toRowan : Bool) (inputs : SwapInputs) : Prop where
  reserveIn : inputs.reserveIn.val * soldScale toRowan (decimals < 18) (decimalsGap decimals) < 10 ^ 31
  amountIn : inputs.amountIn.val * soldScale toRowan (decimals < 18) (decimalsGap decimals) < 10 ^ 31
  reserveOut :
    inputs.reserveOut.val * boughtScale toRowan (decimals < 18) (decimalsGap decimals) < 10 ^ 31

/-- A scale of at most 10^31 is of a token at most 31 decimals off. -/
theorem gap_le_of_factor (normalization : getNormalizationFactor decimals = .ok factor)
    (limited : factor.1.raw ≤ 10 ^ 31 * Dec.precision) : decimalsGap decimals ≤ 31 := by
  rw [(getNormalizationFactor_ok normalization).1] at limited
  have power : (10 : Int) ^ decimalsGap decimals ≤ 10 ^ 31 :=
    le_of_mul_le_mul_right limited (by exact_mod_cast Dec.precision_pos)
  exact (pow_le_pow_iff_right₀ (by decide)).mp power

/-- A factor that is computed has at most 76 zeros. -/
theorem gap_le_of_computed (normalization : getNormalizationFactor decimals = .ok factor) :
    decimalsGap decimals ≤ 76 := by
  unfold getNormalizationFactor at normalization
  unfold decimalsGap
  split at normalization
  · omega
  · split at normalization
    · rw [Result.bind_ok] at normalization
      obtain ⟨power, computed, -⟩ := normalization
      have few := Dec.power_ten_few computed
      omega
    · rw [Result.bind_ok] at normalization
      obtain ⟨power, computed, -⟩ := normalization
      have few := Dec.power_ten_few computed
      omega

/-- A factor is turned into an integer. -/
theorem factor_rounded (normalization : getNormalizationFactor decimals = .ok factor) :
    ∃ nf, factor.1.roundUint = .ok nf ∧ nf.val = 10 ^ decimalsGap decimals := by
  obtain ⟨factored, -⟩ := getNormalizationFactor_ok normalization
  have nonneg : (0 : Int) ≤ 10 ^ decimalsGap decimals := by positivity
  have power : (10 : Int) ^ decimalsGap decimals ≤ 10 ^ 76 :=
    pow_le_pow_right₀ (by decide) (gap_le_of_computed normalization)
  obtain ⟨nf, rounded⟩ := @Dec.roundUint_total factor.1
    (by rw [factored, Dec.precision_cast]; omega) (by rw [factored, Dec.precision_cast]; omega)
  exact ⟨nf, rounded, factor_ok factored rounded⟩

/-- The scale of the native amounts is positive. -/
theorem nativeScale_pos (decimals : Int) : 0 < nativeScale decimals := by
  unfold nativeScale
  split <;> positivity

/-- The scale of the external amounts is positive. -/
theorem externalScale_pos (decimals : Int) : 0 < externalScale decimals := by
  unfold externalScale
  split <;> positivity

/-- Amounts that fit are scaled. -/
theorem UnitsBelow.normalized (fit : UnitsBelow (10 ^ 31) decimals inputs)
    (normalization : getNormalizationFactor decimals = .ok factor) :
    ∃ scaled, inputs.normalize factor.1 factor.2 = .ok scaled := by
  obtain ⟨nf, rounded, value⟩ := factor_rounded normalization
  obtain ⟨-, adjust⟩ := getNormalizationFactor_ok normalization
  have small : (10 : Nat) ^ 31 < 2 ^ 256 := by norm_num
  have balance := fit.nativeAssetBalance
  have amount := fit.nativeAssetAmount
  have externalBalance := fit.externalAssetBalance
  have externalAmount := fit.externalAssetAmount
  unfold nativeScale at balance amount
  unfold externalScale at externalBalance externalAmount
  simp only [UnitInputs.normalize, Result.bind_ok]
  by_cases fewer : decimals < 18
  · rw [if_pos fewer] at externalBalance externalAmount
    refine ⟨⟨inputs.oldPoolUnits, inputs.nativeAssetBalance, ⟨_, externalBalance.trans small⟩,
      inputs.nativeAssetAmount, ⟨_, externalAmount.trans small⟩⟩, nf, rounded, ?_⟩
    rw [if_pos (by rw [adjust]; exact decide_eq_true fewer)]
    simp only [Result.bind_ok, Uint.mul_ok, Result.pure_ok, value]
    exact ⟨_, rfl, _, rfl, rfl⟩
  · rw [if_neg fewer] at balance amount
    refine ⟨⟨inputs.oldPoolUnits, ⟨_, balance.trans small⟩, inputs.externalAssetBalance,
      ⟨_, amount.trans small⟩, inputs.externalAssetAmount⟩, nf, rounded, ?_⟩
    rw [if_neg (by rw [adjust]; simpa using fewer)]
    simp only [Result.bind_ok, Uint.mul_ok, Result.pure_ok, value]
    exact ⟨_, rfl, _, rfl, rfl⟩

/-- The scaled amounts are the amounts times the scales. -/
theorem scaled_eq (normalization : getNormalizationFactor decimals = .ok factor)
    (scaling : inputs.normalize factor.1 factor.2 = .ok scaled) :
    scaled.oldPoolUnits = inputs.oldPoolUnits ∧
      scaled.nativeAssetBalance.val = inputs.nativeAssetBalance.val * nativeScale decimals ∧
      scaled.externalAssetBalance.val = inputs.externalAssetBalance.val * externalScale decimals ∧
      scaled.nativeAssetAmount.val = inputs.nativeAssetAmount.val * nativeScale decimals ∧
      scaled.externalAssetAmount.val = inputs.externalAssetAmount.val * externalScale decimals := by
  obtain ⟨factored, adjust⟩ := getNormalizationFactor_ok normalization
  obtain ⟨nf, rounded, units, parts⟩ := normalize_ok scaling
  rw [factor_ok factored rounded] at parts
  simp only [adjust, decide_eq_true_eq] at parts
  exact ⟨units, parts⟩

/-- After the scaling every amount is below the limit. -/
theorem UnitsBelow.values {limit : Nat} (fit : UnitsBelow limit decimals inputs)
    (normalization : getNormalizationFactor decimals = .ok factor)
    (scaling : inputs.normalize factor.1 factor.2 = .ok scaled) :
    ∀ value ∈ unitValues scaled, value.val < limit := by
  obtain ⟨units, balance, externalBalance, amount, externalAmount⟩ := scaled_eq normalization scaling
  intro value listed
  simp only [unitValues, List.mem_cons, List.not_mem_nil, or_false] at listed
  rcases listed with rfl | rfl | rfl | rfl | rfl
  · exact units ▸ fit.oldPoolUnits
  · exact balance ▸ fit.nativeAssetBalance
  · exact externalBalance ▸ fit.externalAssetBalance
  · exact amount ▸ fit.nativeAssetAmount
  · exact externalAmount ▸ fit.externalAssetAmount

/-- The units of a contribution that fits are computed, or it is refused with an error. -/
theorem calculatePoolUnits_neverPanics (fit : UnitsBelow (10 ^ 31) decimals inputs)
    (normalization : getNormalizationFactor decimals = .ok factor) :
    NeverPanics (calculatePoolUnits inputs factor.1 factor.2) := by
  obtain ⟨scaled, scaling⟩ := fit.normalized normalization
  have sized := fit.values normalization scaling
  rw [calculatePoolUnits_eq, scaling]
  refine .bind .ok fun _ same => ?_
  cases same
  refine .bind (check_neverPanics sized) fun _ _ => ?_
  by_cases empty : (scaled.nativeAssetBalance.isZero || scaled.externalAssetBalance.isZero) = true
  · rw [if_pos empty]
    exact .pure
  · rw [if_neg empty]
    simp only [Bool.or_eq_true, not_or, Uint.isZero_iff] at empty
    obtain ⟨units, issued⟩ := issueUnits_total sized (Nat.pos_of_ne_zero empty.1)
      (Nat.pos_of_ne_zero empty.2)
    rw [issued]
    exact .ok

/-- The units of a contribution to two reserves that fits are computed. -/
theorem calculatePoolUnits_total (fit : UnitsBelow (10 ^ 31) decimals inputs)
    (normalization : getNormalizationFactor decimals = .ok factor)
    (native : 0 < inputs.nativeAssetBalance.val) (external : 0 < inputs.externalAssetBalance.val)
    (some : 0 < inputs.nativeAssetAmount.val ∨ 0 < inputs.externalAssetAmount.val) :
    ∃ units, calculatePoolUnits inputs factor.1 factor.2 = .ok units := by
  obtain ⟨scaled, scaling⟩ := fit.normalized normalization
  have sized := fit.values normalization scaling
  obtain ⟨-, nativeSome, externalSome⟩ := scaled_positive normalization native external scaling
  obtain ⟨-, -, -, amount, externalAmount⟩ := scaled_eq normalization scaling
  have someScaled : 0 < scaled.nativeAssetAmount.val ∨ 0 < scaled.externalAssetAmount.val := by
    rw [amount, externalAmount]
    exact some.imp (Nat.mul_pos · (nativeScale_pos decimals))
      (Nat.mul_pos · (externalScale_pos decimals))
  obtain ⟨units, issued⟩ := issueUnits_total sized nativeSome externalSome
  have passed := check_passes sized nativeSome externalSome someScaled
  have filled : (scaled.nativeAssetBalance.isZero || scaled.externalAssetBalance.isZero) = false := by
    simp [Uint.isZero, nativeSome.ne', externalSome.ne']
  refine ⟨units, ?_⟩
  rw [calculatePoolUnits_eq]
  simp only [Result.bind_ok]
  refine ⟨scaled, scaling, (), passed, ?_⟩
  rw [filled]
  exact issued

/-- Inputs that pass the check for zero are all positive. -/
theorem validateZero_filled {inputs : SwapInputs} (valid : validateZero inputs.values = true) :
    Filled inputs := by
  simp only [validateZero, SwapInputs.values, List.all_cons, List.all_nil, Bool.and_true,
    Bool.and_eq_true, Bool.not_eq_true', Uint.isZero, decide_eq_false_iff_not] at valid
  exact ⟨Nat.pos_of_ne_zero valid.1, Nat.pos_of_ne_zero valid.2.1, Nat.pos_of_ne_zero valid.2.2⟩

/-- The result and the fee of a swap that fits are computed. -/
theorem swap_computed {toRowan : Bool} {inputs : SwapInputs} (fit : SwapFits decimals toRowan inputs)
    (normalization : getNormalizationFactor decimals = .ok factor)
    (limited : factor.1.raw ≤ 10 ^ 31 * Dec.precision) :
    (∃ amount, calcSwapResult toRowan factor.1 factor.2 inputs = .ok amount) ∧
      ∃ fee, calcLiquidityFee toRowan factor.1 factor.2 inputs = .ok fee := by
  by_cases valid : validateZero inputs.values = true
  · have filled := validateZero_filled valid
    obtain ⟨factored, adjust⟩ := getNormalizationFactor_ok normalization
    obtain ⟨scaled, normalized, sized⟩ := normalize_total factored
      (gap_le_of_factor normalization limited) le_rfl fit.reserveIn fit.amountIn fit.reserveOut
    rw [← adjust] at normalized
    exact ⟨calcSwapResult_total filled factored normalized sized,
      calcLiquidityFee_total filled factored normalized sized⟩
  · -- An input is zero, and nothing is computed.
    rw [Bool.not_eq_true] at valid
    constructor
    · exact ⟨Uint.zero, if_pos valid⟩
    · refine ⟨Uint.zero, ?_⟩
      unfold calcLiquidityFee
      rw [if_pos valid]
      exact ite_self _

/-- Pool arithmetic on values of at most 31 digits, with a factor of at most 10^31, panics nowhere,
and the slip adjustment lies between zero and one. -/
theorem arithmetic_in_range (normalization : getNormalizationFactor decimals = .ok factor)
    (limited : factor.1.raw ≤ 10 ^ 31 * Dec.precision) :
    (∀ inputs, UnitsBelow (10 ^ 31) decimals inputs →
      NeverPanics (calculatePoolUnits inputs factor.1 factor.2) ∧
        ∃ scaled, inputs.normalize factor.1 factor.2 = .ok scaled ∧
          (0 < inputs.nativeAssetBalance.val → 0 < inputs.externalAssetBalance.val →
            ∃ adjustment, slipAdjustment scaled = .ok adjustment ∧
              0 ≤ adjustment.raw ∧ adjustment.raw ≤ Dec.precision)) ∧
      ∀ toRowan inputs, SwapFits decimals toRowan inputs →
        (∃ amount, calcSwapResult toRowan factor.1 factor.2 inputs = .ok amount) ∧
          ∃ fee, calcLiquidityFee toRowan factor.1 factor.2 inputs = .ok fee := by
  constructor
  · intro inputs fit
    obtain ⟨scaled, scaling⟩ := fit.normalized normalization
    refine ⟨calculatePoolUnits_neverPanics fit normalization, scaled, scaling, ?_⟩
    intro native external
    obtain ⟨-, nativeSome, externalSome⟩ := scaled_positive normalization native external scaling
    obtain ⟨P, R, A, r, a, reduced, bounded⟩ :=
      bounded_reduced (fit.values normalization scaling) nativeSome externalSome
    obtain ⟨adjustment, computed, nonneg, part⟩ := bounded.slip_total
    refine ⟨adjustment, ?_, nonneg, part⟩
    unfold slipAdjustment
    rw [reduced]
    exact computed
  · intro toRowan inputs fit
    exact swap_computed fit normalization limited

/-- A contribution of 31 digits to a pool of 27 and 22 digits, and a sale of that size. -/
theorem large_value_in_range : ∃ factor, getNormalizationFactor 18 = .ok factor ∧
    NeverPanics (calculatePoolUnits
      ⟨⟨162057826929020210025062784, by decide⟩, ⟨162057826929020210025062784, by decide⟩,
        ⟨10 ^ 21, by decide⟩, ⟨10 ^ 21, by decide⟩, ⟨8999998679900000000000000000000, by decide⟩⟩
      factor.1 factor.2) ∧
    ∃ amount, calcSwapResult true factor.1 factor.2 ⟨⟨10 ^ 21, by decide⟩,
      ⟨8999998679900000000000000000000, by decide⟩, ⟨162057826929020210025062784, by decide⟩⟩ =
        .ok amount := by
  have normalization : getNormalizationFactor 18 = .ok (Dec.ofInt 1, false) := rfl
  obtain ⟨units, swaps⟩ := arithmetic_in_range normalization (by decide)
  refine ⟨_, normalization, (units _ ?_).1, (swaps true _ ?_).1⟩
  · exact ⟨by decide, by decide, by decide, by decide, by decide⟩
  · exact ⟨by decide, by decide, by decide⟩

end Range

end Akhira.Verif.Clp
