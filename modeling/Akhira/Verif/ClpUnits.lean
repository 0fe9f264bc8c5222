import Akhira.Verif.ClpScaled
import Akhira.Verif.ClpSolvency

/-!
# Units issued for a contribution

The pool's new units and the provider's units come from two roundings of one reduced
computation. They differ by the old units exactly when the old units survive the
reduction and the issued amount is not rounded to even from halfway on top of an odd
number. Even units, or a reduction by 18 digits or more, leave no such halfway case.
-/
namespace Akhira.Verif.Clp

open Akhira.Base Akhira.Sdk Akhira.Clp

/-- The condition under which no unit is lost or gained by rounding: the old units survive the
reduction, and the issued units are not halfway between two integers on top of an odd number. -/
def UnitsExact (inputs : UnitInputs) : Prop :=
  10 ^ inputs.minLen ∣ inputs.oldPoolUnits.val * 10 ^ 18 ∧
    match inputs.reducedUnits with
    | .ok (_, stake) => ¬(Tie (stake.raw * 10 ^ inputs.minLen) Dec.precision ∧
        inputs.oldPoolUnits.val % 2 = 1)
    | .error _ => True

/-- What makes rounding exact whatever is issued: the old units survive the reduction, and they
are even or a reduction by 18 digits or more leaves no fraction to round. -/
def UnitsSettled (inputs : UnitInputs) : Prop :=
  10 ^ inputs.minLen ∣ inputs.oldPoolUnits.val * 10 ^ 18 ∧
    (inputs.oldPoolUnits.val % 2 = 0 ∨ 18 ≤ inputs.minLen)

/-- The amounts decide whether the units are settled. -/
instance (inputs : UnitInputs) : Decidable (UnitsSettled inputs) :=
  inferInstanceAs (Decidable (_ ∧ _))

/-- Scaled up by 18 digits or more, a decimal is an integer and not halfway between two. -/
theorem not_tie_of_le {po : Nat} (high : 18 ≤ po) (raw : Int) :
    ¬ Tie (raw * 10 ^ po) Dec.precision := by
  intro tie
  have divides : (Dec.precision : Int) ∣ raw * 10 ^ po := by
    rw [Dec.precision_cast]
    exact Dvd.dvd.mul_left (pow_dvd_pow 10 high) raw
  unfold Tie at tie
  rw [Int.emod_eq_zero_of_dvd divides] at tie
  have positive := Dec.precision_pos
  omega

/-- Settled units round exactly. -/
theorem UnitsSettled.exact {inputs : UnitInputs} (settled : UnitsSettled inputs) :
    UnitsExact inputs := by
  refine ⟨settled.1, ?_⟩
  split
  · rintro ⟨tie, odd⟩
    rcases settled.2 with even | high
    · omega
    · exact not_tie_of_le high _ tie
  · trivial

/-- Reduced units that are exact shift the rounding of the issued units, except at a tie with an
odd number. -/
theorem chop_shifted_iff {reduced stake : Int} {units po : Nat}
    (exact : reduced * 10 ^ po = units * 10 ^ 18) :
    chop ((reduced + stake) * 10 ^ po) Dec.precision =
        units + chop (stake * 10 ^ po) Dec.precision ↔
      ¬(Tie (stake * 10 ^ po) Dec.precision ∧ units % 2 = 1) := by
  have shifted : (reduced + stake) * 10 ^ po = units * Dec.precision + stake * 10 ^ po := by
    rw [add_mul, exact, Dec.precision_cast]
  have parity : ((units : Int) % 2 = 1) ↔ units % 2 = 1 := by omega
  rw [shifted, chop_add_mul_iff _ _ Dec.precision_pos, parity]

/-- Roundings that differ by the units leave the reduced units exact: past 18 digits nothing is
rounded after the reduction. -/
theorem reduction_of_sum {reduced stake : Int} {units po : Nat}
    (sum : chop ((reduced + stake) * 10 ^ po) Dec.precision =
      units + chop (stake * 10 ^ po) Dec.precision)
    (small : po ≤ 18 → reduced * 10 ^ po = units * 10 ^ 18) :
    reduced * 10 ^ po = units * 10 ^ 18 := by
  rcases Nat.le_total po 18 with low | high
  · exact small low
  · have split : (10 : Int) ^ po = 10 ^ (po - 18) * Dec.precision := by
      rw [Dec.precision_cast, ← pow_add]
      congr 1
      omega
    rw [split, ← mul_assoc, ← mul_assoc, chop_mul _ Dec.precision_pos,
      chop_mul _ Dec.precision_pos, add_mul] at sum
    have same : reduced * 10 ^ (po - 18) = units := by linarith
    rw [split, ← mul_assoc, same, Dec.precision_cast]

/-- The pool's new units and the units issued, as two roundings of the reduced computation. -/
structure RoundedUnits (inputs : UnitInputs) (reduced : Dec × Dec) (units : Uint × Uint) : Prop where
  reduction : inputs.reducedUnits = .ok reduced
  pool : (units.1.val : Int) =
    chop ((reduced.1.raw + reduced.2.raw) * 10 ^ inputs.minLen) Dec.precision
  issued : (units.2.val : Int) = chop (reduced.2.raw * 10 ^ inputs.minLen) Dec.precision

/-- The two roundings of the units agree when and only when the condition holds. -/
theorem RoundedUnits.sum_iff {inputs : UnitInputs} {reduced : Dec × Dec} {units : Uint × Uint}
    (rounded : RoundedUnits inputs reduced units) :
    units.1.val = inputs.oldPoolUnits.val + units.2.val ↔ UnitsExact inputs := by
  obtain ⟨reduction, newValue, lpValue⟩ := rounded
  have exactIff : reduced.1.raw * 10 ^ inputs.minLen = inputs.oldPoolUnits.val * 10 ^ 18 ↔
      10 ^ inputs.minLen ∣ inputs.oldPoolUnits.val * 10 ^ 18 := by
    have steps := reduction
    simp only [UnitInputs.reducedUnits, Result.bind_ok, Result.pure_ok] at steps
    obtain ⟨P, parsed, -, -, -, -, -, -, -, -, reducedP, reductionP, -, -, -, -, -, -, -, -, -, -,
      rfl⟩ := steps
    exact reduced_exact_iff (congrArg Dec.raw (Dec.ofText_ok parsed)) reductionP
  unfold UnitsExact
  rw [reduction, ← exactIff]
  constructor
  · intro same
    have exact : reduced.1.raw * 10 ^ inputs.minLen = inputs.oldPoolUnits.val * 10 ^ 18 :=
      reduction_of_sum (by rw [← newValue, ← lpValue, same]; push_cast; rfl)
        fun low => exactIff.mpr (Dvd.dvd.mul_left (pow_dvd_pow 10 low) _)
    refine ⟨exact, ?_⟩
    change ¬(Tie (reduced.2.raw * 10 ^ inputs.minLen) Dec.precision ∧ _)
    rw [← chop_shifted_iff exact, ← newValue, ← lpValue, same]
    push_cast
    rfl
  · rintro ⟨exact, untied⟩
    have sum := (chop_shifted_iff exact).mpr untied
    rw [← newValue, ← lpValue] at sum
    exact_mod_cast sum

/-- Scaling keeps the units and both reserves positive. -/
theorem scaled_positive {inputs scaled : UnitInputs} {decimals : Int} {factor : Dec × Bool}
    (normalized : getNormalizationFactor decimals = .ok factor)
    (native : 0 < inputs.nativeAssetBalance.val) (external : 0 < inputs.externalAssetBalance.val)
    (scaling : inputs.normalize factor.1 factor.2 = .ok scaled) :
    scaled.oldPoolUnits = inputs.oldPoolUnits ∧ 0 < scaled.nativeAssetBalance.val ∧
      0 < scaled.externalAssetBalance.val := by
  obtain ⟨nf, rounded, sameUnits, nativeScaled, externalScaled, -⟩ := normalize_ok scaling
  have nfPositive := normalizationFactor_pos normalized rounded
  have nativeScale : 0 < (if factor.2 then 1 else nf.val) := by split <;> omega
  have externalScale : 0 < (if factor.2 then nf.val else 1) := by split <;> omega
  refine ⟨sameUnits, ?_, ?_⟩
  · rw [nativeScaled]
    exact Nat.mul_pos native nativeScale
  · rw [externalScaled]
    exact Nat.mul_pos external externalScale

/-- A contribution to a pool with two reserves is scaled, reduced and rounded: it never is the
first one. -/
theorem calculatePoolUnits_rounded {inputs : UnitInputs} {decimals : Int} {factor : Dec × Bool}
    {units : Uint × Uint} (normalized : getNormalizationFactor decimals = .ok factor)
    (native : 0 < inputs.nativeAssetBalance.val) (external : 0 < inputs.externalAssetBalance.val)
    (computed : calculatePoolUnits inputs factor.1 factor.2 = .ok units) :
    ∃ scaled reduced, inputs.normalize factor.1 factor.2 = .ok scaled ∧
      RoundedUnits scaled reduced units := by
  simp only [calculatePoolUnits, Result.bind_ok] at computed
  obtain ⟨scaled, scaling, -, -, branch⟩ := computed
  obtain ⟨-, nativePositive, externalPositive⟩ :=
    scaled_positive normalized native external scaling
  have nativeSome : scaled.nativeAssetBalance.isZero = false := by
    rw [← Bool.not_eq_true, Uint.isZero_iff]
    omega
  have externalSome : scaled.externalAssetBalance.isZero = false := by
    rw [← Bool.not_eq_true, Uint.isZero_iff]
    omega
  rw [nativeSome, externalSome] at branch
  simp only [Bool.or_self, Bool.false_eq_true, ↓reduceIte, Result.bind_ok, Result.pure_ok]
    at branch
  obtain ⟨reduced, reduction, sum, added, increased, sumIncreased, stake, stakeIncreased,
    newPoolUnits, sumRounded, lpUnits, stakeRounded, rfl⟩ := branch
  refine ⟨scaled, reduced, scaling, reduction, ?_, ?_⟩
  · rw [Dec.roundUint_ok sumRounded, increasePrecision_ok sumIncreased, Dec.checked_ok added]
  · rw [Dec.roundUint_ok stakeRounded, increasePrecision_ok stakeIncreased]

/-- A contribution to a pool with two reserves grows the pool's units by the units issued exactly
when its scaled inputs round exactly. -/
theorem calculatePoolUnits_exact_iff {inputs : UnitInputs} {decimals : Int} {factor : Dec × Bool}
    {units : Uint × Uint} (normalized : getNormalizationFactor decimals = .ok factor)
    (native : 0 < inputs.nativeAssetBalance.val) (external : 0 < inputs.externalAssetBalance.val)
    (computed : calculatePoolUnits inputs factor.1 factor.2 = .ok units) :
    ∃ scaled, inputs.normalize factor.1 factor.2 = .ok scaled ∧
      (units.1.val = inputs.oldPoolUnits.val + units.2.val ↔ UnitsExact scaled) := by
  obtain ⟨scaled, reduced, scaling, rounded⟩ :=
    calculatePoolUnits_rounded normalized native external computed
  obtain ⟨sameUnits, -, -⟩ := scaled_positive normalized native external scaling
  refine ⟨scaled, scaling, ?_⟩
  rw [← sameUnits]
  exact rounded.sum_iff

end Akhira.Verif.Clp
