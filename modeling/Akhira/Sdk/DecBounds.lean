import Akhira.Base.Rounding
import Akhira.Sdk.Math

/-!
# Bounds of fixed-point results

A product is at most half a unit of the last decimal away from the exact one, a quotient at
most one unit; neither changes the sign of its operands. Rounding keeps every bound in whole units
of the last decimal, and the order of two quotients.
-/
namespace Akhira.Sdk.Dec

open Akhira.Base Akhira.Base.Result

variable {left right result : Dec}

/-- The scale of a decimal as a rational. -/
theorem precision_rat : ((precision : Nat) : ℚ) = 10 ^ 18 := by norm_num [precision]

/-- A successful quotient is by something and is the rounded one. -/
theorem quo_ok (computed : left.quo right = .ok result) :
    right.raw ≠ 0 ∧
      result.raw = chop ((left.raw * precision * precision).tdiv right.raw) precision := by
  unfold quo at computed
  split at computed
  · cases computed
  · exact ⟨by assumption, checked_ok computed⟩

section Products

variable (computed : left.mul right = .ok result)

include computed

/-- A product is at most half a unit above the exact one. -/
theorem mul_le : (result.raw : ℚ) ≤ left.raw * right.raw / 10 ^ 18 + 1 / 2 := by
  have bound := @chop_le (left.raw * right.raw) precision precision_pos
  rw [← checked_ok computed, precision_rat] at bound
  push_cast at bound
  exact bound

/-- A product is at most half a unit below the exact one. -/
theorem le_mul : (left.raw : ℚ) * right.raw / 10 ^ 18 - 1 / 2 ≤ result.raw := by
  have bound := @le_chop (left.raw * right.raw) precision precision_pos
  rw [← checked_ok computed, precision_rat] at bound
  push_cast at bound
  exact bound

/-- A product of decimals that are not negative is not negative. -/
theorem mul_nonneg (leftNonneg : 0 ≤ left.raw) (rightNonneg : 0 ≤ right.raw) :
    0 ≤ result.raw := by
  rw [checked_ok computed]
  exact chop_nonneg precision_pos (Int.mul_nonneg leftNonneg rightNonneg)

/-- Larger factors give no smaller product. -/
theorem mul_mono {left' right' result' : Dec} (other : left'.mul right' = .ok result')
    (first : left.raw ≤ left'.raw) (second : right.raw ≤ right'.raw) (leftNonneg : 0 ≤ left'.raw)
    (rightNonneg : 0 ≤ right.raw) : result.raw ≤ result'.raw := by
  rw [checked_ok computed, checked_ok other]
  exact chop_mono precision_pos (mul_le_mul first second rightNonneg leftNonneg)

/-- A part of a value is at most the value. -/
theorem mul_le_left (leftNonneg : 0 ≤ left.raw) (part : right.raw ≤ precision) :
    result.raw ≤ left.raw := by
  have whole := chop_mul left.raw precision_pos
  have most := chop_mono precision_pos (Int.mul_le_mul_of_nonneg_left part leftNonneg)
  rw [checked_ok computed]
  exact most.trans_eq whole

end Products

section Quotients

variable (computed : left.quo right = .ok result)

include computed

/-- The truncated quotient before it is rounded. -/
theorem quo_floor (leftNonneg : 0 ≤ left.raw) (rightNonneg : 0 ≤ right.raw) :
    ∃ whole : Int, 0 ≤ whole ∧ result.raw = chop whole precision ∧
      (whole : ℚ) ≤ left.raw * 10 ^ 36 / right.raw ∧
      (left.raw : ℚ) * 10 ^ 36 / right.raw - 1 ≤ whole := by
  obtain ⟨nonzero, value⟩ := quo_ok computed
  have positive : 0 < right.raw := lt_of_le_of_ne rightNonneg (Ne.symm nonzero)
  have numerator : left.raw * precision * precision = left.raw * 10 ^ 36 := by
    rw [precision_cast]
    ring
  have numeratorNonneg : 0 ≤ left.raw * 10 ^ 36 := Int.mul_nonneg leftNonneg (by decide)
  rw [numerator, Int.tdiv_eq_ediv_of_nonneg numeratorNonneg] at value
  refine ⟨_, Int.ediv_nonneg numeratorNonneg positive.le, value, ?_, ?_⟩
  · rw [le_div_iff₀ (by exact_mod_cast positive)]
    exact_mod_cast Int.ediv_mul_le _ nonzero
  · rw [sub_le_iff_le_add, div_le_iff₀ (by exact_mod_cast positive)]
    exact_mod_cast (Int.lt_ediv_add_one_mul_self _ positive).le

/-- A quotient is at most half a unit above the exact one. -/
theorem quo_le (leftNonneg : 0 ≤ left.raw) (rightNonneg : 0 ≤ right.raw) :
    (result.raw : ℚ) ≤ left.raw * 10 ^ 18 / right.raw + 1 / 2 := by
  obtain ⟨whole, -, value, most, -⟩ := quo_floor computed leftNonneg rightNonneg
  have bound := @chop_le whole precision precision_pos
  rw [← value, precision_rat] at bound
  have split : (left.raw : ℚ) * 10 ^ 36 / right.raw = left.raw * 10 ^ 18 / right.raw * 10 ^ 18 := by
    ring
  rw [split] at most
  linarith

/-- The truncation costs little more than the rounding. -/
theorem le_quo_sharp (leftNonneg : 0 ≤ left.raw) (rightNonneg : 0 ≤ right.raw) :
    (left.raw : ℚ) * 10 ^ 18 / right.raw - (1 / 2 + 1 / 10 ^ 18) ≤ result.raw := by
  obtain ⟨whole, -, value, -, least⟩ := quo_floor computed leftNonneg rightNonneg
  have bound := @le_chop whole precision precision_pos
  rw [← value, precision_rat] at bound
  have split : (left.raw : ℚ) * 10 ^ 36 / right.raw = left.raw * 10 ^ 18 / right.raw * 10 ^ 18 := by
    ring
  rw [split] at least
  linarith

/-- A quotient is at most one unit below the exact one: it is truncated before it is rounded. -/
theorem le_quo (leftNonneg : 0 ≤ left.raw) (rightNonneg : 0 ≤ right.raw) :
    (left.raw : ℚ) * 10 ^ 18 / right.raw - 1 ≤ result.raw := by
  have sharp := le_quo_sharp computed leftNonneg rightNonneg
  have little : (1 : ℚ) / 2 + 1 / 10 ^ 18 ≤ 1 := by norm_num
  linarith

/-- A quotient of decimals that are not negative is not negative. -/
theorem quo_nonneg (leftNonneg : 0 ≤ left.raw) (rightNonneg : 0 ≤ right.raw) :
    0 ≤ result.raw := by
  obtain ⟨whole, nonnegative, value, -⟩ := quo_floor computed leftNonneg rightNonneg
  rw [value]
  exact chop_nonneg precision_pos nonnegative

/-- A quotient that is exactly at most a number of units is so after rounding. -/
theorem quo_le_of_le_mul {most : Int} (leftNonneg : 0 ≤ left.raw) (rightNonneg : 0 ≤ right.raw)
    (exact : left.raw * 10 ^ 18 ≤ most * right.raw) : result.raw ≤ most := by
  obtain ⟨whole, -, value, floor, -⟩ := quo_floor computed leftNonneg rightNonneg
  obtain ⟨nonzero, -⟩ := quo_ok computed
  have positive : (0 : ℚ) < right.raw := by
    exact_mod_cast lt_of_le_of_ne rightNonneg (Ne.symm nonzero)
  have ratio : (left.raw : ℚ) * 10 ^ 36 / right.raw ≤ most * 10 ^ 18 := by
    have scaled : (left.raw : ℚ) * 10 ^ 18 ≤ most * right.raw := by exact_mod_cast exact
    rw [div_le_iff₀ positive]
    linarith
  have bound : whole ≤ most * precision := by
    rw [precision_cast]
    exact_mod_cast floor.trans ratio
  rw [value, ← chop_mul most precision_pos]
  exact chop_mono precision_pos bound

/-- A quotient that is exactly at least a number of units is so after rounding. -/
theorem le_quo_of_mul_le {least : Int} (leftNonneg : 0 ≤ left.raw) (rightNonneg : 0 ≤ right.raw)
    (exact : least * right.raw ≤ left.raw * 10 ^ 18) : least ≤ result.raw := by
  obtain ⟨nonzero, value⟩ := quo_ok computed
  have positive : 0 < right.raw := lt_of_le_of_ne rightNonneg (Ne.symm nonzero)
  have numerator : left.raw * precision * precision = left.raw * 10 ^ 36 := by
    rw [precision_cast]
    ring
  have nonneg : 0 ≤ left.raw * 10 ^ 36 := Int.mul_nonneg leftNonneg (by decide)
  have bound : least * precision ≤ left.raw * 10 ^ 36 / right.raw := by
    rw [Int.le_ediv_iff_mul_le positive, precision_cast]
    linarith
  rw [value, numerator, Int.tdiv_eq_ediv_of_nonneg nonneg, ← chop_mul least precision_pos]
  exact chop_mono precision_pos bound

/-- Part of a whole is at most one. -/
theorem quo_le_one (leftNonneg : 0 ≤ left.raw) (part : left.raw ≤ right.raw) :
    result.raw ≤ precision := by
  apply quo_le_of_le_mul computed leftNonneg (leftNonneg.trans part)
  rw [precision_cast]
  linarith

/-- A larger divisor gives no larger quotient. -/
theorem quo_anti {larger smaller : Dec} (other : left.quo larger = .ok smaller)
    (leftNonneg : 0 ≤ left.raw) (rightNonneg : 0 ≤ right.raw) (ordered : right.raw ≤ larger.raw) :
    smaller.raw ≤ result.raw := by
  obtain ⟨nonzero, value⟩ := quo_ok computed
  obtain ⟨-, otherValue⟩ := quo_ok other
  have positive : 0 < right.raw := lt_of_le_of_ne rightNonneg (Ne.symm nonzero)
  have nonneg : 0 ≤ left.raw * precision * precision :=
    Int.mul_nonneg (Int.mul_nonneg leftNonneg (by decide)) (by decide)
  rw [Int.tdiv_eq_ediv_of_nonneg nonneg] at value otherValue
  rw [value, otherValue]
  apply chop_mono precision_pos
  have quotientNonneg := Int.ediv_nonneg nonneg (positive.le.trans ordered)
  rw [Int.le_ediv_iff_mul_le positive]
  calc left.raw * precision * precision / larger.raw * right.raw
      ≤ left.raw * precision * precision / larger.raw * larger.raw :=
        Int.mul_le_mul_of_nonneg_left ordered quotientNonneg
    _ ≤ left.raw * precision * precision := Int.ediv_mul_le _ (by omega)

end Quotients

section Totals

/-- A small decimal is admitted. -/
theorem checked_total {raw : Int} (nonneg : 0 ≤ raw) (small : raw < 10 ^ 94) :
    checked raw = .ok ⟨raw⟩ := by
  apply if_pos
  have few : (10 : Nat) ^ 94 ≤ 2 ^ maxDecBitLen := by decide +kernel
  omega

/-- A small sum does not overflow. -/
theorem add_total (leftNonneg : 0 ≤ left.raw) (rightNonneg : 0 ≤ right.raw)
    (small : left.raw + right.raw < 10 ^ 94) : left.add right = .ok ⟨left.raw + right.raw⟩ :=
  checked_total (by omega) small

/-- A small product does not overflow. -/
theorem mul_total (leftNonneg : 0 ≤ left.raw) (rightNonneg : 0 ≤ right.raw)
    (small : left.raw * right.raw < 9 * 10 ^ 111) : ∃ result, left.mul right = .ok result := by
  have nonneg := Int.mul_nonneg leftNonneg rightNonneg
  have above := (chop_nearest (left.raw * right.raw) precision_pos).above
  rw [precision_cast] at above
  refine ⟨_, checked_total (chop_nonneg precision_pos nonneg) ?_⟩
  omega

/-- A small quotient by a positive decimal is computed. -/
theorem quo_total (leftNonneg : 0 ≤ left.raw) (positive : 0 < right.raw)
    (small : left.raw * 10 ^ 18 < 10 ^ 93 * right.raw) : ∃ result, left.quo right = .ok result := by
  have numerator : left.raw * precision * precision = left.raw * 10 ^ 36 := by
    rw [precision_cast]
    ring
  have nonneg : 0 ≤ left.raw * 10 ^ 36 := Int.mul_nonneg leftNonneg (by decide)
  have whole : left.raw * 10 ^ 36 / right.raw < 10 ^ 111 := by
    apply Int.ediv_lt_of_lt_mul positive
    linarith
  have above := (chop_nearest (left.raw * 10 ^ 36 / right.raw) precision_pos).above
  rw [precision_cast] at above
  unfold quo
  rw [if_neg (by omega), numerator, Int.tdiv_eq_ediv_of_nonneg nonneg]
  refine ⟨_, checked_total (chop_nonneg precision_pos (Int.ediv_nonneg nonneg positive.le)) ?_⟩
  omega

/-- An admitted decimal has at most 95 digits. -/
theorem checked_bounded {raw : Int} {result : Dec} (admitted : checked raw = .ok result) :
    result.raw < 10 ^ 95 := by
  unfold checked at admitted
  split at admitted
  · rename_i bounded
    cases admitted
    have few : raw.natAbs < 10 ^ 95 := bounded.trans_le (by decide +kernel)
    exact Int.le_natAbs.trans_lt (by exact_mod_cast few)
  · cases admitted

/-- Squaring and multiplying gives admitted decimals only. -/
theorem powerLoop_bounded {fuel exponent : Nat} {base collected result : Dec}
    (computed : powerLoop fuel exponent base collected = .ok result) : result.raw < 10 ^ 95 := by
  induction fuel generalizing exponent base collected with
  | zero =>
    rw [powerLoop, mul] at computed
    exact checked_bounded computed
  | succ fuel ih =>
    simp only [powerLoop] at computed
    split at computed
    · exact checked_bounded computed
    · simp only [Result.bind_ok] at computed
      obtain ⟨next, -, square, -, rest⟩ := computed
      exact ih rest

/-- A power of ten that is computed has at most 76 zeros. -/
theorem power_ten_few {exponent : Nat} {result : Dec}
    (computed : (ofInt 10).power exponent = .ok result) : exponent ≤ 76 := by
  have value := power_integral 10 computed
  unfold power at computed
  split at computed
  · omega
  · have bounded := powerLoop_bounded computed
    rw [value, precision_cast] at bounded
    have power : (10 : Int) ^ exponent < 10 ^ 77 := by omega
    exact Nat.le_of_lt_succ ((pow_lt_pow_iff_right₀ (by decide)).mp power)

/-- The powers of ten that the normalization takes are exact. -/
theorem power_ten {exponent : Nat} (few : exponent ≤ 31) :
    (ofInt 10).power exponent = .ok ⟨10 ^ exponent * precision⟩ := by
  interval_cases exponent <;> decide +kernel

/-- A small decimal that is not negative is rounded to an amount. -/
theorem roundUint_total {value : Dec} (nonneg : 0 ≤ value.raw) (small : value.raw ≤ 10 ^ 94) :
    ∃ result, value.roundUint = .ok result := by
  have above := (chop_nearest value.raw precision_pos).above
  have least := @chop_nonneg value.raw _ precision_pos nonneg
  rw [precision_cast] at above
  have few : (10 : Nat) ^ 76 + 1 ≤ 2 ^ 256 := by norm_num
  have fits : (chop value.raw precision).natAbs < 2 ^ 256 := by omega
  refine ⟨⟨(chop value.raw precision).toNat, by omega⟩, ?_⟩
  simp only [roundUint, roundInt, Result.bind_ok, SInt.ofInt_ok, Uint.ofInt_ok]
  exact ⟨⟨_, fits⟩, rfl, Int.toNat_of_nonneg least⟩

end Totals

section Faults

open Outcome (OnlyPanics)

/-- The check of a decimal fails in no other way than by a panic. -/
theorem checked_onlyPanics (raw : Int) : OnlyPanics (checked raw) := by
  unfold checked
  split
  · exact .ok
  · exact .error ⟨_, rfl⟩

/-- A product fails in no other way than by a panic. -/
theorem mul_onlyPanics (left right : Dec) : OnlyPanics (left.mul right) := by
  unfold mul
  exact checked_onlyPanics _

/-- The loop of a power fails in no other way than by a panic. -/
theorem powerLoop_onlyPanics (fuel exponent : Nat) (base collected : Dec) :
    OnlyPanics (powerLoop fuel exponent base collected) := by
  induction fuel generalizing exponent base collected with
  | zero => exact mul_onlyPanics _ _
  | succ fuel ih =>
    unfold powerLoop
    split
    · exact mul_onlyPanics _ _
    · refine .bind ?_ fun _ _ => .bind (mul_onlyPanics _ _) fun _ _ => ih _ _ _
      split
      · exact mul_onlyPanics _ _
      · exact .pure

/-- A power fails in no other way than by a panic. -/
theorem power_onlyPanics (base : Dec) (exponent : Nat) : OnlyPanics (base.power exponent) := by
  unfold power
  split
  · exact .ok
  · exact powerLoop_onlyPanics _ _ _ _

/-- A fault other than a division by zero. -/
def NotDivision (fault : Fault) : Prop := fault ≠ .panic "division by zero"

/-- A division by zero is told from other faults by comparing them. -/
instance : DecidablePred NotDivision := fun fault =>
  inferInstanceAs (Decidable (fault ≠ .panic "division by zero"))

/-- The check of a decimal does not divide. -/
theorem checked_notDivision (raw : Int) : Blames NotDivision (checked raw) := by
  unfold checked
  split
  · exact .ok
  · exact .error (by decide)

/-- Parsing a decimal does not divide. -/
theorem ofText_notDivision (value : Int) : Blames NotDivision (ofText value) := by
  unfold ofText
  split
  · exact .ok
  · exact .error (by decide)

/-- A quotient by a decimal that is not zero fails for another reason than the division. -/
theorem quo_notDivision (nonzero : right.raw ≠ 0) : Blames NotDivision (left.quo right) := by
  unfold quo
  rw [if_neg nonzero]
  exact checked_notDivision _

/-- Rounding to an amount does not divide by zero. -/
theorem roundUint_notDivision (value : Dec) : Blames NotDivision value.roundUint := by
  refine .bind (Outcome.blames_present fun _ => by decide) fun rounded _ => ?_
  unfold Uint.ofInt Uint.ofNat
  split
  · exact .error (by decide)
  · split
    · exact .ok
    · exact .error (by decide)

end Faults

end Akhira.Sdk.Dec
