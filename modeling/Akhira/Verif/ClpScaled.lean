import Akhira.Clp.Calculations
import Akhira.Sdk.DecBounds

/-!
# Formulas on scaled-down inputs

The formulas of the pool module are evaluated on inputs scaled down by a number of digits. Either six
digits are dropped and every product is exact, or every input is so large that each step costs a
relative error of 10^-18. A quotient costs half a step of the reduced precision on top.
-/
namespace Akhira.Verif.Clp

open Akhira.Base Akhira.Sdk Akhira.Clp

/-- Scaling up multiplies by the power of ten, without rounding. -/
theorem increasePrecision_ok {dec result : Dec} {po : Nat}
    (increased : increasePrecision dec po = .ok result) : result.raw = dec.raw * 10 ^ po := by
  rw [increasePrecision, Result.bind_ok] at increased
  obtain ⟨p, power, product⟩ := increased
  have value := Dec.checked_ok product
  rw [Dec.power_integral 10 power, ← mul_assoc, chop_mul _ Dec.precision_pos] at value
  exact value

/-- Scaling an integer down divides by the power of ten at 36 decimals and rounds at 18. -/
theorem reducePrecision_ok {value : Nat} {dec result : Dec} {po : Nat}
    (raw : dec.raw = value * Dec.precision) (reduced : reducePrecision dec po = .ok result) :
    result.raw = chop ((value * 10 ^ 36 / 10 ^ po : Nat) : Int) Dec.precision := by
  rw [reducePrecision, Result.bind_ok] at reduced
  obtain ⟨p, power, quotient⟩ := reduced
  have divisor := Dec.power_integral 10 power
  unfold Dec.quo at quotient
  split at quotient
  · cases quotient
  · have computed := Dec.checked_ok quotient
    have numerator : dec.raw * Dec.precision * Dec.precision =
        ((value * 10 ^ 36 * 10 ^ 18 : Nat) : Int) := by
      rw [raw, Dec.precision_cast]
      push_cast
      ring
    have denominator : p.raw = ((10 ^ po * 10 ^ 18 : Nat) : Int) := by
      rw [divisor, Dec.precision_cast]
      push_cast
      ring
    rw [numerator, denominator, ← Int.ofNat_tdiv,
      Nat.mul_div_mul_right _ _ (by positivity : 0 < 10 ^ 18)] at computed
    exact computed

/-- A reduction keeps a number exactly when its 18 decimals hold the quotient. -/
theorem reduced_exact_iff {value po : Nat} {dec result : Dec}
    (raw : dec.raw = value * Dec.precision) (reduced : reducePrecision dec po = .ok result) :
    result.raw * 10 ^ po = value * 10 ^ 18 ↔ 10 ^ po ∣ value * 10 ^ 18 := by
  have computed := reducePrecision_ok raw reduced
  constructor
  · intro exact
    have divides : (10 : Int) ^ po ∣ value * 10 ^ 18 := ⟨result.raw, by rw [← exact, mul_comm]⟩
    exact_mod_cast divides
  · rintro ⟨quotient, same⟩
    have shift : value * 10 ^ 36 / 10 ^ po = quotient * 10 ^ 18 := by
      apply Nat.div_eq_of_eq_mul_left (by positivity)
      calc value * 10 ^ 36 = value * 10 ^ 18 * 10 ^ 18 := by ring
        _ = quotient * 10 ^ 18 * 10 ^ po := by rw [same]; ring
    have whole : result.raw = quotient := by
      rw [computed, shift]
      exact_mod_cast chop_mul (quotient : Int) Dec.precision_pos
    rw [whole]
    exact_mod_cast (by rw [same, mul_comm] : quotient * 10 ^ po = value * 10 ^ 18)

section Digits

/-- The least length is at most that of every listed value. -/
theorem foldl_min_le {inputs : List Uint} {value : Uint} (start : Nat) (listed : value ∈ inputs) :
    inputs.foldl (fun least value => min value.textLength least) start ≤ value.textLength := by
  have below : ∀ (rest : List Uint) (least : Nat),
      rest.foldl (fun least value => min value.textLength least) least ≤ least := by
    intro rest
    induction rest with
    | nil => exact fun least => le_refl _
    | cons head tail ih => exact fun least => (ih _).trans (min_le_right _ _)
  induction inputs generalizing start with
  | nil => cases listed
  | cons head tail ih =>
    rcases List.mem_cons.mp listed with rfl | later
    · exact (below tail _).trans (min_le_left _ _)
    · exact ih _ later

/-- A number with more digits than `digits` is at least that power of ten. -/
theorem pow_le_of_textLength {value : Uint} {digits : Nat} (some : 0 < digits)
    (longer : digits < value.textLength) : 10 ^ digits ≤ value.val := by
  by_contra small
  have short := (Nat.length_toDigits_le_iff (by decide) some).mpr (not_le.mp small)
  exact absurd longer (not_lt.mpr short)

/-- Six digits are dropped, or no more than every input can spare. -/
theorem getMinLen_spares (inputs : List Uint) :
    getMinLen inputs = 6 ∨ ∀ value ∈ inputs, 10 ^ getMinLen inputs ≤ value.val := by
  have least := fun value => @foldl_min_le inputs value (2 ^ 63 - 1)
  unfold getMinLen
  generalize inputs.foldl (fun least value => min value.textLength least) (2 ^ 63 - 1) =
    minLen at *
  generalize inputs.foldl (fun most value => max value.textLength most) 1 = maxInputLen
  dsimp only
  split
  · exact .inl rfl
  · rename_i long
    split
    · split
      · exact .inl rfl
      · right
        intro value listed
        have length := least value listed
        exact pow_le_of_textLength (by omega) (by omega)
    · right
      intro value listed
      have length := least value listed
      exact pow_le_of_textLength (by omega) (by omega)

end Digits

/-- A decimal that stands for a product of `factors` inputs, each scaled down by `digits` digits:
exact when six digits are dropped, and else within some parts of 10^18. -/
structure Scaled (digits factors : Nat) (parts : ℚ) (raw : Int) (value : Nat) : Prop where
  within : Within (10 ^ 18) parts raw (value * 10 ^ 18 / 10 ^ (digits * factors))
  exact : digits = 6 → raw * 10 ^ (6 * factors) = value * 10 ^ 18
  large : digits ≠ 6 → 10 ^ (digits * factors) ≤ value

namespace Scaled

variable {digits factors more : Nat} {parts others : ℚ} {raw other : Int} {value amount : Nat}

/-- The exact value of a scaled decimal is not negative. -/
theorem exact_nonneg (value digits : Nat) : (0 : ℚ) ≤ value * 10 ^ 18 / 10 ^ digits := by
  positivity

/-- A value scaled down is not negative. -/
theorem raw_nonneg (few : parts ≤ 10 ^ 18) (scaled : Scaled digits factors parts raw value) :
    0 ≤ raw := by
  have nonnegative := scaled.within.nonneg (by norm_num) few (exact_nonneg _ _)
  exact_mod_cast nonnegative

/-- An input scaled down by the code. -/
theorem reduced {dec result : Dec} (spares : digits = 6 ∨ 10 ^ digits ≤ value)
    (raw : dec.raw = value * Dec.precision) (reduced : reducePrecision dec digits = .ok result) :
    Scaled digits 1 1 result.raw value := by
  have computed := reducePrecision_ok raw reduced
  have exact : digits = 6 → result.raw * 10 ^ (6 * 1) = value * 10 ^ 18 := by
    rintro rfl
    exact_mod_cast (reduced_exact_iff raw reduced).mpr (Dvd.intro_left (value * 10 ^ 12) (by ring))
  refine ⟨?_, exact, fun other => ?_⟩
  · rw [mul_one]
    rcases spares with rfl | large
    · apply Within.of_eq (exact_nonneg _ _) (by norm_num)
      have same : (result.raw : ℚ) * 10 ^ 6 = value * 10 ^ 18 := by exact_mod_cast exact rfl
      rw [← same, mul_div_cancel_right₀]
      norm_num
    · have positive : (0 : ℚ) < 10 ^ digits := by positivity
      have enough : (10 : ℚ) ^ 18 ≤ value * 10 ^ 18 / 10 ^ digits := by
        rw [le_div_iff₀ positive, mul_comm]
        exact mul_le_mul_of_nonneg_right (by exact_mod_cast large) (by norm_num)
      -- The truncated quotient at 36 decimals, before it is rounded at 18.
      have truncated : ((value * 10 ^ 36 / 10 ^ digits : Nat) : ℚ) ≤
          value * 10 ^ 18 / 10 ^ digits * 10 ^ 18 := by
        have floor := @Nat.cast_div_le ℚ _ _ _ (value * 10 ^ 36) (10 ^ digits)
        push_cast at floor
        calc _ ≤ (value : ℚ) * 10 ^ 36 / 10 ^ digits := by exact_mod_cast floor
          _ = _ := by ring
      have remains : (value : ℚ) * 10 ^ 18 / 10 ^ digits * 10 ^ 18 ≤
          ((value * 10 ^ 36 / 10 ^ digits : Nat) : ℚ) + 1 := by
        have ceiling := (Nat.lt_div_mul_add (b := 10 ^ digits) (a := value * 10 ^ 36)
          (by positivity)).le
        rw [← Nat.succ_mul] at ceiling
        have cast : (value : ℚ) * 10 ^ 36 ≤
            (((value * 10 ^ 36 / 10 ^ digits : Nat) : ℚ) + 1) * 10 ^ digits := by
          exact_mod_cast ceiling
        calc (value : ℚ) * 10 ^ 18 / 10 ^ digits * 10 ^ 18
            = value * 10 ^ 36 / 10 ^ digits := by ring
          _ ≤ _ := by rwa [div_le_iff₀ positive]
      have above := @chop_le ((value * 10 ^ 36 / 10 ^ digits : Nat) : Int) Dec.precision
        Dec.precision_pos
      have below := @le_chop ((value * 10 ^ 36 / 10 ^ digits : Nat) : Int) Dec.precision
        Dec.precision_pos
      rw [← computed, Dec.precision_rat, Int.cast_natCast] at above below
      have start : Within ((10 : ℚ) ^ 18) 0 (value * 10 ^ 18 / 10 ^ digits)
          (value * 10 ^ 18 / 10 ^ digits) := Within.of_eq (exact_nonneg _ _) le_rfl rfl
      have rounded := start.rounded enough (by norm_num)
        (show _ - 1 ≤ (result.raw : ℚ) by linarith) (by linarith)
      rwa [zero_add] at rounded
  · rw [mul_one]
    exact spares.resolve_left other

/-- The sum of two values scaled down is close to the exact sum. -/
theorem add (first : Scaled digits factors parts raw value)
    (second : Scaled digits factors parts other amount) :
    Scaled digits factors parts (raw + other) (value + amount) := by
  refine ⟨?_, fun six => ?_, fun other => (first.large other).trans (Nat.le_add_right _ _)⟩
  · have sum := first.within.add second.within
    push_cast
    rw [add_mul, add_div]
    exact sum
  · rw [Nat.cast_add, add_mul, add_mul, first.exact six, second.exact six]

/-- A product of up to three inputs. -/
theorem mul {left right result : Dec} (first : Scaled digits factors parts left.raw value)
    (second : Scaled digits more others right.raw amount) (three : factors + more ≤ 3)
    (few : 0 ≤ parts ∧ parts ≤ 10) (fewOthers : 0 ≤ others ∧ others ≤ 10)
    (product : left.mul right = .ok result) :
    Scaled digits (factors + more) (parts + others + 2) result.raw (value * amount) := by
  have exact : digits = 6 →
      result.raw * 10 ^ (6 * (factors + more)) = (value * amount : Nat) * 10 ^ 18 := by
    intro six
    have split : (10 : Int) ^ 18 = 10 ^ (18 - 6 * (factors + more)) * 10 ^ (6 * (factors + more)) := by
      rw [← pow_add]
      congr 1
      omega
    have whole : left.raw * right.raw =
        value * amount * 10 ^ (18 - 6 * (factors + more)) * Dec.precision := by
      have leftExact := first.exact six
      have rightExact := second.exact six
      have joint : left.raw * right.raw * 10 ^ (6 * (factors + more)) =
          value * amount * 10 ^ (18 - 6 * (factors + more)) * Dec.precision *
            10 ^ (6 * (factors + more)) := by
        calc left.raw * right.raw * 10 ^ (6 * (factors + more))
            = (left.raw * 10 ^ (6 * factors)) * (right.raw * 10 ^ (6 * more)) := by
              rw [Nat.mul_add, pow_add]; ring
          _ = value * amount * 10 ^ 18 * 10 ^ 18 := by rw [leftExact, rightExact]; ring
          _ = value * amount * (10 ^ (18 - 6 * (factors + more)) * 10 ^ (6 * (factors + more))) *
              10 ^ 18 := by rw [← split]
          _ = _ := by rw [Dec.precision_cast]; ring
      exact Int.eq_of_mul_eq_mul_right (by positivity) joint
    have value := Dec.checked_ok product
    rw [whole, chop_mul _ Dec.precision_pos] at value
    rw [value, split]
    push_cast
    ring
  have large : digits ≠ 6 → 10 ^ (digits * (factors + more)) ≤ value * amount := by
    intro other
    rw [Nat.mul_add, pow_add]
    exact Nat.mul_le_mul (first.large other) (second.large other)
  refine ⟨?_, exact, large⟩
  by_cases six : digits = 6
  · apply Within.of_eq (exact_nonneg _ _) (by linarith [few.1, fewOthers.1])
    have same : (result.raw : ℚ) * 10 ^ (6 * (factors + more)) = (value * amount : Nat) * 10 ^ 18 := by
      exact_mod_cast exact six
    rw [six, ← same, mul_div_cancel_right₀]
    positivity
  · have spread : ((value : ℚ) * 10 ^ 18 / 10 ^ (digits * factors)) *
        (amount * 10 ^ 18 / 10 ^ (digits * more)) =
        ((value * amount : Nat) : ℚ) * 10 ^ 18 / 10 ^ (digits * (factors + more)) * 10 ^ 18 := by
      rw [Nat.mul_add, pow_add]
      push_cast
      field_simp
    have joint := Within.mul (by norm_num) (by linarith [few.2]) (by linarith [fewOthers.2]) few.1
      fewOthers.1 (by nlinarith [few.1, few.2, fewOthers.1, fewOthers.2])
      (exact_nonneg _ _) (exact_nonneg _ _) first.within second.within
    rw [spread] at joint
    have divided : Within ((10 : ℚ) ^ 18) (parts + others + 1)
        (left.raw * right.raw / 10 ^ 18)
        ((value * amount : Nat) * 10 ^ 18 / 10 ^ (digits * (factors + more))) := by
      have low := joint.low
      have high := joint.high
      constructor <;> nlinarith
    have enough : (10 : ℚ) ^ 18 ≤
        (value * amount : Nat) * 10 ^ 18 / 10 ^ (digits * (factors + more)) := by
      rw [le_div_iff₀ (by positivity), mul_comm]
      exact mul_le_mul_of_nonneg_right (by exact_mod_cast large six) (by norm_num)
    have below := Dec.le_mul product
    have above := Dec.mul_le product
    have rounded := divided.rounded enough (by norm_num)
      (show _ - 1 ≤ (result.raw : ℚ) by linarith) (by linarith)
    have sum : parts + others + 1 + 1 = parts + others + 2 := by ring
    rwa [sum] at rounded

end Scaled

section Quotients

variable {unit num den q n d slack : ℚ}

/-- A rounded quotient of a product of three inputs by a product of two. -/
theorem quotient_low (positive : 0 < unit) (denominator : 0 < d) (nonneg : 0 ≤ n) (computed : 0 < den)
    (numWithin : Within (10 ^ 18) 7 num (n * 10 ^ 18 / unit ^ 3))
    (denWithin : Within (10 ^ 18) 4 den (d * 10 ^ 18 / unit ^ 2))
    (quotient : num * 10 ^ 18 / den - slack ≤ q) :
    n / d * (10 ^ 18 - 11) / unit - slack ≤ q := by
  have low := numWithin.low
  have high := denWithin.high
  have target : n / d * (10 ^ 18 - 11) / unit * den ≤ num * 10 ^ 18 := by
    have ratio : 0 ≤ n / d * (10 ^ 18 - 11) / unit := by
      have part : 0 ≤ n / d := div_nonneg nonneg denominator.le
      exact div_nonneg (mul_nonneg part (by norm_num)) positive.le
    have scaled := mul_le_mul_of_nonneg_left high ratio
    have cancel : n / d * (10 ^ 18 - 11) / unit * (d * 10 ^ 18 / unit ^ 2 * (10 ^ 18 + 4)) =
        n / unit ^ 3 * ((10 ^ 18 - 11) * (10 ^ 18 + 4) * 10 ^ 18) := by
      field_simp
    have split : n * 10 ^ 18 / unit ^ 3 * (10 ^ 18 - 7) =
        n / unit ^ 3 * (10 ^ 18 * (10 ^ 18 - 7)) := by ring
    have part : 0 ≤ n / unit ^ 3 := div_nonneg nonneg (by positivity)
    rw [cancel] at scaled
    rw [split] at low
    nlinarith
  have divided := (le_div_iff₀ computed).mpr target
  linarith

/-- The quotient of an approximate numerator and denominator is at most twelve parts too high. -/
theorem quotient_high (positive : 0 < unit) (denominator : 0 < d) (nonneg : 0 ≤ n)
    (computed : 0 < den) (numWithin : Within (10 ^ 18) 7 num (n * 10 ^ 18 / unit ^ 3))
    (denWithin : Within (10 ^ 18) 4 den (d * 10 ^ 18 / unit ^ 2))
    (quotient : q ≤ num * 10 ^ 18 / den + slack) :
    q ≤ n / d * (10 ^ 18 + 12) / unit + slack := by
  have high := numWithin.high
  have low := denWithin.low
  have target : num * 10 ^ 18 ≤ n / d * (10 ^ 18 + 12) / unit * den := by
    have ratio : 0 ≤ n / d * (10 ^ 18 + 12) / unit := by
      have part : 0 ≤ n / d := div_nonneg nonneg denominator.le
      exact div_nonneg (mul_nonneg part (by norm_num)) positive.le
    have scaled := mul_le_mul_of_nonneg_left low ratio
    have cancel : n / d * (10 ^ 18 + 12) / unit * (d * 10 ^ 18 / unit ^ 2 * (10 ^ 18 - 4)) =
        n / unit ^ 3 * ((10 ^ 18 + 12) * (10 ^ 18 - 4) * 10 ^ 18) := by
      field_simp
    have split : n * 10 ^ 18 / unit ^ 3 * (10 ^ 18 + 7) =
        n / unit ^ 3 * (10 ^ 18 * (10 ^ 18 + 7)) := by ring
    have part : 0 ≤ n / unit ^ 3 := div_nonneg nonneg (by positivity)
    rw [cancel] at scaled
    rw [split] at high
    nlinarith
  have divided := (div_le_iff₀ computed).mpr target
  linarith

end Quotients

end Akhira.Verif.Clp
