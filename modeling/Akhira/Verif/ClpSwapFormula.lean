import Akhira.Verif.ClpScaled

/-!
# The swap formulas as computed

The result and the fee of a swap are quotients of a product of three scaled-down inputs by the square
of a sum. The quotient is off by a few parts of 10^18 and half a step of the reduced precision, and
the amount paid by half a unit more. Inputs of at most 26 digits never overflow.
-/
namespace Akhira.Verif.Clp

open Akhira.Base Akhira.Sdk Akhira.Clp

/-- The documented result, x X Y / (x + X)². -/
def swapValue (inputs : SwapInputs) : ℚ :=
  inputs.amountIn.val * inputs.reserveIn.val * inputs.reserveOut.val /
    (inputs.amountIn.val + inputs.reserveIn.val) ^ 2

/-- The documented fee, x² Y / (x + X)². -/
def feeValue (inputs : SwapInputs) : ℚ :=
  inputs.amountIn.val * inputs.amountIn.val * inputs.reserveOut.val /
    (inputs.amountIn.val + inputs.reserveIn.val) ^ 2

/-- An amount times a scale is an exact value up to twelve parts of 10^18 and the halves of a step of
the reduced precision and of a unit. -/
def Close (digits : Nat) (scale exact : ℚ) (amount : Uint) : Prop :=
  |amount.val * scale - exact| ≤
    12 / 10 ^ 18 * exact + (1 / 2 + 1 / 10 ^ 18) * (10 ^ digits / 10 ^ 18 + scale)

section Quotient

variable {digits num den : Nat} {n d y : Dec}

/-- The formula on inputs scaled down is close to the exact quotient. -/
theorem formula_close (numScaled : Scaled digits 3 7 n.raw num)
    (denScaled : Scaled digits 2 4 d.raw den) (some : 0 < den) (quotient : n.quo d = .ok y) :
    0 ≤ y.raw ∧ |(y.raw : ℚ) * 10 ^ digits / 10 ^ 18 - (num : ℚ) / den| ≤
      12 / 10 ^ 18 * ((num : ℚ) / den) + (1 / 2 + 1 / 10 ^ 18) * (10 ^ digits / 10 ^ 18) := by
  have numNonneg := numScaled.raw_nonneg (by norm_num)
  have denNonneg := denScaled.raw_nonneg (by norm_num)
  have positive : (0 : ℚ) < den := by exact_mod_cast some
  have unit : (0 : ℚ) < 10 ^ digits := by positivity
  have denPositive : (0 : ℚ) < d.raw := by
    exact_mod_cast lt_of_le_of_ne denNonneg (Ne.symm (Dec.quo_ok quotient).1)
  have numWithin := numScaled.within
  have denWithin := denScaled.within
  rw [pow_mul] at numWithin denWithin
  have low := quotient_low unit positive (Nat.cast_nonneg num) denPositive numWithin denWithin
    (Dec.le_quo_sharp quotient numNonneg denNonneg)
  have high := quotient_high unit positive (Nat.cast_nonneg num) denPositive numWithin denWithin
    (Dec.quo_le quotient numNonneg denNonneg)
  have value : (0 : ℚ) ≤ num / den := by positivity
  have lowScaled := mul_le_mul_of_nonneg_right low unit.le
  have highScaled := mul_le_mul_of_nonneg_right high unit.le
  rw [sub_mul, div_mul_cancel₀ _ unit.ne'] at lowScaled
  rw [add_mul, div_mul_cancel₀ _ unit.ne'] at highScaled
  refine ⟨Dec.quo_nonneg quotient numNonneg denNonneg, ?_⟩
  rw [abs_le]
  constructor
  · linarith
  · linarith

end Quotient

section Finish

variable {y factor : Dec} {digits power : Nat} {toRowan : Bool} {amount : Uint}

/-- What the amount paid is multiplied by to undo the last division. -/
def unscale (toRowan : Bool) (power : Nat) : ℚ := if toRowan then 1 else 10 ^ power

/-- The scale that is taken out of a result is at least one. -/
theorem one_le_unscale (toRowan : Bool) (power : Nat) : 1 ≤ unscale toRowan power := by
  unfold unscale
  split
  · exact le_rfl
  · exact one_le_pow₀ (by norm_num)

/-- Scaling a result up again and rounding it costs half a unit. -/
theorem finishSwap_close (nonneg : 0 ≤ y.raw) (factored : factor.raw = 10 ^ power * Dec.precision)
    (finished : finishSwap y digits toRowan factor = .ok amount) :
    |(amount.val : ℚ) * unscale toRowan power - y.raw * 10 ^ digits / 10 ^ 18| ≤
      (1 / 2 + 1 / 10 ^ 18) * unscale toRowan power := by
  simp only [finishSwap, Result.bind_ok] at finished
  obtain ⟨increased, scaled, divided, quotient, rounded⟩ := finished
  have whole := increasePrecision_ok scaled
  have wholeNonneg : 0 ≤ increased.raw := by
    rw [whole]
    positivity
  have wholeCast : (increased.raw : ℚ) = y.raw * 10 ^ digits := by exact_mod_cast whole
  have nearest := Dec.roundUint_ok rounded
  have above := @chop_le divided.raw Dec.precision Dec.precision_pos
  have below := @le_chop divided.raw Dec.precision Dec.precision_pos
  rw [← nearest, Dec.precision_rat, Int.cast_natCast] at above below
  unfold unscale
  cases toRowan with
  | true =>
    cases quotient
    rw [wholeCast] at above below
    rw [if_pos rfl, mul_one, abs_le]
    constructor <;> linarith
  | false =>
    rw [if_neg Bool.false_ne_true] at quotient ⊢
    have factorCast : (factor.raw : ℚ) = 10 ^ power * 10 ^ 18 := by
      rw [factored, Dec.precision_cast]
      push_cast
      ring
    have unit : (0 : ℚ) < 10 ^ power := by positivity
    have factorNonneg : 0 ≤ factor.raw := by
      rw [factored]
      positivity
    have low := Dec.le_quo_sharp quotient wholeNonneg factorNonneg
    have high := Dec.quo_le quotient wholeNonneg factorNonneg
    have cancel : (increased.raw : ℚ) * 10 ^ 18 / factor.raw = y.raw * 10 ^ digits / 10 ^ power := by
      rw [factorCast, wholeCast]
      field_simp
    rw [cancel] at low high
    have lowScaled := mul_le_mul_of_nonneg_right below unit.le
    have highScaled := mul_le_mul_of_nonneg_right above unit.le
    have dividedLow := mul_le_mul_of_nonneg_right low unit.le
    have dividedHigh := mul_le_mul_of_nonneg_right high unit.le
    rw [sub_mul, div_mul_cancel₀ _ unit.ne'] at dividedLow
    rw [add_mul, div_mul_cancel₀ _ unit.ne'] at dividedHigh
    rw [abs_le]
    constructor <;> linarith

end Finish

section Formulas

variable {inputs scaled : SwapInputs} {factor : Dec} {power : Nat} {toRowan adjust : Bool}
  {amount : Uint}

/-- What the asset sold is multiplied by to bring both to one number of decimals. -/
def soldScale (toRowan adjust : Bool) (power : Nat) : Nat :=
  if adjust = toRowan then 10 ^ power else 1

/-- What the asset bought is multiplied by. -/
def boughtScale (toRowan adjust : Bool) (power : Nat) : Nat :=
  if adjust = toRowan then 1 else 10 ^ power

/-- The scale of the sold side is positive. -/
theorem soldScale_pos (toRowan adjust : Bool) (power : Nat) : 0 < soldScale toRowan adjust power := by
  unfold soldScale
  split <;> positivity

/-- The scale of the bought side is positive. -/
theorem boughtScale_pos (toRowan adjust : Bool) (power : Nat) :
    0 < boughtScale toRowan adjust power := by
  unfold boughtScale
  split <;> positivity

/-- The normalisation factor as an integer. -/
theorem factor_ok {nf : Uint} (factored : factor.raw = 10 ^ power * Dec.precision)
    (rounded : factor.roundUint = .ok nf) : nf.val = 10 ^ power := by
  have value := Dec.roundUint_ok rounded
  rw [factored, chop_mul _ Dec.precision_pos] at value
  exact_mod_cast value

/-- The scaling multiplies each side of the swap by its scale. -/
theorem swapInputs_normalized (factored : factor.raw = 10 ^ power * Dec.precision)
    (normalized : inputs.normalize toRowan adjust factor = .ok scaled) :
    scaled.reserveIn.val = inputs.reserveIn.val * soldScale toRowan adjust power ∧
      scaled.amountIn.val = inputs.amountIn.val * soldScale toRowan adjust power ∧
      scaled.reserveOut.val = inputs.reserveOut.val * boughtScale toRowan adjust power := by
  simp only [SwapInputs.normalize, Result.bind_ok] at normalized
  obtain ⟨nf, rounded, normalized⟩ := normalized
  have value := factor_ok factored rounded
  unfold soldScale boughtScale
  split at normalized
  · rename_i same
    simp only [Result.bind_ok, Uint.mul_ok, Result.pure_ok] at normalized
    obtain ⟨reserveIn, reserve, amountIn, sold, rfl⟩ := normalized
    rw [value] at reserve sold
    rw [if_pos same, if_pos same, mul_one]
    exact ⟨reserve, sold, rfl⟩
  · rename_i different
    simp only [Result.bind_ok, Uint.mul_ok, Result.pure_ok] at normalized
    obtain ⟨reserveOut, bought, rfl⟩ := normalized
    rw [value] at bought
    rw [if_neg different, if_neg different, mul_one, mul_one]
    exact ⟨rfl, rfl, bought⟩

/-- The scaled-down inputs of a formula. -/
structure Reduced (inputs : SwapInputs) (reserveIn amountIn reserveOut : Dec) : Prop where
  reserveIn : Scaled (getMinLen inputs.values) 1 1 reserveIn.raw inputs.reserveIn.val
  amountIn : Scaled (getMinLen inputs.values) 1 1 amountIn.raw inputs.amountIn.val
  reserveOut : Scaled (getMinLen inputs.values) 1 1 reserveOut.raw inputs.reserveOut.val

/-- The inputs of the formula are the amounts scaled down. -/
theorem reduced_ok {reserveIn amountIn reserveOut : Dec}
    (first : reducePrecision (Dec.ofInt inputs.reserveIn.val) (getMinLen inputs.values) =
      .ok reserveIn)
    (second : reducePrecision (Dec.ofInt inputs.amountIn.val) (getMinLen inputs.values) =
      .ok amountIn)
    (third : reducePrecision (Dec.ofInt inputs.reserveOut.val) (getMinLen inputs.values) =
      .ok reserveOut) : Reduced inputs reserveIn amountIn reserveOut := by
  have spares := getMinLen_spares inputs.values
  have spare : ∀ value ∈ inputs.values, getMinLen inputs.values = 6 ∨
      10 ^ getMinLen inputs.values ≤ value.val :=
    fun value listed => spares.imp_right fun large => large value listed
  exact ⟨.reduced (spare _ (by simp [SwapInputs.values])) rfl first,
    .reduced (spare _ (by simp [SwapInputs.values])) rfl second,
    .reduced (spare _ (by simp [SwapInputs.values])) rfl third⟩

namespace Reduced

variable {reserveIn amountIn reserveOut other product s n d : Dec} {value : Nat}

/-- The denominator. -/
theorem denominator (reduced : Reduced inputs reserveIn amountIn reserveOut)
    (sum : amountIn.add reserveIn = .ok s) (squared : s.mul s = .ok d) :
    Scaled (getMinLen inputs.values) 2 4 d.raw
      ((inputs.amountIn.val + inputs.reserveIn.val) * (inputs.amountIn.val + inputs.reserveIn.val)) := by
  have total := reduced.amountIn.add reduced.reserveIn
  rw [← Dec.checked_ok sum] at total
  have few : (0 : ℚ) ≤ 1 ∧ (1 : ℚ) ≤ 10 := by norm_num
  have result := total.mul total (by decide) few few squared
  have parts : (1 : ℚ) + 1 + 2 = 4 := by norm_num
  rwa [parts] at result

/-- The product of the amount sold with another input. -/
theorem twofold (reduced : Reduced inputs reserveIn amountIn reserveOut)
    (scaled : Scaled (getMinLen inputs.values) 1 1 other.raw value)
    (first : amountIn.mul other = .ok product) :
    Scaled (getMinLen inputs.values) 2 4 product.raw (inputs.amountIn.val * value) := by
  have few : (0 : ℚ) ≤ 1 ∧ (1 : ℚ) ≤ 10 := by norm_num
  have result := reduced.amountIn.mul scaled (by decide) few few first
  have parts : (1 : ℚ) + 1 + 2 = 4 := by norm_num
  rwa [parts] at result

/-- The numerator. -/
theorem numerator (reduced : Reduced inputs reserveIn amountIn reserveOut)
    (scaled : Scaled (getMinLen inputs.values) 1 1 other.raw value)
    (first : amountIn.mul other = .ok product) (second : product.mul reserveOut = .ok n) :
    Scaled (getMinLen inputs.values) 3 7 n.raw
      (inputs.amountIn.val * value * inputs.reserveOut.val) := by
  have few : (0 : ℚ) ≤ 1 ∧ (1 : ℚ) ≤ 10 := by norm_num
  have fewFour : (0 : ℚ) ≤ 4 ∧ (4 : ℚ) ≤ 10 := by norm_num
  have result := (reduced.twofold scaled first).mul reduced.reserveOut (by decide) fewFour few second
  have parts : (4 : ℚ) + 1 + 2 = 7 := by norm_num
  rwa [parts] at result

end Reduced

/-- No input is zero. -/
structure Filled (inputs : SwapInputs) : Prop where
  reserveIn : 0 < inputs.reserveIn.val
  amountIn : 0 < inputs.amountIn.val
  reserveOut : 0 < inputs.reserveOut.val

/-- Positive inputs pass the check for zero. -/
theorem Filled.validateZero (filled : Filled inputs) : validateZero inputs.values = true := by
  simp [Akhira.Clp.validateZero, SwapInputs.values, Uint.isZero, filled.reserveIn.ne',
    filled.amountIn.ne', filled.reserveOut.ne']

/-- Positive inputs stay positive when they are scaled. -/
theorem Filled.normalize (filled : Filled inputs)
    (factored : factor.raw = 10 ^ power * Dec.precision)
    (normalized : inputs.normalize toRowan adjust factor = .ok scaled) : Filled scaled := by
  obtain ⟨reserveIn, amountIn, reserveOut⟩ := swapInputs_normalized factored normalized
  constructor
  · rw [reserveIn]
    exact Nat.mul_pos filled.reserveIn (soldScale_pos _ _ _)
  · rw [amountIn]
    exact Nat.mul_pos filled.amountIn (soldScale_pos _ _ _)
  · rw [reserveOut]
    exact Nat.mul_pos filled.reserveOut (boughtScale_pos _ _ _)

/-- The denominator of the formula is positive. -/
theorem Filled.sum_pos (filled : Filled inputs) : 0 <
    (inputs.amountIn.val + inputs.reserveIn.val) * (inputs.amountIn.val + inputs.reserveIn.val) := by
  have sum : 0 < inputs.amountIn.val + inputs.reserveIn.val := Nat.add_pos_left filled.amountIn _
  exact Nat.mul_pos sum sum

/-- The amount that a quotient of the scaled-down inputs ends in. -/
theorem formula_finish {reserveIn amountIn reserveOut other product s n d y : Dec} {value : Nat}
    (filled : Filled inputs) (factored : factor.raw = 10 ^ power * Dec.precision)
    (reduced : Reduced inputs reserveIn amountIn reserveOut)
    (scaled : Scaled (getMinLen inputs.values) 1 1 other.raw value)
    (sum : amountIn.add reserveIn = .ok s) (squared : s.mul s = .ok d)
    (first : amountIn.mul other = .ok product) (second : product.mul reserveOut = .ok n)
    (quotient : n.quo d = .ok y)
    (finished : finishSwap y (getMinLen inputs.values) toRowan factor = .ok amount) :
    Close (getMinLen inputs.values) (unscale toRowan power)
      (inputs.amountIn.val * value * inputs.reserveOut.val /
        (inputs.amountIn.val + inputs.reserveIn.val) ^ 2) amount := by
  obtain ⟨nonneg, close⟩ := formula_close (reduced.numerator scaled first second)
    (reduced.denominator sum squared) filled.sum_pos quotient
  have last := finishSwap_close nonneg factored finished
  push_cast at close
  rw [← pow_two] at close
  unfold Close
  rw [abs_le] at close last ⊢
  constructor <;> linarith [close.1, close.2, last.1, last.2]

/-- The computed result of a swap is close to the documented one. -/
theorem calcSwapResult_close (filled : Filled inputs)
    (factored : factor.raw = 10 ^ power * Dec.precision)
    (computed : calcSwapResult toRowan factor adjust inputs = .ok amount) :
    ∃ scaled, inputs.normalize toRowan adjust factor = .ok scaled ∧
      Close (getMinLen scaled.values) (unscale toRowan power) (swapValue scaled) amount := by
  unfold calcSwapResult at computed
  rw [if_neg (by rw [filled.validateZero]; decide)] at computed
  simp only [Result.bind_ok] at computed
  obtain ⟨scaled, normalized, reserveIn, first, amountIn, second, reserveOut, third, s, sum, d,
    squared, product, multiplied, n, numerator, y, quotient, finished⟩ := computed
  have reduced := reduced_ok first second third
  exact ⟨scaled, normalized, formula_finish (filled.normalize factored normalized) factored reduced
    reduced.reserveIn sum squared multiplied numerator quotient finished⟩

/-- The computed fee of a swap is close to the documented one. -/
theorem calcLiquidityFee_close (filled : Filled inputs)
    (factored : factor.raw = 10 ^ power * Dec.precision)
    (computed : calcLiquidityFee toRowan factor adjust inputs = .ok amount) :
    ∃ scaled, inputs.normalize toRowan adjust factor = .ok scaled ∧
      Close (getMinLen scaled.values) (unscale toRowan power) (feeValue scaled) amount := by
  have some : (inputs.reserveIn.isZero && inputs.amountIn.isZero) = false := by
    simp [Uint.isZero, filled.reserveIn.ne']
  unfold calcLiquidityFee at computed
  rw [some, if_neg Bool.false_ne_true, if_neg (by rw [filled.validateZero]; decide)] at computed
  simp only [Result.bind_ok] at computed
  obtain ⟨scaled, normalized, reserveIn, first, amountIn, second, reserveOut, third, square,
    multiplied, n, numerator, s, sum, d, squared, y, quotient, finished⟩ := computed
  have reduced := reduced_ok first second third
  exact ⟨scaled, normalized, formula_finish (filled.normalize factored normalized) factored reduced
    reduced.amountIn sum squared multiplied numerator quotient finished⟩

end Formulas

section Totals

variable {inputs scaled : SwapInputs} {factor : Dec} {power : Nat} {toRowan adjust : Bool}

/-- At least six digits are scaled down. -/
theorem six_le_getMinLen (inputs : List Uint) : 6 ≤ getMinLen inputs := by
  unfold getMinLen
  dsimp only
  split
  · exact le_rfl
  · split
    · split
      · exact le_rfl
      · omega
    · omega

/-- Inputs of at most 26 digits. -/
def Short (inputs : SwapInputs) : Prop := ∀ value ∈ inputs.values, value.val < 10 ^ 26

/-- Short inputs are scaled down by at most 25 digits. -/
theorem Short.getMinLen_le (short : Short inputs) : getMinLen inputs.values ≤ 25 := by
  rcases getMinLen_spares inputs.values with six | large
  · omega
  · have listed : inputs.reserveIn ∈ inputs.values := by simp [SwapInputs.values]
    have bound := (large _ listed).trans_lt (short _ listed)
    exact Nat.le_of_lt_succ ((Nat.pow_lt_pow_iff_right (by decide)).mp bound)

/-- Values of at most 31 digits. -/
def Sized (values : List Uint) : Prop := ∀ value ∈ values, value.val < 10 ^ 31

/-- Short inputs are sized. -/
theorem Short.sized (short : Short inputs) : Sized inputs.values :=
  fun value listed => (short value listed).trans (by norm_num)

/-- Sized values are scaled down by at most 30 digits. -/
theorem Sized.getMinLen_le {values : List Uint} (sized : Sized values) {value : Uint}
    (listed : value ∈ values) : getMinLen values ≤ 30 := by
  rcases getMinLen_spares values with six | large
  · omega
  · have bound := (large _ listed).trans_lt (sized _ listed)
    exact Nat.le_of_lt_succ ((Nat.pow_lt_pow_iff_right (by decide)).mp bound)

/-- A decimal that stands for a product of sized inputs is small. -/
theorem Scaled.raw_le {digits factors : Nat} {parts : ℚ} {raw : Int} {value : Nat}
    (scaled : Scaled digits factors parts raw value) (six : 6 ≤ digits) (few : parts ≤ 10 ^ 18)
    (small : value ≤ 10 ^ (31 * factors)) : raw ≤ 2 * 10 ^ (25 * factors + 18) := by
  have high := scaled.within.high
  have exact : (value : ℚ) * 10 ^ 18 / 10 ^ (digits * factors) ≤ 10 ^ (25 * factors + 18) := by
    rw [div_le_iff₀ (by positivity), pow_add]
    have digitsBound : (10 : ℚ) ^ (6 * factors) ≤ 10 ^ (digits * factors) :=
      pow_le_pow_right₀ (by norm_num) (Nat.mul_le_mul_right _ six)
    have valueBound : (value : ℚ) ≤ 10 ^ (31 * factors) := by exact_mod_cast small
    have split : (10 : ℚ) ^ (31 * factors) = 10 ^ (25 * factors) * 10 ^ (6 * factors) := by
      rw [← pow_add]
      congr 1
      omega
    rw [split] at valueBound
    calc (value : ℚ) * 10 ^ 18 ≤ 10 ^ (25 * factors) * 10 ^ (6 * factors) * 10 ^ 18 :=
          mul_le_mul_of_nonneg_right valueBound (by norm_num)
      _ ≤ 10 ^ (25 * factors) * 10 ^ (digits * factors) * 10 ^ 18 := by gcongr
      _ = 10 ^ (25 * factors) * 10 ^ 18 * 10 ^ (digits * factors) := by ring
  have nonneg := Scaled.exact_nonneg value (digits * factors)
  have bound : (raw : ℚ) ≤ 2 * 10 ^ (25 * factors + 18) := by
    refine le_of_mul_le_mul_right ?_ (by norm_num : (0 : ℚ) < 10 ^ 18)
    calc (raw : ℚ) * 10 ^ 18
        ≤ value * 10 ^ 18 / 10 ^ (digits * factors) * (10 ^ 18 + parts) := high
      _ ≤ value * 10 ^ 18 / 10 ^ (digits * factors) * (2 * 10 ^ 18) :=
          mul_le_mul_of_nonneg_left (by linarith) nonneg
      _ ≤ 10 ^ (25 * factors + 18) * (2 * 10 ^ 18) :=
          mul_le_mul_of_nonneg_right exact (by norm_num)
      _ = 2 * 10 ^ (25 * factors + 18) * 10 ^ 18 := by ring
  exact_mod_cast bound

/-- A decimal that stands for a product of two inputs is not too small. -/
theorem Scaled.raw_low {digits value : Nat} {raw : Int} (scaled : Scaled digits 2 4 raw value)
    (some : 0 < value) : 10 ^ 5 ≤ raw := by
  have exact : (10 : ℚ) ^ 6 ≤ value * 10 ^ 18 / 10 ^ (digits * 2) := by
    rw [le_div_iff₀ (by positivity)]
    by_cases six : digits = 6
    · have one : (1 : ℚ) ≤ value := by exact_mod_cast some
      rw [six]
      norm_num
      linarith
    · have large : (10 : ℚ) ^ (digits * 2) ≤ value := by exact_mod_cast scaled.large six
      linarith
  have low := scaled.within.low
  have bound : (10 : ℚ) ^ 5 ≤ raw := by linarith
  exact_mod_cast bound

/-- A quotient of three scaled-down inputs by two is as large as the exact one, with room to
spare. -/
theorem quotient_fits {digits num den bound : Nat} {n d : Int} (numScaled : Scaled digits 3 7 n num)
    (denScaled : Scaled digits 2 4 d den) (within : num ≤ bound * den) :
    n * 10 ^ 18 * 10 ^ digits ≤ 2 * bound * 10 ^ 18 * d := by
  have high := numScaled.within.high
  have low := denScaled.within.low
  rw [pow_mul] at high low
  have unit : (0 : ℚ) < 10 ^ digits := by positivity
  have ratio : (0 : ℚ) ≤ bound := Nat.cast_nonneg _
  have exact : (num : ℚ) ≤ bound * den := by exact_mod_cast within
  have lifted : (n : ℚ) * 10 ^ 18 * 10 ^ digits ≤
      bound * (den * 10 ^ 18 / (10 ^ digits) ^ 2) * (10 ^ 18 + 7) := by
    have scaled := mul_le_mul_of_nonneg_right high unit.le
    have cancel : (num : ℚ) * 10 ^ 18 / (10 ^ digits) ^ 3 * (10 ^ 18 + 7) * 10 ^ digits =
        num * (10 ^ 18 / (10 ^ digits) ^ 2 * (10 ^ 18 + 7)) := by
      field_simp
    rw [cancel] at scaled
    have grown := mul_le_mul_of_nonneg_right exact
      (show (0 : ℚ) ≤ 10 ^ 18 / (10 ^ digits) ^ 2 * (10 ^ 18 + 7) by positivity)
    calc (n : ℚ) * 10 ^ 18 * 10 ^ digits
        ≤ bound * den * (10 ^ 18 / (10 ^ digits) ^ 2 * (10 ^ 18 + 7)) := scaled.trans grown
      _ = bound * (den * 10 ^ 18 / (10 ^ digits) ^ 2) * (10 ^ 18 + 7) := by ring
  have part := Scaled.exact_nonneg den (digits * 2)
  rw [pow_mul] at part
  generalize (den : ℚ) * 10 ^ 18 / (10 ^ digits) ^ 2 = exactDen at *
  have half : exactDen * (10 ^ 18 + 7) ≤ 2 * 10 ^ 18 * d := by linarith
  have bounded := mul_le_mul_of_nonneg_left half ratio
  have result : (n : ℚ) * 10 ^ 18 * 10 ^ digits ≤ 2 * bound * 10 ^ 18 * d := by linarith
  exact_mod_cast result

/-- Such a quotient is computed, and stays small when the digits are put back. -/
theorem scaled_quo_total {digits num den bound : Nat} {n d : Dec}
    (numScaled : Scaled digits 3 7 n.raw num) (denScaled : Scaled digits 2 4 d.raw den)
    (some : 0 < den) (within : num ≤ bound * den) (small : bound ≤ 10 ^ 62) (few : digits ≤ 30) :
    ∃ y, n.quo d = .ok y ∧ 0 ≤ y.raw ∧ y.raw * 10 ^ digits ≤ 10 ^ 81 := by
  have fits := quotient_fits numScaled denScaled within
  have numNonneg := numScaled.raw_nonneg (by norm_num)
  have denLow := denScaled.raw_low some
  have unit : (1 : Int) ≤ 10 ^ digits := one_le_pow₀ (by decide)
  have unitHigh : (10 : Int) ^ digits ≤ 10 ^ 30 := pow_le_pow_right₀ (by decide) few
  have boundCast : (bound : Int) ≤ 10 ^ 62 := by exact_mod_cast small
  have large : 2 * bound * 10 ^ 18 * d.raw ≤ 2 * 10 ^ 80 * d.raw := by
    apply Int.mul_le_mul_of_nonneg_right _ (by omega)
    omega
  have numerator : n.raw * 10 ^ 18 ≤ n.raw * 10 ^ 18 * 10 ^ digits :=
    le_mul_of_one_le_right (by omega) unit
  obtain ⟨y, quotient⟩ := Dec.quo_total numNonneg (show 0 < d.raw by omega) (by omega)
  have nonneg := Dec.quo_nonneg quotient numNonneg (by omega)
  refine ⟨y, quotient, nonneg, ?_⟩
  have high := Dec.quo_le quotient numNonneg (by omega)
  have positive : (0 : ℚ) < d.raw := by
    have : 0 < d.raw := by omega
    exact_mod_cast this
  have whole : (n.raw : ℚ) * 10 ^ 18 / d.raw * 10 ^ digits ≤ 2 * 10 ^ 80 := by
    rw [div_mul_eq_mul_div, div_le_iff₀ positive]
    exact_mod_cast fits.trans large
  have scaled := mul_le_mul_of_nonneg_right high (show (0 : ℚ) ≤ 10 ^ digits by positivity)
  have unitCast : (10 : ℚ) ^ digits ≤ 10 ^ 30 := by exact_mod_cast unitHigh
  have result : (y.raw : ℚ) * 10 ^ digits ≤ 10 ^ 81 := by linarith
  exact_mod_cast result

/-- Scaling a sized value down succeeds. -/
theorem reducePrecision_total {value digits : Nat} (small : value < 10 ^ 31) (few : digits ≤ 30) :
    ∃ result, reducePrecision (Dec.ofInt value) digits = .ok result := by
  have power := @Dec.power_ten digits (by omega)
  have unit : (1 : Int) ≤ 10 ^ digits := one_le_pow₀ (by decide)
  obtain ⟨result, quotient⟩ := @Dec.quo_total (Dec.ofInt value) ⟨10 ^ digits * Dec.precision⟩
    (by change (0 : Int) ≤ value * Dec.precision; positivity)
    (by change (0 : Int) < 10 ^ digits * Dec.precision; rw [Dec.precision_cast]; positivity)
    (by
      change (value : Int) * Dec.precision * 10 ^ 18 < 10 ^ 93 * (10 ^ digits * Dec.precision)
      rw [Dec.precision_cast]
      omega)
  refine ⟨result, ?_⟩
  rw [reducePrecision, Result.bind_ok]
  exact ⟨_, power, quotient⟩

/-- A product of two parts of a sum is at most its square. -/
theorem formula_le {a b value c : Nat} (part : value = a ∨ value = b) :
    a * value * c ≤ c * ((a + b) * (a + b)) := by
  rw [mul_comm c]
  apply Nat.mul_le_mul_right
  rcases part with rfl | rfl
  · exact Nat.mul_le_mul (Nat.le_add_right _ _) (Nat.le_add_right _ _)
  · exact Nat.mul_le_mul (Nat.le_add_right _ _) (Nat.le_add_left _ _)

/-- The formula is computed on sized inputs. -/
theorem Reduced.formula_total {reserveIn amountIn reserveOut other : Dec} {value : Nat}
    (filled : Filled inputs) (sized : Sized inputs.values)
    (reduced : Reduced inputs reserveIn amountIn reserveOut)
    (scaled : Scaled (getMinLen inputs.values) 1 1 other.raw value)
    (part : value = inputs.amountIn.val ∨ value = inputs.reserveIn.val) :
    ∃ s d product n y, amountIn.add reserveIn = .ok s ∧ s.mul s = .ok d ∧
      amountIn.mul other = .ok product ∧ product.mul reserveOut = .ok n ∧ n.quo d = .ok y ∧
      0 ≤ y.raw ∧ y.raw * 10 ^ getMinLen inputs.values ≤ 10 ^ 81 := by
  have six := six_le_getMinLen inputs.values
  have one : (1 : ℚ) ≤ 10 ^ 18 := by norm_num
  have sizedIn := sized inputs.reserveIn (by simp [SwapInputs.values])
  have sizedAmount := sized inputs.amountIn (by simp [SwapInputs.values])
  have sizedOut := sized inputs.reserveOut (by simp [SwapInputs.values])
  have small : value < 10 ^ 31 := by
    rcases part with rfl | rfl
    · exact sizedAmount
    · exact sizedIn
  have inNonneg := reduced.reserveIn.raw_nonneg one
  have amountNonneg := reduced.amountIn.raw_nonneg one
  have outNonneg := reduced.reserveOut.raw_nonneg one
  have otherNonneg := scaled.raw_nonneg one
  have inLe : reserveIn.raw ≤ 2 * 10 ^ 43 := reduced.reserveIn.raw_le six one sizedIn.le
  have amountLe : amountIn.raw ≤ 2 * 10 ^ 43 := reduced.amountIn.raw_le six one sizedAmount.le
  have outLe : reserveOut.raw ≤ 2 * 10 ^ 43 := reduced.reserveOut.raw_le six one sizedOut.le
  have otherLe : other.raw ≤ 2 * 10 ^ 43 := scaled.raw_le six one small.le
  have sum := Dec.add_total amountNonneg inNonneg (by omega)
  have sumNonneg : 0 ≤ amountIn.raw + reserveIn.raw := by omega
  have sumLe : amountIn.raw + reserveIn.raw ≤ 4 * 10 ^ 43 := by omega
  obtain ⟨d, squared⟩ := @Dec.mul_total ⟨amountIn.raw + reserveIn.raw⟩ ⟨amountIn.raw + reserveIn.raw⟩
    sumNonneg sumNonneg
    ((mul_le_mul sumLe sumLe sumNonneg (by norm_num)).trans_lt (by norm_num))
  obtain ⟨product, first⟩ := Dec.mul_total amountNonneg otherNonneg
    ((mul_le_mul amountLe otherLe otherNonneg (by norm_num)).trans_lt (by norm_num))
  have productScaled := reduced.twofold scaled first
  have productLe : product.raw ≤ 2 * 10 ^ 68 := by
    refine productScaled.raw_le six (by norm_num) ?_
    calc inputs.amountIn.val * value ≤ 10 ^ 31 * 10 ^ 31 := Nat.mul_le_mul sizedAmount.le small.le
      _ = 10 ^ (31 * 2) := by norm_num
  have productNonneg := productScaled.raw_nonneg (by norm_num)
  obtain ⟨n, second⟩ := Dec.mul_total productNonneg outNonneg
    ((mul_le_mul productLe outLe outNonneg (by norm_num)).trans_lt (by norm_num))
  have few := sized.getMinLen_le (show inputs.reserveIn ∈ inputs.values by simp [SwapInputs.values])
  obtain ⟨y, quotient, nonneg, bounded⟩ := scaled_quo_total (reduced.numerator scaled first second)
    (reduced.denominator sum squared) filled.sum_pos (formula_le part)
    (sizedOut.le.trans (by norm_num)) few
  exact ⟨_, d, product, n, y, sum, squared, first, second, quotient, nonneg, bounded⟩

/-- Scaling a bounded value up is exact. -/
theorem increasePrecision_total {dec : Dec} {digits : Nat} (nonneg : 0 ≤ dec.raw)
    (small : dec.raw * 10 ^ digits ≤ 10 ^ 82) (few : digits ≤ 30) :
    ∃ result, increasePrecision dec digits = .ok result ∧ 0 ≤ result.raw ∧
      result.raw = dec.raw * 10 ^ digits := by
  have raised := @Dec.power_ten digits (by omega)
  have unit : (0 : Int) ≤ 10 ^ digits * Dec.precision :=
    Int.mul_nonneg (by positivity) (Int.natCast_nonneg _)
  obtain ⟨result, product⟩ := @Dec.mul_total dec ⟨10 ^ digits * Dec.precision⟩ nonneg unit (by
    change dec.raw * (10 ^ digits * Dec.precision) < 9 * 10 ^ 111
    rw [Dec.precision_cast, ← mul_assoc]
    omega)
  have scaled : increasePrecision dec digits = .ok result := by
    rw [increasePrecision, Result.bind_ok]
    exact ⟨_, raised, product⟩
  have whole := increasePrecision_ok scaled
  refine ⟨result, scaled, ?_, whole⟩
  rw [whole]
  positivity

/-- The last step of a swap succeeds on bounded values. -/
theorem finishSwap_total {y : Dec} {digits : Nat} (nonneg : 0 ≤ y.raw)
    (small : y.raw * 10 ^ digits ≤ 10 ^ 81) (few : digits ≤ 30)
    (factored : factor.raw = 10 ^ power * Dec.precision) :
    ∃ amount, finishSwap y digits toRowan factor = .ok amount := by
  obtain ⟨increased, scaled, wholeNonneg, whole⟩ :=
    increasePrecision_total nonneg (by omega) few
  rw [← whole] at small
  unfold finishSwap
  cases toRowan with
  | true =>
    obtain ⟨amount, rounded⟩ := Dec.roundUint_total wholeNonneg (by omega)
    refine ⟨amount, ?_⟩
    simp only [Result.bind_ok]
    exact ⟨increased, scaled, increased, rfl, rounded⟩
  | false =>
    have one : (1 : Int) ≤ 10 ^ power := one_le_pow₀ (by decide)
    have factorLow : 10 ^ 18 ≤ factor.raw := by
      rw [factored, Dec.precision_cast]
      omega
    obtain ⟨divided, quotient⟩ := @Dec.quo_total increased factor wholeNonneg (by omega) (by omega)
    have high := Dec.quo_le quotient wholeNonneg (by omega)
    have dividedLe : divided.raw < 10 ^ 94 := by
      have factorCast : (10 : ℚ) ^ 18 ≤ factor.raw := by exact_mod_cast factorLow
      have smallCast : (increased.raw : ℚ) ≤ 10 ^ 81 := by exact_mod_cast small
      have nonnegCast : (0 : ℚ) ≤ increased.raw := by exact_mod_cast wholeNonneg
      have part : (increased.raw : ℚ) * 10 ^ 18 / factor.raw ≤ increased.raw := by
        rw [div_le_iff₀ (by linarith)]
        exact mul_le_mul_of_nonneg_left factorCast nonnegCast
      have bound : (divided.raw : ℚ) < 10 ^ 94 := by linarith
      exact_mod_cast bound
    obtain ⟨amount, rounded⟩ := Dec.roundUint_total
      (Dec.quo_nonneg quotient wholeNonneg (by omega)) dividedLe.le
    refine ⟨amount, ?_⟩
    simp only [Result.bind_ok]
    exact ⟨increased, scaled, divided, quotient, rounded⟩

/-- The amount of a swap or of its fee is computed on sized inputs. -/
theorem Reduced.amount_total {reserveIn amountIn reserveOut other : Dec} {value : Nat}
    (filled : Filled inputs) (sized : Sized inputs.values)
    (factored : factor.raw = 10 ^ power * Dec.precision)
    (reduced : Reduced inputs reserveIn amountIn reserveOut)
    (scaled : Scaled (getMinLen inputs.values) 1 1 other.raw value)
    (part : value = inputs.amountIn.val ∨ value = inputs.reserveIn.val) :
    ∃ s d product n y amount, amountIn.add reserveIn = .ok s ∧ s.mul s = .ok d ∧
      amountIn.mul other = .ok product ∧ product.mul reserveOut = .ok n ∧ n.quo d = .ok y ∧
      finishSwap y (getMinLen inputs.values) toRowan factor = .ok amount := by
  have few := sized.getMinLen_le (show inputs.reserveIn ∈ inputs.values by simp [SwapInputs.values])
  obtain ⟨s, d, product, n, y, sum, squared, first, second, quotient, nonneg, bounded⟩ :=
    reduced.formula_total filled sized scaled part
  obtain ⟨amount, finished⟩ := @finishSwap_total factor power toRowan y _ nonneg bounded few factored
  exact ⟨s, d, product, n, y, amount, sum, squared, first, second, quotient, finished⟩

/-- All three inputs are scaled down. -/
theorem reduce_total (sized : Sized inputs.values) : ∃ reserveIn amountIn reserveOut,
    reducePrecision (Dec.ofInt inputs.reserveIn.val) (getMinLen inputs.values) = .ok reserveIn ∧
      reducePrecision (Dec.ofInt inputs.amountIn.val) (getMinLen inputs.values) = .ok amountIn ∧
      reducePrecision (Dec.ofInt inputs.reserveOut.val) (getMinLen inputs.values) =
        .ok reserveOut := by
  have few := sized.getMinLen_le (show inputs.reserveIn ∈ inputs.values by simp [SwapInputs.values])
  obtain ⟨reserveIn, first⟩ := reducePrecision_total
    (sized inputs.reserveIn (by simp [SwapInputs.values])) few
  obtain ⟨amountIn, second⟩ := reducePrecision_total
    (sized inputs.amountIn (by simp [SwapInputs.values])) few
  obtain ⟨reserveOut, third⟩ := reducePrecision_total
    (sized inputs.reserveOut (by simp [SwapInputs.values])) few
  exact ⟨reserveIn, amountIn, reserveOut, first, second, third⟩

/-- Amounts below a limit are scaled, and stay below it. -/
theorem normalize_total {limit : Nat} (factored : factor.raw = 10 ^ power * Dec.precision)
    (few : power ≤ 31) (low : limit ≤ 10 ^ 31)
    (reserveIn : inputs.reserveIn.val * soldScale toRowan adjust power < limit)
    (amountIn : inputs.amountIn.val * soldScale toRowan adjust power < limit)
    (reserveOut : inputs.reserveOut.val * boughtScale toRowan adjust power < limit) :
    ∃ scaled, inputs.normalize toRowan adjust factor = .ok scaled ∧
      ∀ value ∈ scaled.values, value.val < limit := by
  have small : limit < 2 ^ 256 := low.trans_lt (by norm_num)
  have unit : (10 : Int) ^ power ≤ 10 ^ 31 := pow_le_pow_right₀ (by decide) few
  have nonneg : (0 : Int) ≤ 10 ^ power := by positivity
  obtain ⟨nf, rounded⟩ := @Dec.roundUint_total factor
    (by rw [factored, Dec.precision_cast]; omega) (by rw [factored, Dec.precision_cast]; omega)
  have value := factor_ok factored rounded
  have made : ∃ scaled, inputs.normalize toRowan adjust factor = .ok scaled := by
    simp only [SwapInputs.normalize, Result.bind_ok]
    unfold soldScale at reserveIn amountIn
    unfold boughtScale at reserveOut
    by_cases same : adjust = toRowan
    · rw [if_pos same] at reserveIn amountIn
      refine ⟨⟨⟨_, reserveIn.trans small⟩, ⟨_, amountIn.trans small⟩, inputs.reserveOut⟩, nf, rounded, ?_⟩
      rw [if_pos same]
      simp only [Result.bind_ok, Uint.mul_ok, Result.pure_ok, value]
      exact ⟨_, rfl, _, rfl, rfl⟩
    · rw [if_neg same] at reserveOut
      refine ⟨⟨inputs.reserveIn, inputs.amountIn, ⟨_, reserveOut.trans small⟩⟩, nf, rounded, ?_⟩
      rw [if_neg same]
      simp only [Result.bind_ok, Uint.mul_ok, Result.pure_ok, value]
      exact ⟨_, rfl, rfl⟩
  obtain ⟨scaled, normalized⟩ := made
  obtain ⟨first, second, third⟩ := swapInputs_normalized factored normalized
  refine ⟨scaled, normalized, ?_⟩
  intro listed member
  simp only [SwapInputs.values, List.mem_cons, List.not_mem_nil, or_false] at member
  rcases member with rfl | rfl | rfl
  · rwa [first]
  · rwa [second]
  · rwa [third]

/-- The result of a swap is computed on sized inputs. -/
theorem calcSwapResult_total (filled : Filled inputs)
    (factored : factor.raw = 10 ^ power * Dec.precision)
    (normalized : inputs.normalize toRowan adjust factor = .ok scaled) (sized : Sized scaled.values) :
    ∃ amount, calcSwapResult toRowan factor adjust inputs = .ok amount := by
  obtain ⟨reserveIn, amountIn, reserveOut, first, second, third⟩ := reduce_total sized
  have reduced := reduced_ok first second third
  obtain ⟨s, d, product, n, y, amount, sum, squared, multiplied, numerator, quotient, finished⟩ :=
    @Reduced.amount_total _ _ _ toRowan _ _ _ _ _ (filled.normalize factored normalized) sized
      factored reduced reduced.reserveIn (.inr rfl)
  refine ⟨amount, ?_⟩
  unfold calcSwapResult
  rw [if_neg (by rw [filled.validateZero]; decide)]
  simp only [Result.bind_ok]
  exact ⟨scaled, normalized, reserveIn, first, amountIn, second, reserveOut, third, s, sum, d,
    squared, product, multiplied, n, numerator, y, quotient, finished⟩

/-- The fee of a swap is computed on sized inputs. -/
theorem calcLiquidityFee_total (filled : Filled inputs)
    (factored : factor.raw = 10 ^ power * Dec.precision)
    (normalized : inputs.normalize toRowan adjust factor = .ok scaled) (sized : Sized scaled.values) :
    ∃ amount, calcLiquidityFee toRowan factor adjust inputs = .ok amount := by
  obtain ⟨reserveIn, amountIn, reserveOut, first, second, third⟩ := reduce_total sized
  have reduced := reduced_ok first second third
  obtain ⟨s, d, square, n, y, amount, sum, squared, multiplied, numerator, quotient, finished⟩ :=
    @Reduced.amount_total _ _ _ toRowan _ _ _ _ _ (filled.normalize factored normalized) sized
      factored reduced reduced.amountIn (.inl rfl)
  have some : (inputs.reserveIn.isZero && inputs.amountIn.isZero) = false := by
    simp [Uint.isZero, filled.reserveIn.ne']
  refine ⟨amount, ?_⟩
  unfold calcLiquidityFee
  rw [some, if_neg Bool.false_ne_true, if_neg (by rw [filled.validateZero]; decide)]
  simp only [Result.bind_ok]
  exact ⟨scaled, normalized, reserveIn, first, amountIn, second, reserveOut, third, square,
    multiplied, n, numerator, s, sum, d, squared, y, quotient, finished⟩

end Totals

end Akhira.Verif.Clp
