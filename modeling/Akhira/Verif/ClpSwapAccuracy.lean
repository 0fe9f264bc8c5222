import Akhira.Verif.ClpHandlers
import Akhira.Verif.ClpSwapFormula

/-!
# Accuracy of swaps

For tokens of up to 18 decimals the amounts paid follow the documented formulas. For tokens of more
decimals the side that is scaled up is not the one the result is divided by, and the amount is wrong
by the normalisation factor. Rounding to the nearest unit can pay more than the product of the
reserves allows.
-/
namespace Akhira.Verif.Clp

open Akhira.Base Akhira.Sdk Akhira.Clp

section Margins

variable {inputs : SwapInputs}

/-- The documented result of a swap is not negative. -/
theorem swapValue_nonneg (inputs : SwapInputs) : 0 ≤ swapValue inputs := by
  unfold swapValue
  positivity

/-- The documented fee of a swap is not negative. -/
theorem feeValue_nonneg (inputs : SwapInputs) : 0 ≤ feeValue inputs := by
  unfold feeValue
  positivity

/-- When more than six digits are dropped, no input has fewer. -/
theorem inputs_large (many : getMinLen inputs.values ≠ 6) :
    (10 : ℚ) ^ getMinLen inputs.values ≤ inputs.reserveIn.val ∧
      (10 : ℚ) ^ getMinLen inputs.values ≤ inputs.amountIn.val ∧
      (10 : ℚ) ^ getMinLen inputs.values ≤ inputs.reserveOut.val := by
  have large := (getMinLen_spares inputs.values).resolve_left many
  refine ⟨?_, ?_, ?_⟩
  · exact_mod_cast large inputs.reserveIn (by simp [SwapInputs.values])
  · exact_mod_cast large inputs.amountIn (by simp [SwapInputs.values])
  · exact_mod_cast large inputs.reserveOut (by simp [SwapInputs.values])

/-- Short inputs bound the sold side. -/
theorem Short.sold_le (short : Short inputs) :
    (inputs.reserveIn.val : ℚ) ≤ 10 ^ 26 ∧ (inputs.amountIn.val : ℚ) ≤ 10 ^ 26 := by
  constructor
  · exact_mod_cast (short inputs.reserveIn (by simp [SwapInputs.values])).le
  · exact_mod_cast (short inputs.amountIn (by simp [SwapInputs.values])).le

/-- Of two numbers between `u` and `w`, the product is at least the part `u / (4 w)` of the squared
sum. -/
theorem product_part {a b u w : ℚ} (unit : 0 < u) (first : u ≤ a) (second : u ≤ b) (firstMost : a ≤ w)
    (secondMost : b ≤ w) : u * (a + b) ^ 2 ≤ 4 * w * (a * b) := by
  wlog ordered : a ≤ b generalizing a b
  · have swapped := this second first secondMost firstMost (le_of_lt (not_le.mp ordered))
    rw [add_comm b a, mul_comm b a] at swapped
    exact swapped
  have firstPos : 0 < a := unit.trans_le first
  have secondPos : 0 < b := unit.trans_le second
  have sum : a + b ≤ 2 * b := by linarith
  calc u * (a + b) ^ 2 ≤ a * (2 * b) ^ 2 := by gcongr
    _ = 4 * (a * b) * b := by ring
    _ ≤ 4 * (a * b) * w := by gcongr
    _ = 4 * w * (a * b) := by ring

/-- Of two numbers between `u` and `w`, the first is at least the part `u / (u + w)` of the sum. -/
theorem first_part {a b u w : ℚ} (unit : 0 < u) (first : u ≤ a) (secondMost : b ≤ w) (wide : 0 < w) :
    u * (a + b) ≤ a * (u + w) := by
  have bound : u * b ≤ a * w := by
    calc u * b ≤ u * w := by gcongr
      _ ≤ a * w := by gcongr
  linarith

/-- The least documented result of inputs of at most 26 digits that are long enough. -/
theorem swapValue_large (short : Short inputs) (many : getMinLen inputs.values ≠ 6) :
    (10 ^ getMinLen inputs.values) ^ 2 ≤ 4 * 10 ^ 26 * swapValue inputs := by
  obtain ⟨reserveIn, amountIn, reserveOut⟩ := inputs_large many
  obtain ⟨reserveMost, amountMost⟩ := short.sold_le
  have unit : (0 : ℚ) < 10 ^ getMinLen inputs.values := by positivity
  have part := product_part unit amountIn reserveIn amountMost reserveMost
  have sum : (0 : ℚ) < (inputs.amountIn.val + inputs.reserveIn.val) ^ 2 :=
    pow_pos (by linarith) 2
  unfold swapValue
  rw [← mul_div_assoc, le_div_iff₀ sum]
  generalize (10 : ℚ) ^ getMinLen inputs.values = u at *
  generalize (inputs.amountIn.val : ℚ) = a at *
  generalize (inputs.reserveIn.val : ℚ) = b at *
  generalize (inputs.reserveOut.val : ℚ) = c at *
  calc u ^ 2 * (a + b) ^ 2 = u * (u * (a + b) ^ 2) := by ring
    _ ≤ c * (4 * 10 ^ 26 * (a * b)) := mul_le_mul reserveOut part (by positivity) (by linarith)
    _ = 4 * 10 ^ 26 * (a * b * c) := by ring

/-- The least documented fee of such inputs. -/
theorem feeValue_large (short : Short inputs) (many : getMinLen inputs.values ≠ 6) :
    (10 ^ getMinLen inputs.values) ^ 3 ≤ (11 / 10 * 10 ^ 26) ^ 2 * feeValue inputs := by
  obtain ⟨reserveIn, amountIn, reserveOut⟩ := inputs_large many
  obtain ⟨reserveMost, -⟩ := short.sold_le
  have unit : (0 : ℚ) < 10 ^ getMinLen inputs.values := by positivity
  have few : (10 : ℚ) ^ getMinLen inputs.values ≤ 10 ^ 25 :=
    pow_le_pow_right₀ (by norm_num) short.getMinLen_le
  have part := first_part unit amountIn reserveMost (by norm_num)
  have sum : (0 : ℚ) < (inputs.amountIn.val + inputs.reserveIn.val) ^ 2 :=
    pow_pos (by linarith) 2
  unfold feeValue
  rw [← mul_div_assoc, le_div_iff₀ sum]
  generalize (10 : ℚ) ^ getMinLen inputs.values = u at *
  generalize (inputs.amountIn.val : ℚ) = a at *
  generalize (inputs.reserveIn.val : ℚ) = b at *
  generalize (inputs.reserveOut.val : ℚ) = c at *
  have wide : u * (a + b) ≤ a * (11 / 10 * 10 ^ 26) :=
    part.trans (mul_le_mul_of_nonneg_left (by linarith) (by linarith))
  calc u ^ 3 * (a + b) ^ 2 = u * (u * (a + b)) ^ 2 := by ring
    _ ≤ c * (a * (11 / 10 * 10 ^ 26)) ^ 2 :=
        mul_le_mul reserveOut (pow_le_pow_left₀ (mul_nonneg unit.le (by linarith)) wide 2)
          (sq_nonneg _) (by linarith)
    _ = (11 / 10 * 10 ^ 26) ^ 2 * (a * a * c) := by ring

/-- Half a step of the reduced precision is little, or little of the result. -/
theorem swap_margin (short : Short inputs) :
    (1 / 2 + 1 / 10 ^ 18) * (10 ^ getMinLen inputs.values / 10 ^ 18) ≤
      1 / 4 + 1 / (2 * 10 ^ 9) * swapValue inputs := by
  have nonneg := swapValue_nonneg inputs
  by_cases few : getMinLen inputs.values ≤ 17
  · have unit : (10 : ℚ) ^ getMinLen inputs.values ≤ 10 ^ 17 := pow_le_pow_right₀ (by norm_num) few
    generalize (10 : ℚ) ^ getMinLen inputs.values = u at *
    linarith
  · have large := swapValue_large short (by omega)
    have unit : (10 : ℚ) ^ 18 ≤ 10 ^ getMinLen inputs.values :=
      pow_le_pow_right₀ (by norm_num) (by omega)
    generalize (10 : ℚ) ^ getMinLen inputs.values = u at *
    have square : 10 ^ 18 * u ≤ u ^ 2 := by
      rw [pow_two]
      exact mul_le_mul_of_nonneg_right unit (by linarith)
    linarith

/-- Half a step of the reduced precision is at most half a unit, or little of the fee. -/
theorem fee_margin (short : Short inputs) :
    (1 / 2 + 1 / 10 ^ 18) * (10 ^ getMinLen inputs.values / 10 ^ 18) ≤
      1 / 2 - 1 / 10 ^ 6 + 3 / (4 * 10 ^ 4) * feeValue inputs := by
  have nonneg := feeValue_nonneg inputs
  by_cases few : getMinLen inputs.values ≤ 17
  · have unit : (10 : ℚ) ^ getMinLen inputs.values ≤ 10 ^ 17 := pow_le_pow_right₀ (by norm_num) few
    generalize (10 : ℚ) ^ getMinLen inputs.values = u at *
    linarith
  · have large := feeValue_large short (by omega)
    by_cases one : getMinLen inputs.values = 18
    · rw [one] at large ⊢
      norm_num at large ⊢
      linarith
    · have unit : (10 : ℚ) ^ 19 ≤ 10 ^ getMinLen inputs.values :=
        pow_le_pow_right₀ (by norm_num) (by omega)
      generalize (10 : ℚ) ^ getMinLen inputs.values = u at *
      have cube : 10 ^ 38 * u ≤ u ^ 3 := by
        calc (10 : ℚ) ^ 38 * u = (10 ^ 19) ^ 2 * u := by ring
          _ ≤ u ^ 2 * u := by gcongr
          _ = u ^ 3 := by ring
      linarith

end Margins

section Scales

variable {inputs scaled : SwapInputs} {factor : Dec} {power : Nat} {toRowan adjust : Bool}

/-- The scale of the asset sold cancels. -/
theorem quotient_scaled {a b c value sold bought : ℚ} (some : sold ≠ 0) :
    a * sold * (value * sold) * (c * bought) / (a * sold + b * sold) ^ 2 =
      a * value * c / (a + b) ^ 2 * bought := by
  rw [← add_mul, mul_pow]
  field_simp

/-- The scale of the sold side is not zero. -/
theorem soldScale_ne : (soldScale toRowan adjust power : ℚ) ≠ 0 :=
  Nat.cast_ne_zero.mpr (soldScale_pos toRowan adjust power).ne'

/-- Scaling the inputs scales the documented result by the scale of the bought side. -/
theorem swapValue_scaled (factored : factor.raw = 10 ^ power * Dec.precision)
    (normalized : inputs.normalize toRowan adjust factor = .ok scaled) :
    swapValue scaled = swapValue inputs * boughtScale toRowan adjust power := by
  obtain ⟨reserveIn, amountIn, reserveOut⟩ := swapInputs_normalized factored normalized
  unfold swapValue
  rw [reserveIn, amountIn, reserveOut]
  push_cast
  exact quotient_scaled soldScale_ne

/-- Scaling the inputs scales the documented fee by the scale of the bought side. -/
theorem feeValue_scaled (factored : factor.raw = 10 ^ power * Dec.precision)
    (normalized : inputs.normalize toRowan adjust factor = .ok scaled) :
    feeValue scaled = feeValue inputs * boughtScale toRowan adjust power := by
  obtain ⟨reserveIn, amountIn, reserveOut⟩ := swapInputs_normalized factored normalized
  unfold feeValue
  rw [reserveIn, amountIn, reserveOut]
  push_cast
  exact quotient_scaled soldScale_ne

end Scales

section Decimals

variable {inputs : SwapInputs} {decimals : Int} {toRowan : Bool}

/-- The amounts of a swap have at most 26 digits after the scaling for the decimals of a token. -/
structure Fits (decimals : Int) (toRowan : Bool) (inputs : SwapInputs) : Prop where
  reserveIn : inputs.reserveIn.val * soldScale toRowan (decimals < 18) (decimalsGap decimals) < 10 ^ 26
  amountIn : inputs.amountIn.val * soldScale toRowan (decimals < 18) (decimalsGap decimals) < 10 ^ 26
  reserveOut :
    inputs.reserveOut.val * boughtScale toRowan (decimals < 18) (decimalsGap decimals) < 10 ^ 26

/-- Where the scaled amounts are short, the decimals are at most 25 off. -/
theorem Fits.gap_le (fits : Fits decimals toRowan inputs) (filled : Filled inputs) :
    decimalsGap decimals ≤ 25 := by
  have power : 10 ^ decimalsGap decimals < 10 ^ 26 := by
    by_cases same : decide (decimals < 18) = toRowan
    · have sold := fits.amountIn
      rw [soldScale, if_pos same] at sold
      exact (Nat.le_mul_of_pos_left _ filled.amountIn).trans_lt sold
    · have bought := fits.reserveOut
      rw [boughtScale, if_neg same] at bought
      exact (Nat.le_mul_of_pos_left _ filled.reserveOut).trans_lt bought
  exact Nat.le_of_lt_succ ((Nat.pow_lt_pow_iff_right (by decide)).mp power)

/-- Tokens whose decimals are not too far from 18 have a factor. -/
theorem getNormalizationFactor_total (few : decimalsGap decimals ≤ 26) :
    ∃ factor, getNormalizationFactor decimals = .ok factor := by
  unfold decimalsGap at few
  unfold getNormalizationFactor
  split
  · exact ⟨_, rfl⟩
  · split
    · rw [@Dec.power_ten (18 - decimals).toNat (by omega)]
      exact ⟨_, rfl⟩
    · rw [@Dec.power_ten (decimals - 18).toNat (by omega)]
      exact ⟨_, rfl⟩

/-- Amounts that fit are paid, close to the documented values in the scale of the asset bought. -/
theorem Fits.computed (fits : Fits decimals toRowan inputs) (filled : Filled inputs) :
    ∃ factor scaled result fee, getNormalizationFactor decimals = .ok factor ∧ Short scaled ∧
      calcSwapResult toRowan factor.1 factor.2 inputs = .ok result ∧
      calcLiquidityFee toRowan factor.1 factor.2 inputs = .ok fee ∧
      swapValue scaled =
        swapValue inputs * boughtScale toRowan (decimals < 18) (decimalsGap decimals) ∧
      feeValue scaled =
        feeValue inputs * boughtScale toRowan (decimals < 18) (decimalsGap decimals) ∧
      Close (getMinLen scaled.values) (unscale toRowan (decimalsGap decimals)) (swapValue scaled)
        result ∧
      Close (getMinLen scaled.values) (unscale toRowan (decimalsGap decimals)) (feeValue scaled)
        fee := by
  have few := fits.gap_le filled
  obtain ⟨⟨factor, adjust⟩, normalization⟩ := @getNormalizationFactor_total decimals (by omega)
  obtain ⟨factored, rfl⟩ := getNormalizationFactor_ok normalization
  obtain ⟨scaled, normalized, short⟩ := normalize_total factored (by omega) (by norm_num)
    fits.reserveIn fits.amountIn fits.reserveOut
  have sized := Short.sized short
  obtain ⟨result, swapped⟩ := calcSwapResult_total filled factored normalized sized
  obtain ⟨fee, charged⟩ := calcLiquidityFee_total filled factored normalized sized
  obtain ⟨same, again, resultClose⟩ := calcSwapResult_close filled factored swapped
  cases normalized.symm.trans again
  obtain ⟨other, again, feeClose⟩ := calcLiquidityFee_close filled factored charged
  cases normalized.symm.trans again
  exact ⟨_, scaled, result, fee, normalization, short, swapped, charged,
    swapValue_scaled factored normalized, feeValue_scaled factored normalized, resultClose, feeClose⟩

end Decimals

section Accuracy

variable {inputs : SwapInputs} {decimals : Int} {toRowan : Bool}

/-- `CalcSwapResult` returns the documented result up to one unit and a part of 10^9. -/
def SwapAccurate (decimals : Int) (toRowan : Bool) (inputs : SwapInputs) : Prop :=
  ∃ factor result, getNormalizationFactor decimals = .ok factor ∧
    calcSwapResult toRowan factor.1 factor.2 inputs = .ok result ∧
    |(result.val : ℚ) - swapValue inputs| ≤ 1 + 1 / 10 ^ 9 * swapValue inputs

/-- `CalcLiquidityFee` returns the documented fee up to one unit and a part of 10^4. -/
def FeeAccurate (decimals : Int) (toRowan : Bool) (inputs : SwapInputs) : Prop :=
  ∃ factor fee, getNormalizationFactor decimals = .ok factor ∧
    calcLiquidityFee toRowan factor.1 factor.2 inputs = .ok fee ∧
    |(fee.val : ℚ) - feeValue inputs| ≤ 1 + 1 / 10 ^ 4 * feeValue inputs

/-- Whether a swap is accurate is said by its computed result. -/
theorem swapAccurate_iff {factor : Dec × Bool} {result : Uint}
    (normalization : getNormalizationFactor decimals = .ok factor)
    (computed : calcSwapResult toRowan factor.1 factor.2 inputs = .ok result) :
    SwapAccurate decimals toRowan inputs ↔
      |(result.val : ℚ) - swapValue inputs| ≤ 1 + 1 / 10 ^ 9 * swapValue inputs := by
  constructor
  · rintro ⟨other, amount, sameFactor, sameResult, accurate⟩
    cases normalization.symm.trans sameFactor
    cases computed.symm.trans sameResult
    exact accurate
  · intro accurate
    exact ⟨factor, result, normalization, computed, accurate⟩

/-- For tokens of up to 18 decimals the result is divided by what the asset bought was multiplied
by. -/
theorem unscale_eq (few : decimals ≤ 18) : unscale toRowan (decimalsGap decimals) =
    boughtScale toRowan (decimals < 18) (decimalsGap decimals) := by
  unfold unscale boughtScale
  by_cases same : decimals = 18
  · subst same
    simp [decimalsGap]
  · have fewer : decimals < 18 := by omega
    cases toRowan <;> simp [fewer]

/-- The error of an amount in its own scale. -/
theorem Close.unscaled {digits : Nat} {scale value rest part : ℚ} {amount : Uint}
    (close : Close digits scale (value * scale) amount) (one : 1 ≤ scale) (nonneg : 0 ≤ rest)
    (margin : (1 / 2 + 1 / 10 ^ 18) * (10 ^ digits / 10 ^ 18) ≤ rest + part * (value * scale)) :
    |(amount.val : ℚ) - value| ≤
      (12 / 10 ^ 18 + part) * value + rest + (1 / 2 + 1 / 10 ^ 18) := by
  have positive : 0 < scale := by linarith
  have grown : rest ≤ rest * scale := le_mul_of_one_le_right nonneg one
  unfold Close at close
  rw [← sub_mul, abs_mul, abs_of_pos positive] at close
  refine le_of_mul_le_mul_right ?_ positive
  calc |(amount.val : ℚ) - value| * scale
      ≤ 12 / 10 ^ 18 * (value * scale) +
        (1 / 2 + 1 / 10 ^ 18) * (10 ^ digits / 10 ^ 18 + scale) := close
    _ ≤ 12 / 10 ^ 18 * (value * scale) + (rest * scale + part * (value * scale)) +
        (1 / 2 + 1 / 10 ^ 18) * scale := by linarith
    _ = ((12 / 10 ^ 18 + part) * value + rest + (1 / 2 + 1 / 10 ^ 18)) * scale := by ring

/-- Swaps of tokens of up to 18 decimals pay the documented result and charge the documented fee. -/
theorem swap_and_fee_accurate (few : decimals ≤ 18) (filled : Filled inputs)
    (fits : Fits decimals toRowan inputs) :
    SwapAccurate decimals toRowan inputs ∧ FeeAccurate decimals toRowan inputs := by
  obtain ⟨factor, scaled, result, fee, normalization, short, swapped, charged, resultValue, feeScaled,
    resultClose, feeClose⟩ := fits.computed filled
  have one := one_le_unscale toRowan (decimalsGap decimals)
  have resultMargin := swap_margin short
  have feeMargin := fee_margin short
  have resultNonneg := swapValue_nonneg inputs
  have feeNonneg := feeValue_nonneg inputs
  rw [resultValue, ← unscale_eq few] at resultClose resultMargin
  rw [feeScaled, ← unscale_eq few] at feeClose feeMargin
  constructor
  · refine ⟨factor, result, normalization, swapped, ?_⟩
    have bound := resultClose.unscaled one (by norm_num) resultMargin
    linarith
  · refine ⟨factor, fee, normalization, charged, ?_⟩
    have bound := feeClose.unscaled one (by norm_num) feeMargin
    linarith

/-- The pool of a million units on both sides, and a thousand sold. -/
theorem million_accurate :
    SwapAccurate 6 true ⟨⟨10 ^ 6, by decide⟩, ⟨10 ^ 3, by decide⟩, ⟨10 ^ 6, by decide⟩⟩ ∧
      FeeAccurate 6 true ⟨⟨10 ^ 6, by decide⟩, ⟨10 ^ 3, by decide⟩, ⟨10 ^ 6, by decide⟩⟩ :=
  swap_and_fee_accurate (by decide) ⟨by decide, by decide, by decide⟩
    ⟨by decide, by decide, by decide⟩

end Accuracy

section BeyondEighteen

variable {inputs scaled : SwapInputs} {decimals : Int}

/-- A token of more than 18 decimals is scaled by ten at least. -/
theorem ten_le_gap (more : 18 < decimals) : (10 : ℚ) ≤ 10 ^ decimalsGap decimals := by
  refine le_self_pow₀ (by norm_num) ?_
  unfold decimalsGap
  omega

/-- Where less than two units are due, at most 13 digits were dropped. -/
theorem low_margin (short : Short inputs) (low : swapValue inputs < 2) :
    (1 / 2 + 1 / 10 ^ 18) * ((10 : ℚ) ^ getMinLen inputs.values / 10 ^ 18) ≤ 6 / 10 ^ 6 := by
  have digits : getMinLen inputs.values ≤ 13 := by
    by_contra many
    have large := swapValue_large short (by omega)
    have unit : ((10 : ℚ) ^ 14) ^ 2 ≤ (10 ^ getMinLen inputs.values) ^ 2 :=
      pow_le_pow_left₀ (by norm_num) (pow_le_pow_right₀ (by norm_num) (by omega)) 2
    linarith
  have unit : (10 : ℚ) ^ getMinLen inputs.values ≤ 10 ^ 13 := pow_le_pow_right₀ (by norm_num) digits
  generalize (10 : ℚ) ^ getMinLen inputs.values = u at *
  linarith

/-- The external asset is paid in the wrong scale: a tenth of what is due, or less. -/
theorem external_paid_low {digits : Nat} {scale value : ℚ} {amount : Uint}
    (close : Close digits scale value amount) (ten : 10 ≤ scale) (nonneg : 0 ≤ value)
    (margin : (1 / 2 + 1 / 10 ^ 18) * (10 ^ digits / 10 ^ 18) ≤
      1 / 4 + 1 / (2 * 10 ^ 9) * value) :
    (amount.val : ℚ) ≤ (1 / 10 + 1 / 10 ^ 9) * value + 53 / 100 := by
  have high := (abs_le.mp close).2
  by_contra more
  have excess : 0 < (amount.val : ℚ) - (1 / 2 + 1 / 10 ^ 18) := by linarith
  have grown := mul_le_mul_of_nonneg_left ten excess.le
  linarith

/-- A swap into a token of more decimals is accurate exactly when the documented result is at most
about one unit. -/
theorem swapAccurate_external_iff (more : 18 < decimals) (filled : Filled inputs)
    (fits : Fits decimals false inputs) :
    SwapAccurate decimals false inputs ↔ (1 - 1 / 10 ^ 9) * swapValue inputs ≤ 1 := by
  obtain ⟨factor, scaled, result, -, normalization, short, swapped, -, same, -, close, -⟩ :=
    fits.computed filled
  have nonneg := swapValue_nonneg inputs
  have margin := swap_margin short
  have unscaled : boughtScale false (decimals < 18) (decimalsGap decimals) = 1 := by
    simp [boughtScale, more.le]
  rw [unscaled, Nat.cast_one, mul_one] at same
  rw [same] at close margin
  have low := external_paid_low close (ten_le_gap more) nonneg margin
  rw [swapAccurate_iff normalization swapped]
  constructor
  · intro accurate
    have near := (abs_le.mp accurate).1
    by_contra high
    -- A result above zero would need a documented value of almost five.
    have positive : 0 < result.val := by
      have above : (0 : ℚ) < result.val := by linarith
      exact_mod_cast above
    have one : (1 : ℚ) ≤ result.val := by exact_mod_cast positive
    linarith
  · intro small
    have zero : result.val = 0 := by
      have below : (result.val : ℚ) < 1 := by linarith
      have unit : result.val < 1 := by exact_mod_cast below
      omega
    rw [zero, Nat.cast_zero, zero_sub, abs_neg, abs_of_nonneg nonneg]
    linarith

/-- The native asset is paid in the scale of the external one: the result is right only where the
amount so scaled rounds to one or to nothing. -/
theorem swapAccurate_native_bounds (more : 18 < decimals) (filled : Filled inputs)
    (fits : Fits decimals true inputs) :
    (10 ^ decimalsGap decimals * swapValue inputs ≤ 3 / 2 - 1 / 10 ^ 5 →
        SwapAccurate decimals true inputs) ∧
      (SwapAccurate decimals true inputs →
        10 ^ decimalsGap decimals * swapValue inputs ≤ 3 / 2 + 1 / 10 ^ 5) := by
  obtain ⟨factor, scaled, result, -, normalization, short, swapped, -, same, -, close, -⟩ :=
    fits.computed filled
  have nonneg := swapValue_nonneg inputs
  have margin := swap_margin short
  have grown : boughtScale true (decimals < 18) (decimalsGap decimals) =
      10 ^ decimalsGap decimals := by
    simp [boughtScale, more.le]
  rw [grown, Nat.cast_pow, Nat.cast_ofNat, mul_comm] at same
  have tenfold : 10 * swapValue inputs ≤ swapValue scaled := by
    rw [same]
    exact mul_le_mul_of_nonneg_right (ten_le_gap more) nonneg
  rw [← same, swapAccurate_iff normalization swapped]
  rw [Close, unscale, if_pos rfl, mul_one] at close
  obtain ⟨below, above⟩ := abs_le.mp close
  constructor
  · intro small
    have step := low_margin short (by linarith)
    have one : result.val ≤ 1 := by
      have under : (result.val : ℚ) < 2 := by linarith
      have unit : result.val < 2 := by exact_mod_cast under
      omega
    have oneCast : (result.val : ℚ) ≤ 1 := by exact_mod_cast one
    have resultNonneg : (0 : ℚ) ≤ result.val := Nat.cast_nonneg _
    rw [abs_le]
    constructor <;> linarith
  · intro accurate
    have near := (abs_le.mp accurate).2
    by_contra high
    have low : swapValue scaled < 2 := by linarith
    have step := low_margin short low
    have two : 1 < result.val := by
      have more : (1 : ℚ) < result.val := by linarith
      exact_mod_cast more
    have twoCast : (2 : ℚ) ≤ result.val := by exact_mod_cast two
    linarith

/-- Swaps of tokens of more than 18 decimals pay the documented result only where almost nothing is
due. -/
theorem beyond_eighteen_accuracy {toRowan : Bool} (more : 18 < decimals) (filled : Filled inputs)
    (fits : Fits decimals toRowan inputs) :
    (toRowan = false →
        (SwapAccurate decimals toRowan inputs ↔ (1 - 1 / 10 ^ 9) * swapValue inputs ≤ 1)) ∧
      (toRowan = true →
        (10 ^ decimalsGap decimals * swapValue inputs ≤ 3 / 2 - 1 / 10 ^ 5 →
            SwapAccurate decimals toRowan inputs) ∧
          (SwapAccurate decimals toRowan inputs →
            10 ^ decimalsGap decimals * swapValue inputs ≤ 3 / 2 + 1 / 10 ^ 5)) := by
  constructor
  · rintro rfl
    exact swapAccurate_external_iff more filled fits
  · rintro rfl
    exact swapAccurate_native_bounds more filled fits

/-- One unit sold into a reserve of a thousand, for a token of 19 decimals. -/
theorem dust_accurate :
    SwapAccurate 19 true ⟨⟨1000, by decide⟩, ⟨1, by decide⟩, ⟨1, by decide⟩⟩ ∧
      SwapAccurate 19 false ⟨⟨1000, by decide⟩, ⟨1, by decide⟩, ⟨1, by decide⟩⟩ := by
  have filled : Filled ⟨⟨1000, by decide⟩, ⟨1, by decide⟩, ⟨1, by decide⟩⟩ :=
    ⟨by decide, by decide, by decide⟩
  constructor
  · refine ((beyond_eighteen_accuracy (by decide) filled ⟨by decide, by decide, by decide⟩).2
      rfl).1 ?_
    norm_num [swapValue, decimalsGap]
  · refine ((beyond_eighteen_accuracy (by decide) filled ⟨by decide, by decide, by decide⟩).1
      rfl).2 ?_
    norm_num [swapValue]

/-- For a token of 19 decimals a swap where 250 is due pays 2500 of the native asset, and 25 of the
token. -/
theorem thousand_not_accurate :
    Fits 19 true ⟨⟨1000, by decide⟩, ⟨1000, by decide⟩, ⟨1000, by decide⟩⟩ ∧
      ¬SwapAccurate 19 true ⟨⟨1000, by decide⟩, ⟨1000, by decide⟩, ⟨1000, by decide⟩⟩ ∧
      Fits 19 false ⟨⟨1000, by decide⟩, ⟨1000, by decide⟩, ⟨1000, by decide⟩⟩ ∧
      ¬SwapAccurate 19 false ⟨⟨1000, by decide⟩, ⟨1000, by decide⟩, ⟨1000, by decide⟩⟩ := by
  have normalization : getNormalizationFactor 19 = .ok (⟨10 ^ 19⟩, false) := by decide +kernel
  have native : calcSwapResult true ⟨10 ^ 19⟩ false
      ⟨⟨1000, by decide⟩, ⟨1000, by decide⟩, ⟨1000, by decide⟩⟩ = .ok ⟨2500, by decide⟩ := by
    decide +kernel
  have external : calcSwapResult false ⟨10 ^ 19⟩ false
      ⟨⟨1000, by decide⟩, ⟨1000, by decide⟩, ⟨1000, by decide⟩⟩ = .ok ⟨25, by decide⟩ := by
    decide +kernel
  refine ⟨⟨by decide, by decide, by decide⟩, ?_, ⟨by decide, by decide, by decide⟩, ?_⟩
  · rw [swapAccurate_iff normalization native]
    norm_num [swapValue, abs_le]
  · rw [swapAccurate_iff normalization external]
    norm_num [swapValue, abs_le]

end BeyondEighteen

section Product

variable {inputs scaled : SwapInputs} {decimals : Int} {factor : Dec × Bool} {toRowan : Bool}
  {result : Uint}

/-- The product of the reserves. -/
def reserveProduct (pool : Pool) : Nat := pool.nativeAssetBalance.val * pool.externalAssetBalance.val

/-- How much more than the documented result rounding may pay. -/
def roundingSlack (digits : Nat) (inputs : SwapInputs) : ℚ :=
  1 / 2 + 10 ^ digits / 10 ^ 18 + 12 / 10 ^ 18 * swapValue inputs

/-- The documented result and fee are what the product of the reserves allows to pay. -/
theorem swapValue_add_feeValue (filled : Filled inputs) :
    (inputs.reserveIn.val + inputs.amountIn.val) * (swapValue inputs + feeValue inputs) =
      inputs.amountIn.val * inputs.reserveOut.val := by
  have reserveIn : (0 : ℚ) < inputs.reserveIn.val := by exact_mod_cast filled.reserveIn
  have amountIn : (0 : ℚ) < inputs.amountIn.val := by exact_mod_cast filled.amountIn
  unfold swapValue feeValue
  field_simp
  ring

/-- A swap pays at most the documented result and what rounding may add. -/
theorem calcSwapResult_le (few : decimals ≤ 18) (filled : Filled inputs)
    (normalization : getNormalizationFactor decimals = .ok factor)
    (computed : calcSwapResult toRowan factor.1 factor.2 inputs = .ok result) :
    ∃ scaled, inputs.normalize toRowan factor.2 factor.1 = .ok scaled ∧
      (result.val : ℚ) ≤ swapValue inputs + roundingSlack (getMinLen scaled.values) inputs := by
  obtain ⟨factored, adjusted⟩ := getNormalizationFactor_ok normalization
  obtain ⟨scaled, normalized, close⟩ := calcSwapResult_close filled factored computed
  refine ⟨scaled, normalized, ?_⟩
  rw [swapValue_scaled factored normalized, adjusted, ← unscale_eq few] at close
  have bound := close.unscaled (one_le_unscale _ _)
    (mul_nonneg (by norm_num) (by positivity) :
      0 ≤ (1 / 2 + 1 / 10 ^ 18) * ((10 : ℚ) ^ getMinLen scaled.values / 10 ^ 18))
    (le_of_eq (by ring : _ = _ + 0 * (swapValue inputs * unscale toRowan (decimalsGap decimals))))
  have high := (abs_le.mp bound).2
  have step : (10 : ℚ) ^ 6 ≤ 10 ^ getMinLen scaled.values :=
    pow_le_pow_right₀ (by norm_num) (six_le_getMinLen _)
  unfold roundingSlack
  generalize (10 : ℚ) ^ getMinLen scaled.values = u at *
  linarith

/-- What is left of the product of the reserves when at most a slack more than the documented result
is paid. -/
theorem product_le (filled : Filled inputs) {slack : ℚ} {paid left : Nat}
    (paying : (paid : ℚ) ≤ swapValue inputs + slack) (rest : inputs.reserveOut.val = paid + left) :
    inputs.reserveIn.val * inputs.reserveOut.val +
        (inputs.reserveIn.val + inputs.amountIn.val) * (feeValue inputs - slack) ≤
      (inputs.reserveIn.val + inputs.amountIn.val) * left := by
  have allowed := swapValue_add_feeValue filled
  have sum : (0 : ℚ) ≤ inputs.reserveIn.val + inputs.amountIn.val := by positivity
  have scaled := mul_le_mul_of_nonneg_left paying sum
  have whole : ((inputs.reserveIn.val : ℚ) + inputs.amountIn.val) * inputs.reserveOut.val =
      (inputs.reserveIn.val + inputs.amountIn.val) * paid +
        (inputs.reserveIn.val + inputs.amountIn.val) * left := by
    rw [rest]
    push_cast
    ring
  linarith

/-- A swap of a token of up to 18 decimals keeps the product of the reserves and the documented fee,
but for rounding. Where the fee is at least the slack of rounding the product does not fall. -/
theorem swap_product_bound {fromAsset toAsset : Asset} {sentAmount : Uint} {pool : Pool}
    {swapped : Swapped} (few : decimals ≤ 18)
    (normalization : getNormalizationFactor decimals = .ok factor)
    (native : 0 < pool.nativeAssetBalance.val) (external : 0 < pool.externalAssetBalance.val)
    (sent : 0 < sentAmount.val)
    (sides : fromAsset = Asset.settlement ↔ toAsset ≠ Asset.settlement)
    (chosen : setInputs sentAmount toAsset pool = (inputs, toRowan))
    (traded : swapOne fromAsset sentAmount toAsset pool factor.1 factor.2 = .ok swapped) :
    ∃ scaled, inputs.normalize toRowan factor.2 factor.1 = .ok scaled ∧
      reserveProduct pool + (inputs.reserveIn.val + inputs.amountIn.val) *
          (feeValue inputs - roundingSlack (getMinLen scaled.values) inputs) ≤
        reserveProduct swapped.pool ∧
      (roundingSlack (getMinLen scaled.values) inputs ≤ feeValue inputs →
        reserveProduct pool ≤ reserveProduct swapped.pool) := by
  have bounded : ∃ scaled, inputs.normalize toRowan factor.2 factor.1 = .ok scaled ∧
      reserveProduct pool + (inputs.reserveIn.val + inputs.amountIn.val) *
          (feeValue inputs - roundingSlack (getMinLen scaled.values) inputs) ≤
        reserveProduct swapped.pool := by
    unfold setInputs at chosen
    by_cases bought : toAsset = Asset.settlement
    · rw [if_pos bought] at chosen
      cases chosen
      subst bought
      obtain ⟨computed, sold⟩ := swapOne_external (fun same => sides.mp same rfl) traded
      have filled : Filled ⟨pool.externalAssetBalance, sentAmount, pool.nativeAssetBalance⟩ :=
        ⟨external, sent, native⟩
      obtain ⟨scaled, normalized, paying⟩ := calcSwapResult_le few filled normalization computed
      refine ⟨scaled, normalized, ?_⟩
      have kept := product_le filled paying sold.native
      rw [reserveProduct, reserveProduct, sold.external]
      push_cast
      linarith
    · rw [if_neg bought] at chosen
      cases chosen
      obtain rfl := sides.mpr bought
      obtain ⟨computed, sold⟩ := swapOne_native bought traded
      have filled : Filled ⟨pool.nativeAssetBalance, sentAmount, pool.externalAssetBalance⟩ :=
        ⟨native, sent, external⟩
      obtain ⟨scaled, normalized, paying⟩ := calcSwapResult_le few filled normalization computed
      refine ⟨scaled, normalized, ?_⟩
      have kept := product_le filled paying sold.external
      rw [reserveProduct, reserveProduct, sold.native]
      push_cast
      linarith
  obtain ⟨scaled, normalized, kept⟩ := bounded
  refine ⟨scaled, normalized, kept, ?_⟩
  intro enough
  have gain : (0 : ℚ) ≤ (inputs.reserveIn.val + inputs.amountIn.val) *
      (feeValue inputs - roundingSlack (getMinLen scaled.values) inputs) :=
    mul_nonneg (by positivity) (by linarith)
  have grown : (reserveProduct pool : ℚ) ≤ reserveProduct swapped.pool := by linarith
  exact_mod_cast grown

/-- A thousand units sold into reserves of a thousand: 250 are paid and the product grows. -/
theorem thousand_product : ∃ swapped,
    swapOne ⟨"ceth"⟩ ⟨1000, by decide⟩ Asset.settlement
      ⟨⟨"ceth"⟩, ⟨1000, by decide⟩, ⟨1000, by decide⟩, ⟨1000, by decide⟩⟩ (Dec.ofInt 1) false =
        .ok swapped ∧
    reserveProduct ⟨⟨"ceth"⟩, ⟨1000, by decide⟩, ⟨1000, by decide⟩, ⟨1000, by decide⟩⟩ ≤
      reserveProduct swapped.pool := by
  have traded : swapOne ⟨"ceth"⟩ ⟨1000, by decide⟩ Asset.settlement
      ⟨⟨"ceth"⟩, ⟨1000, by decide⟩, ⟨1000, by decide⟩, ⟨1000, by decide⟩⟩ (Dec.ofInt 1) false =
        .ok ⟨⟨250, by decide⟩, ⟨250, by decide⟩, ⟨0, by decide⟩,
          ⟨⟨"ceth"⟩, ⟨750, by decide⟩, ⟨2000, by decide⟩, ⟨1000, by decide⟩⟩⟩ := by
    decide +kernel
  have normalization : getNormalizationFactor 18 = .ok (Dec.ofInt 1, false) := rfl
  have chosen : setInputs ⟨1000, by decide⟩ Asset.settlement
      ⟨⟨"ceth"⟩, ⟨1000, by decide⟩, ⟨1000, by decide⟩, ⟨1000, by decide⟩⟩ =
        (⟨⟨1000, by decide⟩, ⟨1000, by decide⟩, ⟨1000, by decide⟩⟩, true) := by
    decide
  obtain ⟨scaled, normalized, -, grows⟩ := swap_product_bound (by decide) normalization (by decide)
    (by decide) (by decide) (by decide) chosen traded
  refine ⟨_, traded, grows ?_⟩
  have same : SwapInputs.normalize ⟨⟨1000, by decide⟩, ⟨1000, by decide⟩, ⟨1000, by decide⟩⟩ true
      false (Dec.ofInt 1) = .ok ⟨⟨1000, by decide⟩, ⟨1000, by decide⟩, ⟨1000, by decide⟩⟩ := by
    decide +kernel
  cases same.symm.trans normalized
  have six : getMinLen (SwapInputs.values
      ⟨⟨1000, by decide⟩, ⟨1000, by decide⟩, ⟨1000, by decide⟩⟩) = 6 := by
    decide +kernel
  rw [six]
  norm_num [roundingSlack, swapValue, feeValue]

/-- One unit of a token of 18 decimals, sold into a reserve of 1000 against 600: 0.6 is due, one is
paid, and the product falls. -/
theorem rounding_drains : ∃ factor swapped, getNormalizationFactor 18 = .ok factor ∧
    swapOne ⟨"ceth"⟩ ⟨1, by decide⟩ Asset.settlement
      ⟨⟨"ceth"⟩, ⟨600, by decide⟩, ⟨1000, by decide⟩, ⟨600, by decide⟩⟩ factor.1 factor.2 =
        .ok swapped ∧
    swapped.swapResult.val = 1 ∧
    reserveProduct swapped.pool <
      reserveProduct ⟨⟨"ceth"⟩, ⟨600, by decide⟩, ⟨1000, by decide⟩, ⟨600, by decide⟩⟩ :=
  ⟨(Dec.ofInt 1, false),
    ⟨⟨1, by decide⟩, ⟨0, by decide⟩, ⟨0, by decide⟩,
      ⟨⟨"ceth"⟩, ⟨599, by decide⟩, ⟨1001, by decide⟩, ⟨600, by decide⟩⟩⟩,
    rfl, by decide +kernel, rfl, by decide +kernel⟩

end Product

end Akhira.Verif.Clp
