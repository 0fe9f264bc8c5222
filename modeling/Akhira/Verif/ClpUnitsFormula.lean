import Akhira.Verif.ClpArithmetic

/-!
# Issued units and their formula

The units issued are P (a R + A r) / (2 A R) times the slip adjustment, one less
|R a - r A| / ((r + R) (a + A)). The adjustment is a decimal with 18 places. Its rounding is small
against one, but a contribution far from the pool's ratio has an adjustment near zero and a large
value before it, and then the rounding is all that is left.
-/
namespace Akhira.Verif.Clp

open Akhira.Base Akhira.Sdk Akhira.Sdk.Outcome Akhira.Clp

/-- The units before the slip adjustment, P (a R + A r) / (2 A R). -/
def unadjustedUnits (inputs : UnitInputs) : ℚ :=
  inputs.oldPoolUnits.val *
    (inputs.externalAssetAmount.val * inputs.nativeAssetBalance.val +
      inputs.externalAssetBalance.val * inputs.nativeAssetAmount.val) /
    (2 * inputs.externalAssetBalance.val * inputs.nativeAssetBalance.val)

/-- The slip adjustment, 1 - |R a - r A| / ((r + R) (a + A)). -/
def exactAdjustment (inputs : UnitInputs) : ℚ :=
  1 - |(inputs.nativeAssetBalance.val * inputs.externalAssetAmount.val -
      inputs.nativeAssetAmount.val * inputs.externalAssetBalance.val : ℚ)| /
    ((inputs.nativeAssetAmount.val + inputs.nativeAssetBalance.val) *
      (inputs.externalAssetAmount.val + inputs.externalAssetBalance.val))

/-- The units due by the formula. -/
def unitsDue (inputs : UnitInputs) : ℚ := unadjustedUnits inputs * exactAdjustment inputs

section Estimates

/-- The slip, when the computed parts of the ratio are close to the exact ones. -/
theorem slip_error {share whole slip part W ε : ℚ} (positive : 0 < W) (nonneg : 0 ≤ share)
    (some : 0 ≤ part) (most : part ≤ 1) (fine : 0 ≤ ε) (small : ε ≤ 1 / 10 ^ 17)
    (shareClose : |share - part * W| ≤ 2 * ε * W) (wholeClose : |whole - W| ≤ ε * W)
    (low : share * 10 ^ 18 / whole - (1 / 2 + 1 / 10 ^ 18) ≤ slip)
    (high : slip ≤ share * 10 ^ 18 / whole + 1 / 2) :
    |slip - 10 ^ 18 * part| ≤ 31 / 10 * ε * 10 ^ 18 + (1 / 2 + 1 / 10 ^ 18) := by
  obtain ⟨shareLow, shareHigh⟩ := abs_le.mp shareClose
  obtain ⟨wholeLow, wholeHigh⟩ := abs_le.mp wholeClose
  have part_error : 0 ≤ ε * W := mul_nonneg fine positive.le
  have square_error : ε * (ε * W) ≤ 1 / 10 ^ 17 * (ε * W) :=
    mul_le_mul_of_nonneg_right small part_error
  have part_whole : part * (ε * W) ≤ ε * W := mul_le_of_le_one_left part_error most
  have part_nonneg : 0 ≤ part * (ε * W) := mul_nonneg some part_error
  have wholePositive : 0 < whole := by nlinarith
  have above : share ≤ (part + 31 / 10 * ε) * whole := by
    have least := mul_le_mul_of_nonneg_left (show W - ε * W ≤ whole by linarith)
      (show 0 ≤ part + 31 / 10 * ε by linarith)
    linarith
  have below : (part - 31 / 10 * ε) * whole ≤ share := by
    by_cases sign : 0 ≤ part - 31 / 10 * ε
    · have most := mul_le_mul_of_nonneg_left (show whole ≤ W + ε * W by linarith) sign
      have square_nonneg : 0 ≤ ε * (ε * W) := mul_nonneg fine part_error
      linarith
    · exact (mul_nonpos_of_nonpos_of_nonneg (not_le.mp sign).le wholePositive.le).trans nonneg
  have ratioHigh : share * 10 ^ 18 / whole ≤ (part + 31 / 10 * ε) * 10 ^ 18 := by
    rw [div_le_iff₀ wholePositive]
    linarith
  have ratioLow : (part - 31 / 10 * ε) * 10 ^ 18 ≤ share * 10 ^ 18 / whole := by
    rw [le_div_iff₀ wholePositive]
    linarith
  rw [abs_le]
  constructor <;> linarith

/-- The issued units `n`, from a quotient `Q` close to the exact one, an adjustment `T` close to the
exact one, and two roundings, one of a step `v` of the reduced precision. -/
theorem units_error {U rest Q T stake n v κ : ℚ} (nonneg : 0 ≤ U) (step : 0 ≤ v)
    (adjustment : 0 ≤ T ∧ T ≤ 1) (exact : 0 ≤ rest)
    (quotientLow : U * (1 - 11 / 10 ^ 18) - v ≤ Q) (quotientHigh : Q ≤ U * (1 + 12 / 10 ^ 18) + v)
    (adjusted : |T - rest| ≤ κ) (product : |stake - Q * T| ≤ v / 2) (rounded : |n - stake| ≤ 1 / 2) :
    |n - U * rest| ≤ 1 / 2 + 3 / 2 * v + 12 / 10 ^ 18 * (U * rest) +
      (1 + 12 / 10 ^ 18) * (κ * U) := by
  obtain ⟨adjustedLow, adjustedHigh⟩ := abs_le.mp adjusted
  obtain ⟨productLow, productHigh⟩ := abs_le.mp product
  obtain ⟨roundedLow, roundedHigh⟩ := abs_le.mp rounded
  have due : 0 ≤ U * rest := mul_nonneg nonneg exact
  have error : 0 ≤ κ * U := mul_nonneg ((abs_nonneg _).trans adjusted) nonneg
  have stepPart : v * T ≤ v := mul_le_of_le_one_right step adjustment.2
  have upper : U * T ≤ U * rest + κ * U := by
    have scaled := mul_le_mul_of_nonneg_left (show T ≤ rest + κ by linarith) nonneg
    linarith
  have lower : U * rest - κ * U ≤ U * T := by
    have scaled := mul_le_mul_of_nonneg_left (show rest - κ ≤ T by linarith) nonneg
    linarith
  have most := mul_le_mul_of_nonneg_right quotientHigh adjustment.1
  have least := mul_le_mul_of_nonneg_right quotientLow adjustment.1
  have some : 0 ≤ U * T := mul_nonneg nonneg adjustment.1
  rw [abs_le]
  constructor <;> linarith

/-- The same on the raw values of the decimals, with the inputs scaled down by `u`. -/
theorem units_raw_error {U rest q slip stake n u κ : ℚ} (nonneg : 0 ≤ U) (unit : 0 < u)
    (slipNonneg : 0 ≤ slip) (slipMost : slip ≤ 10 ^ 18) (exact : 0 ≤ rest)
    (quotientLow : U * (10 ^ 18 - 11) / u - 1 ≤ q)
    (quotientHigh : q ≤ U * (10 ^ 18 + 12) / u + 1 / 2)
    (adjusted : |(10 ^ 18 - slip) / 10 ^ 18 - rest| ≤ κ)
    (productLow : q * (10 ^ 18 - slip) / 10 ^ 18 - 1 / 2 ≤ stake)
    (productHigh : stake ≤ q * (10 ^ 18 - slip) / 10 ^ 18 + 1 / 2)
    (roundLow : stake * u / 10 ^ 18 - 1 / 2 ≤ n) (roundHigh : n ≤ stake * u / 10 ^ 18 + 1 / 2) :
    |n - U * rest| ≤ 1 / 2 + 3 / 2 * (u / 10 ^ 18) + 12 / 10 ^ 18 * (U * rest) +
      (1 + 12 / 10 ^ 18) * (κ * U) := by
  have low := mul_le_mul_of_nonneg_right quotientLow unit.le
  have high := mul_le_mul_of_nonneg_right quotientHigh unit.le
  rw [sub_mul, div_mul_cancel₀ _ unit.ne'] at low
  rw [add_mul, div_mul_cancel₀ _ unit.ne'] at high
  have stakeLow := mul_le_mul_of_nonneg_right productLow unit.le
  have stakeHigh := mul_le_mul_of_nonneg_right productHigh unit.le
  have product : q * u / 10 ^ 18 * ((10 ^ 18 - slip) / 10 ^ 18) =
      q * (10 ^ 18 - slip) / 10 ^ 18 * u / 10 ^ 18 := by ring
  refine @units_error U rest (q * u / 10 ^ 18) ((10 ^ 18 - slip) / 10 ^ 18) (stake * u / 10 ^ 18) n
    (u / 10 ^ 18) κ nonneg (by positivity) ⟨?_, ?_⟩ exact ?_ ?_ adjusted ?_ ?_
  · exact div_nonneg (by linarith) (by norm_num)
  · rw [div_le_one (by norm_num)]
    linarith
  · linarith
  · linarith
  · rw [product, abs_le]
    constructor <;> linarith
  · rw [abs_le]
    constructor <;> linarith

variable {p R A r a u w : ℚ}

/-- The adjustment is at least the part of r a + R A in (r + R) (a + A). -/
theorem adjustment_ge (native : 0 < R) (external : 0 < A) (addedNative : 0 ≤ r)
    (addedExternal : 0 ≤ a) : (r * a + R * A) / ((r + R) * (a + A)) ≤
      1 - |R * a - r * A| / ((r + R) * (a + A)) := by
  have whole : 0 < (r + R) * (a + A) := mul_pos (by linarith) (by linarith)
  have slipped : |R * a - r * A| ≤ R * a + r * A := by
    have left := mul_nonneg native.le addedExternal
    have right := mul_nonneg addedNative external.le
    rw [abs_le]
    constructor <;> linarith
  rw [le_sub_iff_add_le, ← add_div, div_le_one whole]
  linarith

/-- With every amount between `u` and `w`, the adjustment is at least a third of their ratio. -/
theorem adjustment_low (unit : 0 < u) (native : u ≤ R) (external : u ≤ A) (addedNative : u ≤ r)
    (addedExternal : u ≤ a) (nativeMost : r ≤ w) (externalMost : a ≤ w) :
    u / (3 * w) ≤ 1 - |R * a - r * A| / ((r + R) * (a + A)) := by
  have least := @adjustment_ge R A r a (by linarith) (by linarith) (by linarith) (by linarith)
  refine le_trans ?_ least
  have nativeNonneg : 0 ≤ R := by linarith
  have externalNonneg : 0 ≤ A := by linarith
  rw [div_le_div_iff₀ (by linarith) (mul_pos (by linarith) (by linarith))]
  have externalPart : u * a ≤ A * w := mul_le_mul external externalMost (by linarith) externalNonneg
  have nativePart : u * r ≤ R * w := mul_le_mul native nativeMost (by linarith) nativeNonneg
  have first := mul_le_mul_of_nonneg_left externalPart nativeNonneg
  have second := mul_le_mul_of_nonneg_right nativePart externalNonneg
  have both : 0 ≤ r * a := mul_nonneg (by linarith) (by linarith)
  have pool : 0 ≤ R * A := mul_nonneg nativeNonneg externalNonneg
  have third := mul_le_mul_of_nonneg_right (show u ≤ w by linarith) (show 0 ≤ r * a + R * A by linarith)
  have rest : 0 ≤ w * (r * a) := mul_nonneg (by linarith) both
  linarith

/-- Then the units due are at least a quarter of that part of the units. -/
theorem due_low (unit : 0 < u) (units : u ≤ p) (native : u ≤ R) (external : u ≤ A)
    (addedNative : u ≤ r) (addedExternal : u ≤ a) (wide : A ≤ w) :
    u * (u / (4 * w)) ≤ p * (a * R + A * r) / (2 * A * R) *
      (1 - |R * a - r * A| / ((r + R) * (a + A))) := by
  have nativePositive : 0 < R := by linarith
  have externalPositive : 0 < A := by linarith
  have least := @adjustment_ge R A r a nativePositive externalPositive (by linarith) (by linarith)
  have pool : 0 < R * A := mul_pos nativePositive externalPositive
  have both : 0 ≤ r * a := mul_nonneg (by linarith) (by linarith)
  have nativePart : 0 ≤ A * r := mul_nonneg externalPositive.le (by linarith)
  have grossLow : u * R ≤ a * R := mul_le_mul_of_nonneg_right addedExternal nativePositive.le
  have gross : 0 ≤ a * R + A * r := by
    have some : 0 ≤ a * R := mul_nonneg (by linarith) nativePositive.le
    linarith
  have harmonic : u / (4 * w) ≤ (a * R + A * r) / (2 * A * R) *
      ((r * a + R * A) / ((r + R) * (a + A))) := by
    rw [div_mul_div_comm, div_le_div_iff₀ (by linarith)
      (mul_pos (by positivity) (mul_pos (by linarith) (by linarith)))]
    -- u A R is at most w G, and at most w H, for the parts G and H of the whole.
    have byGross : u * (A * R) ≤ w * (a * R + A * r) := by
      have scaled := mul_le_mul_of_nonneg_right wide (mul_nonneg unit.le nativePositive.le)
      have enlarged := mul_le_mul_of_nonneg_left (grossLow.trans (le_add_of_nonneg_right nativePart))
        (show 0 ≤ w by linarith)
      linarith
    have byPool : u * (A * R) ≤ w * (r * a + R * A) := by
      have scaled := mul_le_mul_of_nonneg_right (show u ≤ w by linarith) pool.le
      have rest := mul_nonneg (show 0 ≤ w by linarith) both
      linarith
    have first := mul_le_mul_of_nonneg_right byGross (show 0 ≤ r * a + R * A by linarith)
    have second := mul_le_mul_of_nonneg_right byPool gross
    linarith
  have positive : 0 ≤ u / (4 * w) := div_nonneg unit.le (by linarith)
  calc u * (u / (4 * w)) ≤ p * ((a * R + A * r) / (2 * A * R) *
        ((r * a + R * A) / ((r + R) * (a + A)))) := mul_le_mul units harmonic positive (by linarith)
    _ = p * (a * R + A * r) / (2 * A * R) * ((r * a + R * A) / ((r + R) * (a + A))) := by ring
    _ ≤ _ := mul_le_mul_of_nonneg_left least
        (div_nonneg (mul_nonneg (by linarith) gross) (by positivity))

end Estimates

section Ratio

variable {inputs : UnitInputs} {P R A r a stake left right share total slip num denominator q : Dec}

/-- The slip as a rational is the distance of the two cross products. -/
theorem slipped_cast (inputs : UnitInputs) : (slipped inputs : ℚ) =
    |((inputs.nativeAssetBalance.val * inputs.externalAssetAmount.val : Nat) : ℚ) -
      (inputs.nativeAssetAmount.val * inputs.externalAssetBalance.val : Nat)| := by
  unfold slipped
  generalize inputs.nativeAssetBalance.val * inputs.externalAssetAmount.val = x
  generalize inputs.nativeAssetAmount.val * inputs.externalAssetBalance.val = y
  have natural : (Nat.dist x y : Int) = |(x : Int) - y| := by
    unfold Nat.dist
    rcases abs_cases ((x : Int) - y) with ⟨same, sign⟩ | ⟨same, sign⟩ <;> omega
  exact_mod_cast natural

/-- The slip is the part of the slipped amount in the whole. -/
theorem exactAdjustment_eq (inputs : UnitInputs) :
    exactAdjustment inputs = 1 - (slipped inputs : ℚ) / whole inputs := by
  unfold exactAdjustment whole
  rw [slipped_cast]
  push_cast
  rfl

/-- A product of two scaled-down amounts in steps of 10^-18. -/
def productSteps (inputs : UnitInputs) (value : Nat) : ℚ :=
  value * 10 ^ 18 / (10 ^ inputs.minLen) ^ 2

/-- The computed slip is the quotient of a share and a total close to the exact ones, in parts `ε`
of the whole. -/
structure RatioClose (inputs : UnitInputs) (share total : Dec) (ε : ℚ) : Prop where
  fine : 0 ≤ ε
  share : |(share.raw : ℚ) - productSteps inputs (slipped inputs)| ≤
    2 * ε * productSteps inputs (whole inputs)
  total : |(total.raw : ℚ) - productSteps inputs (whole inputs)| ≤
    ε * productSteps inputs (whole inputs)

/-- Inputs reduced without an error. -/
structure ExactInputs (inputs : UnitInputs) (R A r a : Dec) : Prop where
  native : R.raw * 10 ^ inputs.minLen = inputs.nativeAssetBalance.val * 10 ^ 18
  external : A.raw * 10 ^ inputs.minLen = inputs.externalAssetBalance.val * 10 ^ 18
  addedNative : r.raw * 10 ^ inputs.minLen = inputs.nativeAssetAmount.val * 10 ^ 18
  addedExternal : a.raw * 10 ^ inputs.minLen = inputs.externalAssetAmount.val * 10 ^ 18

/-- Reductions by at most 18 digits are exact. -/
theorem reducedInputs_exact (few : inputs.minLen ≤ 18)
    (computed : reducedInputs inputs = .ok (P, R, A, r, a)) : ExactInputs inputs R A r a := by
  have divides : ∀ value, 10 ^ inputs.minLen ∣ value * 10 ^ 18 :=
    fun value => Dvd.dvd.mul_left (pow_dvd_pow 10 few) value
  simp only [reducedInputs, Result.bind_ok, Result.pure_ok, Prod.mk.injEq] at computed
  obtain ⟨units, unitsText, native, nativeText, external, externalText, addedNative,
    addedNativeText, addedExternal, addedExternalText, P, unitsReduced, R, nativeReduced, A,
    externalReduced, a, addedExternalReduced, r, addedNativeReduced, rfl, rfl, rfl, rfl, rfl⟩ :=
    computed
  exact ⟨(reduced_exact_iff (congrArg Dec.raw (Dec.ofText_ok nativeText)) nativeReduced).mpr (divides _),
    (reduced_exact_iff (congrArg Dec.raw (Dec.ofText_ok externalText)) externalReduced).mpr (divides _),
    (reduced_exact_iff (congrArg Dec.raw (Dec.ofText_ok addedNativeText)) addedNativeReduced).mpr (divides _),
    (reduced_exact_iff (congrArg Dec.raw (Dec.ofText_ok addedExternalText)) addedExternalReduced).mpr (divides _)⟩

/-- A product of two exact inputs is rounded by at most half a step. -/
theorem product_half {x y z : Dec} {X Y : Nat} (first : x.raw * 10 ^ inputs.minLen = X * 10 ^ 18)
    (second : y.raw * 10 ^ inputs.minLen = Y * 10 ^ 18) (product : x.mul y = .ok z) :
    |(z.raw : ℚ) - productSteps inputs (X * Y)| ≤ 1 / 2 := by
  have firstCast : (x.raw : ℚ) * 10 ^ inputs.minLen = X * 10 ^ 18 := by exact_mod_cast first
  have secondCast : (y.raw : ℚ) * 10 ^ inputs.minLen = Y * 10 ^ 18 := by exact_mod_cast second
  have exact : productSteps inputs (X * Y) = (x.raw : ℚ) * y.raw / 10 ^ 18 := by
    unfold productSteps
    rw [div_eq_div_iff (by positivity) (by positivity)]
    push_cast
    calc (X : ℚ) * Y * 10 ^ 18 * 10 ^ 18 = ((X : ℚ) * 10 ^ 18) * ((Y : ℚ) * 10 ^ 18) := by ring
      _ = ((x.raw : ℚ) * 10 ^ inputs.minLen) * ((y.raw : ℚ) * 10 ^ inputs.minLen) := by
        rw [firstCast, secondCast]
      _ = (x.raw : ℚ) * y.raw * (10 ^ inputs.minLen) ^ 2 := by ring
  have low := Dec.le_mul product
  have high := Dec.mul_le product
  rw [exact, abs_le]
  constructor <;> linarith

/-- A decimal that stands for a product of two inputs is within four parts of 10^18. -/
theorem Scaled.product_close {raw : Int} {value : Nat} (scaled : Scaled inputs.minLen 2 4 raw value) :
    |(raw : ℚ) - productSteps inputs value| ≤ 4 / 10 ^ 18 * productSteps inputs value := by
  have low := scaled.within.low
  have high := scaled.within.high
  rw [pow_mul] at low high
  unfold productSteps
  rw [abs_le]
  constructor <;> linarith

/-- With six digits dropped it is exact. -/
theorem Scaled.product_exact {raw : Int} {value : Nat} (scaled : Scaled inputs.minLen 2 4 raw value)
    (six : inputs.minLen = 6) : (raw : ℚ) = productSteps inputs value := by
  have same : (raw : ℚ) * 10 ^ 12 = value * 10 ^ 18 := by exact_mod_cast scaled.exact six
  unfold productSteps
  rw [six, eq_div_iff (by positivity)]
  linarith

/-- The share of two products that are close to the exact ones. -/
theorem slipped_close {first second : ℚ} (leftClose : |(left.raw : ℚ) - productSteps inputs
      (inputs.nativeAssetBalance.val * inputs.externalAssetAmount.val)| ≤ first)
    (rightClose : |(right.raw : ℚ) - productSteps inputs
      (inputs.nativeAssetAmount.val * inputs.externalAssetBalance.val)| ≤ second)
    (share_eq : share.raw = |left.raw - right.raw|) :
    |(share.raw : ℚ) - productSteps inputs (slipped inputs)| ≤ first + second := by
  have distance : productSteps inputs (slipped inputs) =
      |productSteps inputs (inputs.nativeAssetBalance.val * inputs.externalAssetAmount.val) -
        productSteps inputs (inputs.nativeAssetAmount.val * inputs.externalAssetBalance.val)| := by
    unfold productSteps
    rw [slipped_cast, ← sub_div, ← sub_mul, abs_div, abs_mul,
      abs_of_pos (show (0 : ℚ) < 10 ^ 18 by norm_num),
      abs_of_pos (show (0 : ℚ) < (10 ^ inputs.minLen) ^ 2 by positivity)]
  have triangle := abs_abs_sub_abs_le ((left.raw : ℚ) - right.raw)
    (productSteps inputs (inputs.nativeAssetBalance.val * inputs.externalAssetAmount.val) -
      productSteps inputs (inputs.nativeAssetAmount.val * inputs.externalAssetBalance.val))
  have joint := abs_sub ((left.raw : ℚ) - productSteps inputs
      (inputs.nativeAssetBalance.val * inputs.externalAssetAmount.val))
    (right.raw - productSteps inputs
      (inputs.nativeAssetAmount.val * inputs.externalAssetBalance.val))
  rw [sub_sub_sub_comm] at triangle
  rw [distance, share_eq]
  push_cast
  linarith

/-- The number of steps of a product is not negative. -/
theorem productSteps_nonneg (inputs : UnitInputs) (value : Nat) : 0 ≤ productSteps inputs value := by
  unfold productSteps
  positivity

section Regimes

variable (scaled : ScaledInputs inputs P R A r a)
  (staked : Staked P R A r a stake left right share total slip num denominator q)

include scaled staked in
/-- The total of the slip stands for (r + R) (a + A). -/
theorem total_scaled : Scaled inputs.minLen 2 4 total.raw (whole inputs) := by
  have few : (0 : ℚ) ≤ 1 ∧ (1 : ℚ) ≤ 10 := by norm_num
  have product := (scaled.addedNative.add scaled.native).mul
    (scaled.addedExternal.add scaled.external) (by decide) few few staked.whole_eq
  rwa [show (1 : ℚ) + 1 + 2 = 4 by norm_num] at product

include scaled staked in
/-- With six digits dropped every product is exact. -/
theorem ratio_six (six : inputs.minLen = 6) : RatioClose inputs share total 0 := by
  obtain ⟨leftScaled, rightScaled⟩ := scaled.products staked
  have exact : ∀ {dec : Dec} {value : Nat}, Scaled inputs.minLen 2 4 dec.raw value →
      |(dec.raw : ℚ) - productSteps inputs value| ≤ 0 := by
    intro dec value scaled
    rw [scaled.product_exact six, sub_self, abs_zero]
  refine ⟨le_rfl, ?_, ?_⟩
  · have close := slipped_close (exact leftScaled) (exact rightScaled) staked.share_eq
    simpa using close
  · simpa using exact (total_scaled scaled staked)

include staked in
/-- With up to 18 digits dropped the inputs are exact, and products of inputs with more digits than
are dropped are rounded by a small part. -/
theorem ratio_exact (exact : ExactInputs inputs R A r a)
    (large : ∀ value ∈ unitValues inputs, 10 ^ inputs.minLen ≤ value.val) :
    RatioClose inputs share total (1 / (8 * 10 ^ 18)) := by
  have leftClose := product_half exact.native exact.addedExternal staked.left_eq
  have rightClose := product_half exact.addedNative exact.external staked.right_eq
  have nativeSum : (r.raw + R.raw) * 10 ^ inputs.minLen =
      (inputs.nativeAssetAmount.val + inputs.nativeAssetBalance.val : Nat) * 10 ^ 18 := by
    rw [add_mul, exact.addedNative, exact.native]
    push_cast
    ring
  have externalSum : (a.raw + A.raw) * 10 ^ inputs.minLen =
      (inputs.externalAssetAmount.val + inputs.externalAssetBalance.val : Nat) * 10 ^ 18 := by
    rw [add_mul, exact.addedExternal, exact.external]
    push_cast
    ring
  have totalClose := product_half nativeSum externalSum staked.whole_eq
  have shareClose := slipped_close leftClose rightClose staked.share_eq
  have wholeLow : 4 * 10 ^ 18 ≤ productSteps inputs (whole inputs) := by
    have native := large inputs.nativeAssetBalance (by simp [unitValues])
    have external := large inputs.externalAssetBalance (by simp [unitValues])
    have addedNative := large inputs.nativeAssetAmount (by simp [unitValues])
    have addedExternal := large inputs.externalAssetAmount (by simp [unitValues])
    have natural : 2 * 10 ^ inputs.minLen * (2 * 10 ^ inputs.minLen) ≤ whole inputs :=
      Nat.mul_le_mul (by omega) (by omega)
    have cast : (2 : ℚ) * 10 ^ inputs.minLen * (2 * 10 ^ inputs.minLen) ≤ whole inputs := by
      exact_mod_cast natural
    unfold productSteps
    rw [le_div_iff₀ (by positivity)]
    linarith
  refine ⟨by norm_num, ?_, ?_⟩
  · linarith
  · change |(total.raw : ℚ) - productSteps inputs (whole inputs)| ≤ 1 / 2 at totalClose
    linarith

include scaled staked in
/-- In general the products are within four parts of 10^18. -/
theorem ratio_scaled : RatioClose inputs share total (4 / 10 ^ 18) := by
  obtain ⟨leftScaled, rightScaled⟩ := scaled.products staked
  have close := slipped_close leftScaled.product_close rightScaled.product_close staked.share_eq
  have part : productSteps inputs (inputs.nativeAssetBalance.val * inputs.externalAssetAmount.val) +
      productSteps inputs (inputs.nativeAssetAmount.val * inputs.externalAssetBalance.val) ≤
      productSteps inputs (whole inputs) := by
    unfold productSteps
    rw [← add_div, ← add_mul, ← Nat.cast_add]
    gcongr
    exact_mod_cast gross_le_whole inputs
  refine ⟨by norm_num, ?_, (total_scaled scaled staked).product_close⟩
  have nonneg := productSteps_nonneg inputs (whole inputs)
  linarith

include scaled staked in
/-- The computed adjustment, from a ratio that is close to the exact one. -/
theorem adjustment_close {ε : ℚ} (positive : 0 < whole inputs) (small : ε ≤ 1 / 10 ^ 17)
    (close : RatioClose inputs share total ε) :
    |(10 ^ 18 - slip.raw) / 10 ^ 18 - exactAdjustment inputs| ≤
      31 / 10 * ε + (1 / 2 + 1 / 10 ^ 18) / 10 ^ 18 := by
  have wholePositive : (0 : ℚ) < whole inputs := by exact_mod_cast positive
  have stepsPositive : 0 < productSteps inputs (whole inputs) := by
    unfold productSteps
    positivity
  have part : (slipped inputs : ℚ) / whole inputs * productSteps inputs (whole inputs) =
      productSteps inputs (slipped inputs) := by
    unfold productSteps
    field_simp
  have partMost : (slipped inputs : ℚ) / whole inputs ≤ 1 := by
    rw [div_le_one wholePositive]
    exact_mod_cast (slipped_le_gross inputs).trans (gross_le_whole inputs)
  have shareNonneg : 0 ≤ share.raw := by
    rw [staked.share_eq]
    exact abs_nonneg _
  have totalNonneg := (total_scaled scaled staked).raw_nonneg (by norm_num)
  have shareClose := close.share
  rw [← part] at shareClose
  have error := slip_error stepsPositive (by exact_mod_cast shareNonneg) (by positivity) partMost
    close.fine small shareClose close.total
    (Dec.le_quo_sharp staked.slip_eq shareNonneg totalNonneg)
    (Dec.quo_le staked.slip_eq shareNonneg totalNonneg)
  rw [exactAdjustment_eq]
  rw [abs_le] at error ⊢
  constructor <;> linarith

end Regimes

end Ratio

section Issued

variable {inputs : UnitInputs} {reduced : Dec × Dec} {units : Uint × Uint}

/-- The units before the adjustment as one fraction. -/
theorem unadjustedUnits_eq (inputs : UnitInputs) : unadjustedUnits inputs =
    ((inputs.oldPoolUnits.val * gross inputs : Nat) : ℚ) /
      (2 * (inputs.externalAssetBalance.val * inputs.nativeAssetBalance.val) : Nat) := by
  unfold unadjustedUnits gross
  push_cast
  congr 1 <;> ring

/-- The units before the adjustment are not negative. -/
theorem unadjustedUnits_nonneg (inputs : UnitInputs) : 0 ≤ unadjustedUnits inputs := by
  rw [unadjustedUnits_eq]
  positivity

/-- The adjustment is not negative. -/
theorem exactAdjustment_nonneg (inputs : UnitInputs) : 0 ≤ exactAdjustment inputs := by
  have part : (slipped inputs : ℚ) / whole inputs ≤ 1 := by
    apply div_le_one_of_le₀ _ (Nat.cast_nonneg _)
    exact_mod_cast (slipped_le_gross inputs).trans (gross_le_whole inputs)
  rw [exactAdjustment_eq]
  linarith

/-- The errors of an adjustment computed on inputs scaled down by some digits: less than a step of
10^-18 when at most 18 digits are dropped. -/
def adjustmentError (digits : Nat) : ℚ := if digits ≤ 18 then 9 / 10 ^ 19 else 13 / 10 ^ 18

/-- The denominator of the slip is positive where there are reserves. -/
theorem whole_pos (nativeSome : 0 < inputs.nativeAssetBalance.val)
    (externalSome : 0 < inputs.externalAssetBalance.val) : 0 < whole inputs :=
  Nat.mul_pos (Nat.add_pos_right _ nativeSome) (Nat.add_pos_right _ externalSome)

/-- Where more than six digits are scaled down, every value has that many. -/
theorem minLen_large (many : inputs.minLen ≠ 6) :
    ∀ value ∈ unitValues inputs, 10 ^ inputs.minLen ≤ value.val :=
  (getMinLen_spares (unitValues inputs)).resolve_left many

/-- The adjustment is computed with the error for the digits dropped. -/
theorem adjustment_within {P R A r a stake left right share total slip num denominator q : Dec}
    (nativeSome : 0 < inputs.nativeAssetBalance.val)
    (externalSome : 0 < inputs.externalAssetBalance.val)
    (reduction : reducedInputs inputs = .ok (P, R, A, r, a))
    (staked : Staked P R A r a stake left right share total slip num denominator q) :
    |(10 ^ 18 - slip.raw) / 10 ^ 18 - exactAdjustment inputs| ≤ adjustmentError inputs.minLen := by
  have scaled := reducedInputs_ok reduction
  have positive := whole_pos nativeSome externalSome
  unfold adjustmentError
  by_cases few : inputs.minLen ≤ 18
  · rw [if_pos few]
    by_cases six : inputs.minLen = 6
    · have close := adjustment_close scaled staked positive (by norm_num) (ratio_six scaled staked six)
      linarith
    · have close := adjustment_close scaled staked positive (by norm_num)
        (ratio_exact staked (reducedInputs_exact few reduction) (minLen_large six))
      linarith
  · rw [if_neg few]
    have close := adjustment_close scaled staked positive (by norm_num) (ratio_scaled scaled staked)
    linarith

/-- The issued units, from the units due by the formula on the scaled inputs. -/
theorem issued_close (nativeSome : 0 < inputs.nativeAssetBalance.val)
    (externalSome : 0 < inputs.externalAssetBalance.val) (rounded : RoundedUnits inputs reduced units) :
    |(units.2.val : ℚ) - unitsDue inputs| ≤ 1 / 2 + 3 / 2 * (10 ^ inputs.minLen / 10 ^ 18) +
      12 / 10 ^ 18 * unitsDue inputs +
      (1 + 12 / 10 ^ 18) * (adjustmentError inputs.minLen * unadjustedUnits inputs) := by
  obtain ⟨reduction, -, issued⟩ := rounded
  simp only [reducedUnits_eq, Result.bind_ok, Result.pure_ok] at reduction
  obtain ⟨⟨P, R, A, r, a⟩, reduction, stake, formula, rfl⟩ := reduction
  dsimp only at formula issued
  have scaled := reducedInputs_ok reduction
  obtain ⟨left, right, share, total, slip, num, denominator, q, staked⟩ := stakeUnitsOf_ok formula
  have few : (1 : ℚ) ≤ 10 ^ 18 := by norm_num
  obtain ⟨slipLe, -, -⟩ := staked.nonneg (scaled.units.raw_nonneg few) (scaled.native.raw_nonneg few)
    (scaled.external.raw_nonneg few) (scaled.addedNative.raw_nonneg few)
    (scaled.addedExternal.raw_nonneg few)
  have slipNonneg : 0 ≤ slip.raw := by
    apply Dec.quo_nonneg staked.slip_eq
    · rw [staked.share_eq]
      exact abs_nonneg _
    · exact (total_scaled scaled staked).raw_nonneg (by norm_num)
  have slipMost : (slip.raw : ℚ) ≤ 10 ^ 18 := by
    rw [Dec.precision_cast] at slipLe
    exact_mod_cast slipLe
  have slipLeast : (0 : ℚ) ≤ slip.raw := by exact_mod_cast slipNonneg
  obtain ⟨quotientLow, quotientHigh⟩ := scaled.quotient staked nativeSome externalSome
  rw [← unadjustedUnits_eq] at quotientLow quotientHigh
  have productLow := Dec.le_mul staked.stake_eq
  have productHigh := Dec.mul_le staked.stake_eq
  dsimp only at productLow productHigh
  push_cast at productLow productHigh
  rw [Dec.precision_rat] at productLow productHigh
  have roundLow := @le_chop (stake.raw * 10 ^ inputs.minLen) _ Dec.precision_pos
  have roundHigh := @chop_le (stake.raw * 10 ^ inputs.minLen) _ Dec.precision_pos
  rw [← issued, Dec.precision_rat] at roundLow roundHigh
  push_cast at roundLow roundHigh
  exact units_raw_error (unadjustedUnits_nonneg inputs) (by positivity) slipLeast slipMost
    (exactAdjustment_nonneg inputs) quotientLow quotientHigh
    (adjustment_within nativeSome externalSome reduction staked) productLow productHigh roundLow
    roundHigh

/-- Inputs with more digits than are dropped are due some units, and the adjustment is not small. -/
theorem due_large (short : ∀ value ∈ unitValues inputs, value.val < 10 ^ 26)
    (many : inputs.minLen ≠ 6) :
    (10 : ℚ) ^ inputs.minLen * (10 ^ inputs.minLen / (4 * 10 ^ 26)) ≤ unitsDue inputs ∧
      (10 : ℚ) ^ inputs.minLen / (3 * 10 ^ 26) ≤ exactAdjustment inputs := by
  have bounds : ∀ value ∈ unitValues inputs,
      (10 : ℚ) ^ inputs.minLen ≤ value.val ∧ (value.val : ℚ) ≤ 10 ^ 26 := by
    intro value listed
    exact ⟨by exact_mod_cast minLen_large many value listed,
      by exact_mod_cast (short value listed).le⟩
  simp only [unitValues, List.forall_mem_cons, List.not_mem_nil, false_imp_iff, implies_true,
    and_true] at bounds
  obtain ⟨⟨units, -⟩, ⟨native, -⟩, ⟨external, externalMost⟩, ⟨addedNative, addedNativeMost⟩,
    ⟨addedExternal, addedExternalMost⟩⟩ := bounds
  have unit : (0 : ℚ) < 10 ^ inputs.minLen := by positivity
  exact ⟨due_low unit units native external addedNative addedExternal externalMost,
    adjustment_low unit native external addedNative addedExternal addedNativeMost
      addedExternalMost⟩

/-- On inputs of at most 26 digits the errors are at most one unit, a part of 10^6 of the units due
and a step of the adjustment. -/
theorem issued_margin (short : ∀ value ∈ unitValues inputs, value.val < 10 ^ 26) :
    1 / 2 + 3 / 2 * (10 ^ inputs.minLen / 10 ^ 18) + 12 / 10 ^ 18 * unitsDue inputs +
      (1 + 12 / 10 ^ 18) * (adjustmentError inputs.minLen * unadjustedUnits inputs) ≤
    1 + 1 / 10 ^ 6 * unitsDue inputs + 1 / 10 ^ 18 * unadjustedUnits inputs := by
  have unadjusted := unadjustedUnits_nonneg inputs
  have due : 0 ≤ unitsDue inputs := mul_nonneg unadjusted (exactAdjustment_nonneg inputs)
  unfold adjustmentError
  by_cases few : inputs.minLen ≤ 17
  · have unit : (10 : ℚ) ^ inputs.minLen ≤ 10 ^ 17 := pow_le_pow_right₀ (by norm_num) few
    rw [if_pos (by omega)]
    generalize (10 : ℚ) ^ inputs.minLen = u at *
    linarith
  · obtain ⟨dueLow, adjustmentLow⟩ := due_large short (by omega)
    have unit : (10 : ℚ) ^ 18 ≤ 10 ^ inputs.minLen := pow_le_pow_right₀ (by norm_num) (by omega)
    have square : 10 ^ 18 * (10 : ℚ) ^ inputs.minLen ≤ 10 ^ inputs.minLen * 10 ^ inputs.minLen :=
      mul_le_mul_of_nonneg_right unit (by positivity)
    by_cases exact : inputs.minLen ≤ 18
    · rw [if_pos exact]
      generalize (10 : ℚ) ^ inputs.minLen = u at *
      linarith
    · -- The adjustment is so large that its error is a small part of the units due.
      have large : (10 : ℚ) ^ 19 ≤ 10 ^ inputs.minLen :=
        pow_le_pow_right₀ (by norm_num) (by omega)
      have part := mul_le_mul_of_nonneg_left
        (show 1 / (3 * 10 ^ 7) ≤ exactAdjustment inputs by linarith) unadjusted
      change _ ≤ unitsDue inputs at part
      rw [if_neg exact]
      generalize (10 : ℚ) ^ inputs.minLen = u at *
      linarith

end Issued

section Accuracy

variable {decimals : Int} {inputs scaled : UnitInputs} {factor : Dec × Bool}

/-- The scales of the two assets cancel. -/
theorem unadjusted_scale {p R A r a s t : ℚ} (native : 0 < s) (external : 0 < t) :
    p * (a * t * (R * s) + A * t * (r * s)) / (2 * (A * t) * (R * s)) =
      p * (a * R + A * r) / (2 * A * R) := by
  rw [show p * (a * t * (R * s) + A * t * (r * s)) = p * (a * R + A * r) * (s * t) by ring,
    show 2 * (A * t) * (R * s) = 2 * A * R * (s * t) by ring]
  exact mul_div_mul_right _ _ (mul_pos native external).ne'

/-- The slip does not depend on the scales of the two sides. -/
theorem slip_scale {R A r a s t : ℚ} (native : 0 < s) (external : 0 < t) :
    |R * s * (a * t) - r * s * (A * t)| / ((r * s + R * s) * (a * t + A * t)) =
      |R * a - r * A| / ((r + R) * (a + A)) := by
  have scale := mul_pos native external
  rw [show R * s * (a * t) - r * s * (A * t) = (R * a - r * A) * (s * t) by ring,
    show (r * s + R * s) * (a * t + A * t) = (r + R) * (a + A) * (s * t) by ring, abs_mul,
    abs_of_pos scale]
  exact mul_div_mul_right _ _ scale.ne'

/-- The formula is the same on the scaled amounts. -/
theorem unitsDue_scaled (normalization : getNormalizationFactor decimals = .ok factor)
    (scaling : inputs.normalize factor.1 factor.2 = .ok scaled) :
    unadjustedUnits scaled = unadjustedUnits inputs ∧ unitsDue scaled = unitsDue inputs := by
  obtain ⟨units, balance, externalBalance, amount, externalAmount⟩ := scaled_eq normalization scaling
  have native : (0 : ℚ) < nativeScale decimals := by exact_mod_cast nativeScale_pos decimals
  have external : (0 : ℚ) < externalScale decimals := by exact_mod_cast externalScale_pos decimals
  have unadjusted : unadjustedUnits scaled = unadjustedUnits inputs := by
    unfold unadjustedUnits
    rw [units, balance, externalBalance, amount, externalAmount]
    push_cast
    exact unadjusted_scale native external
  have adjustment : exactAdjustment scaled = exactAdjustment inputs := by
    unfold exactAdjustment
    rw [balance, externalBalance, amount, externalAmount]
    push_cast
    rw [slip_scale native external]
  refine ⟨unadjusted, ?_⟩
  unfold unitsDue
  rw [unadjusted, adjustment]

/-- The factor of amounts of at most 26 digits is computed. -/
theorem UnitsBelow.factor_computed (short : UnitsBelow (10 ^ 26) decimals inputs)
    (native : 0 < inputs.nativeAssetBalance.val) (external : 0 < inputs.externalAssetBalance.val) :
    ∃ factor, getNormalizationFactor decimals = .ok factor := by
  apply getNormalizationFactor_total
  have power : 10 ^ decimalsGap decimals < 10 ^ 26 := by
    by_cases fewer : decimals < 18
    · have scaled := short.externalAssetBalance
      rw [externalScale, if_pos fewer] at scaled
      exact (Nat.le_mul_of_pos_left _ external).trans_lt scaled
    · have scaled := short.nativeAssetBalance
      rw [nativeScale, if_neg fewer] at scaled
      exact (Nat.le_mul_of_pos_left _ native).trans_lt scaled
  exact ((Nat.pow_lt_pow_iff_right (by decide)).mp power).le

/-- The units issued follow the formula up to one unit, a part of 10^6 and a step of 10^-18 of the
slip adjustment. -/
theorem issued_units_close (native : 0 < inputs.nativeAssetBalance.val)
    (external : 0 < inputs.externalAssetBalance.val)
    (some : 0 < inputs.nativeAssetAmount.val ∨ 0 < inputs.externalAssetAmount.val)
    (short : UnitsBelow (10 ^ 26) decimals inputs) :
    ∃ factor units, getNormalizationFactor decimals = .ok factor ∧
      calculatePoolUnits inputs factor.1 factor.2 = .ok units ∧
      |(units.2.val : ℚ) - unitsDue inputs| ≤
        1 + 1 / 10 ^ 6 * unitsDue inputs + 1 / 10 ^ 18 * unadjustedUnits inputs := by
  have wide : (10 : Nat) ^ 26 ≤ 10 ^ 31 := by norm_num
  obtain ⟨factor, normalization⟩ := short.factor_computed native external
  obtain ⟨units, computed⟩ := calculatePoolUnits_total (short.mono wide) normalization native
    external some
  obtain ⟨scaled, reduced, scaling, rounded⟩ :=
    calculatePoolUnits_rounded normalization native external computed
  obtain ⟨-, nativeSome, externalSome⟩ := scaled_positive normalization native external scaling
  obtain ⟨unadjusted, due⟩ := unitsDue_scaled normalization scaling
  have close := issued_close nativeSome externalSome rounded
  have margin := issued_margin (short.values normalization scaling)
  rw [unadjusted, due] at margin
  rw [unadjusted, due] at close
  exact ⟨factor, units, normalization, computed, close.trans margin⟩

/-- A contribution of the native asset only, a tenth of the reserve. -/
theorem tenth_close : ∃ factor units, getNormalizationFactor 18 = .ok factor ∧
    calculatePoolUnits ⟨amount (10 ^ 20), amount (10 ^ 20), amount (10 ^ 20), amount (10 ^ 19),
      amount 0⟩ factor.1 factor.2 = .ok units ∧
    |(units.2.val : ℚ) - unitsDue ⟨amount (10 ^ 20), amount (10 ^ 20), amount (10 ^ 20),
        amount (10 ^ 19), amount 0⟩| ≤
      1 + 1 / 10 ^ 6 * unitsDue ⟨amount (10 ^ 20), amount (10 ^ 20), amount (10 ^ 20),
          amount (10 ^ 19), amount 0⟩ +
        1 / 10 ^ 18 * unadjustedUnits ⟨amount (10 ^ 20), amount (10 ^ 20), amount (10 ^ 20),
          amount (10 ^ 19), amount 0⟩ :=
  issued_units_close (by decide) (by decide) (by decide)
    ⟨by decide, by decide, by decide, by decide, by decide⟩

/-- A contribution of 9 10^25 to a native reserve of 10^6: nearly half of the pool's units are due,
and the adjustment of about 10^-20 rounds to zero. -/
theorem lopsided_issues_nothing : ∃ factor pool, getNormalizationFactor 18 = .ok factor ∧
    calculatePoolUnits ⟨amount (10 ^ 25), amount (10 ^ 6), amount (10 ^ 6), amount (9 * 10 ^ 25),
      amount 0⟩ factor.1 factor.2 = .ok (pool, Uint.zero) ∧
    4 * 10 ^ 24 ≤ unitsDue ⟨amount (10 ^ 25), amount (10 ^ 6), amount (10 ^ 6),
      amount (9 * 10 ^ 25), amount 0⟩ ∧
    ¬|((Uint.zero.val : Nat) : ℚ) - unitsDue ⟨amount (10 ^ 25), amount (10 ^ 6), amount (10 ^ 6),
        amount (9 * 10 ^ 25), amount 0⟩| ≤
      1 + 1 / 10 ^ 6 * unitsDue ⟨amount (10 ^ 25), amount (10 ^ 6), amount (10 ^ 6),
        amount (9 * 10 ^ 25), amount 0⟩ := by
  have due : (4 : ℚ) * 10 ^ 24 ≤ unitsDue ⟨amount (10 ^ 25), amount (10 ^ 6), amount (10 ^ 6),
      amount (9 * 10 ^ 25), amount 0⟩ := by
    norm_num [unitsDue, unadjustedUnits, exactAdjustment, amount, abs_of_nonpos]
  refine ⟨(Dec.ofInt 1, false), amount (10 ^ 25), rfl, by decide +kernel, due, ?_⟩
  generalize unitsDue _ = expected at *
  have positive : 0 ≤ expected := le_trans (by norm_num) due
  rw [Uint.zero_val, Nat.cast_zero, zero_sub, abs_neg, abs_of_nonneg positive]
  intro close
  norm_num at due close
  linarith

end Accuracy

end Akhira.Verif.Clp
