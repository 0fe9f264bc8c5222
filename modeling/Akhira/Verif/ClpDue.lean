import Akhira.Verif.ClpUnits

/-!
# The units due for a contribution

The formula for issued units is evaluated on inputs scaled down by a number of digits. Either six
digits are dropped and every product is exact, or every input is so large that each step costs a
relative error of 10^-18. The computed units follow the exact fraction closely enough that a
contribution due four units, or four steps of the reduced precision, is issued some.
-/
namespace Akhira.Verif.Clp

open Akhira.Base Akhira.Sdk Akhira.Clp

/-- The intermediate results of the formula for issued units. -/
structure Staked (P R A r a stake : Dec) (left right share whole slip num denominator q : Dec) :
    Prop where
  left_eq : R.mul a = .ok left
  right_eq : r.mul A = .ok right
  whole_eq : (⟨r.raw + R.raw⟩ : Dec).mul ⟨a.raw + A.raw⟩ = .ok whole
  share_eq : share.raw = |left.raw - right.raw|
  slip_eq : share.quo whole = .ok slip
  num_eq : P.mul ⟨left.raw + right.raw⟩ = .ok num
  denominator_eq : (⟨A.raw + A.raw⟩ : Dec).mul R = .ok denominator
  q_eq : num.quo denominator = .ok q
  stake_eq : q.mul ⟨Dec.precision - slip.raw⟩ = .ok stake

/-- The product of decimals does not depend on the order. -/
theorem mul_comm_dec (left right : Dec) : left.mul right = right.mul left := by
  unfold Dec.mul
  rw [mul_comm]

/-- A decimal is its number of steps. -/
theorem dec_eq {left : Dec} {raw : Int} (same : left.raw = raw) : left = ⟨raw⟩ := by
  rw [← same]

/-- The units of a stake come with all the terms they are computed from. -/
theorem stakeUnitsOf_ok {P R A r a stake : Dec} (computed : stakeUnitsOf P R A r a = .ok stake) :
    ∃ left right share whole slip num denominator q,
      Staked P R A r a stake left right share whole slip num denominator q := by
  simp only [stakeUnitsOf, Result.bind_ok] at computed
  obtain ⟨nativeTotal, nativeEq, externalTotal, externalEq, whole, wholeEq, left, leftEq, right,
    rightEq, share, shareEq, slip, slipEq, adjustment, adjustmentEq, first, firstEq, second,
    secondEq, sum, sumEq, num, numEq, double, doubleEq, denominator, denominatorEq, q, qEq,
    stakeEq⟩ := computed
  have native := dec_eq (Dec.checked_ok nativeEq)
  have external := dec_eq (Dec.checked_ok externalEq)
  have adjusted := dec_eq (Dec.checked_ok adjustmentEq)
  rw [mul_comm_dec, leftEq] at firstEq
  rw [mul_comm_dec, rightEq] at secondEq
  cases firstEq
  cases secondEq
  have total := dec_eq (Dec.checked_ok sumEq)
  have twice : double = ⟨A.raw + A.raw⟩ := by
    apply dec_eq
    have value := Dec.checked_ok doubleEq
    change double.raw = chop (2 * Dec.precision * A.raw) Dec.precision at value
    rw [value, show (2 * Dec.precision * A.raw : Int) = (A.raw + A.raw) * Dec.precision by ring,
      chop_mul _ Dec.precision_pos]
  have shared : share.raw = |left.raw - right.raw| := by
    split at shareEq
    · rename_i greater
      have more : right.raw < left.raw := by simpa [Dec.gt] using greater
      rw [Dec.checked_ok shareEq, abs_of_pos (by omega)]
    · rename_i greater
      have less : left.raw ≤ right.raw := by simpa [Dec.gt] using greater
      rw [Dec.checked_ok shareEq, abs_of_nonpos (by omega), neg_sub]
  subst native external adjusted total twice
  have one : (Dec.ofInt 1).raw = Dec.precision := one_mul _
  rw [one] at stakeEq
  exact ⟨left, right, share, whole, slip, num, denominator, q, leftEq, rightEq, wholeEq, shared,
    slipEq, numEq, denominatorEq, qEq, stakeEq⟩

section Estimates

variable {unit q share whole slip gross exactShare exactWhole : ℚ}

/-- A rounded share of a whole, both products of two inputs. -/
theorem slip_high (positive : 0 < unit) (some : 0 < exactWhole) (computed : 0 < whole)
    (nonneg : 0 ≤ exactShare)
    (grossPart : gross ≤ exactWhole) (sharePart : exactShare ≤ exactWhole)
    (shareHigh : share ≤ (exactShare * 10 ^ 18 + 4 * gross) / unit ^ 2)
    (wholeWithin : Within (10 ^ 18) 4 whole (exactWhole * 10 ^ 18 / unit ^ 2))
    (quotient : slip ≤ share * 10 ^ 18 / whole + 1 / 2) :
    slip ≤ 10 ^ 18 * (exactShare / exactWhole) + 10 := by
  have low := wholeWithin.low
  have target : share * 10 ^ 18 ≤
      (10 ^ 18 * (exactShare / exactWhole) + 19 / 2) * whole := by
    have least : exactWhole * (10 ^ 18 - 4) / unit ^ 2 ≤ whole := by
      have split : exactWhole * 10 ^ 18 / unit ^ 2 * (10 ^ 18 - 4) =
          exactWhole * (10 ^ 18 - 4) / unit ^ 2 * 10 ^ 18 := by ring
      rw [split] at low
      exact le_of_mul_le_mul_right low (by norm_num)
    have factor : 0 ≤ 10 ^ 18 * (exactShare / exactWhole) + 19 / 2 := by
      have part : 0 ≤ exactShare / exactWhole := div_nonneg nonneg some.le
      linarith
    have scaled := mul_le_mul_of_nonneg_left least factor
    have cancel : (10 ^ 18 * (exactShare / exactWhole) + 19 / 2) *
        (exactWhole * (10 ^ 18 - 4) / unit ^ 2) =
        (10 ^ 18 * exactShare + 19 / 2 * exactWhole) * (10 ^ 18 - 4) / unit ^ 2 := by
      field_simp
    have bound : (exactShare * 10 ^ 18 + 4 * gross) * 10 ^ 18 ≤
        (10 ^ 18 * exactShare + 19 / 2 * exactWhole) * (10 ^ 18 - 4) := by nlinarith
    calc share * 10 ^ 18
        ≤ (exactShare * 10 ^ 18 + 4 * gross) / unit ^ 2 * 10 ^ 18 :=
          mul_le_mul_of_nonneg_right shareHigh (by norm_num)
      _ = (exactShare * 10 ^ 18 + 4 * gross) * 10 ^ 18 / unit ^ 2 := by ring
      _ ≤ (10 ^ 18 * exactShare + 19 / 2 * exactWhole) * (10 ^ 18 - 4) / unit ^ 2 :=
          div_le_div_of_nonneg_right bound (by positivity)
      _ ≤ (10 ^ 18 * (exactShare / exactWhole) + 19 / 2) * whole := by
          rw [← cancel]
          exact scaled
  have divided := (div_le_iff₀ computed).mpr target
  linarith

variable {stake rest due : ℚ}

/-- What is issued when the exact units, `due` times the part `rest` the slip leaves, are at least
four and at least four steps of the reduced precision. -/
theorem stake_high (positive : 0 < unit) (dueNonneg : 0 ≤ due) (level : 1 ≤ 10 ^ 16 * rest)
    (part : rest ≤ 1) (four : 4 ≤ due * rest) (steps : 4 * unit ≤ due * rest * 10 ^ 18)
    (quotient : due * (10 ^ 18 - 11) / unit - 1 ≤ q) (slipLow : slip ≤ 10 ^ 18 * (1 - rest) + 10)
    (product : q * (10 ^ 18 - slip) / 10 ^ 18 - 1 / 2 ≤ stake) :
    10 ^ 18 < 2 * (stake * unit) := by
  have adjusted : 10 ^ 18 * rest / 2 ≤ 10 ^ 18 - slip := by linarith
  have bottom : 2 ≤ due * (10 ^ 18 - 11) / unit - 1 := by
    have whole : due * rest ≤ due := by nlinarith
    have enough : 3 * unit ≤ due * (10 ^ 18 - 11) := by nlinarith
    have ratio := (le_div_iff₀ positive).mpr enough
    linarith
  have low : (due * (10 ^ 18 - 11) / unit - 1) * (10 ^ 18 * rest / 2) ≤ q * (10 ^ 18 - slip) := by
    apply mul_le_mul quotient adjusted
    · linarith
    · linarith
  have issued : due * rest * (10 ^ 18 - 11) / (2 * unit) - 1 ≤ stake := by
    have expand : (due * (10 ^ 18 - 11) / unit - 1) * (10 ^ 18 * rest / 2) =
        (due * rest * (10 ^ 18 - 11) / (2 * unit) - rest / 2) * 10 ^ 18 := by
      field_simp
    rw [expand] at low
    have divided := (le_div_iff₀ (by norm_num : (0 : ℚ) < 10 ^ 18)).mpr low
    linarith
  have scaled := mul_le_mul_of_nonneg_right issued positive.le
  have expand : (due * rest * (10 ^ 18 - 11) / (2 * unit) - 1) * unit =
      due * rest * (10 ^ 18 - 11) / 2 - unit := by
    field_simp
  rw [expand] at scaled
  linarith

end Estimates

namespace Staked

variable {P R A r a stake left right share whole slip num denominator q : Dec}

/-- The slip is at most the whole, so nothing negative is issued. -/
theorem nonneg (staked : Staked P R A r a stake left right share whole slip num denominator q)
    (units : 0 ≤ P.raw) (native : 0 ≤ R.raw) (external : 0 ≤ A.raw) (addedNative : 0 ≤ r.raw)
    (addedExternal : 0 ≤ a.raw) : slip.raw ≤ Dec.precision ∧ 0 ≤ q.raw ∧ 0 ≤ stake.raw := by
  have leftNonneg := Dec.mul_nonneg staked.left_eq native addedExternal
  have rightNonneg := Dec.mul_nonneg staked.right_eq addedNative external
  have leftPart : left.raw ≤ whole.raw := Dec.mul_mono staked.left_eq staked.whole_eq
    (by dsimp only; omega) (by dsimp only; omega) (by dsimp only; omega) addedExternal
  have rightPart : right.raw ≤ whole.raw := Dec.mul_mono staked.right_eq staked.whole_eq
    (by dsimp only; omega) (by dsimp only; omega) (by dsimp only; omega) external
  have sharePart : share.raw ≤ whole.raw := by
    rw [staked.share_eq, abs_le]
    omega
  have shareNonneg : 0 ≤ share.raw := by
    rw [staked.share_eq]
    exact abs_nonneg _
  have slipLow := Dec.quo_le_one staked.slip_eq shareNonneg sharePart
  have numNonneg := Dec.mul_nonneg staked.num_eq units (by dsimp only; omega)
  have denominatorNonneg := Dec.mul_nonneg staked.denominator_eq (by dsimp only; omega) native
  have qNonneg := Dec.quo_nonneg staked.q_eq numNonneg denominatorNonneg
  exact ⟨slipLow, qNonneg, Dec.mul_nonneg staked.stake_eq qNonneg (by dsimp only; omega)⟩

end Staked

section Due

/-- Twice the value of a contribution in terms of both reserves, R a + r A. -/
def gross (inputs : UnitInputs) : Nat :=
  inputs.nativeAssetBalance.val * inputs.externalAssetAmount.val +
    inputs.nativeAssetAmount.val * inputs.externalAssetBalance.val

/-- The denominator of the slip, (r + R) (a + A). -/
def whole (inputs : UnitInputs) : Nat :=
  (inputs.nativeAssetAmount.val + inputs.nativeAssetBalance.val) *
    (inputs.externalAssetAmount.val + inputs.externalAssetBalance.val)

/-- The numerator of the slip, |R a - r A|. -/
def slipped (inputs : UnitInputs) : Nat :=
  Nat.dist (inputs.nativeAssetBalance.val * inputs.externalAssetAmount.val)
    (inputs.nativeAssetAmount.val * inputs.externalAssetBalance.val)

/-- A contribution large and level enough to be issued units: the slip leaves at least a part of
10^-16, and the exact units P (R a + r A) / (2 A R) (1 - slip) are at least four and at least four
steps of the reduced precision. -/
structure Ample (inputs : UnitInputs) : Prop where
  level : whole inputs ≤ 10 ^ 16 * (whole inputs - slipped inputs)
  four : 8 * (inputs.externalAssetBalance.val * inputs.nativeAssetBalance.val * whole inputs) ≤
    inputs.oldPoolUnits.val * gross inputs * (whole inputs - slipped inputs)
  steps : 8 * (inputs.externalAssetBalance.val * inputs.nativeAssetBalance.val * whole inputs) *
      10 ^ inputs.minLen ≤
    inputs.oldPoolUnits.val * gross inputs * (whole inputs - slipped inputs) * 10 ^ 18

/-- Whether amounts are ample is decided by comparing them. -/
instance (inputs : UnitInputs) : Decidable (Ample inputs) :=
  decidable_of_iff (_ ∧ _ ∧ _) ⟨fun ⟨level, four, steps⟩ => ⟨level, four, steps⟩,
    fun ample => ⟨ample.level, ample.four, ample.steps⟩⟩

variable {inputs : UnitInputs}

/-- The value of a contribution is at most the denominator of its slip. -/
theorem gross_le_whole (inputs : UnitInputs) : gross inputs ≤ whole inputs := by
  unfold gross whole
  nlinarith [Nat.zero_le (inputs.nativeAssetAmount.val * inputs.externalAssetAmount.val),
    Nat.zero_le (inputs.nativeAssetBalance.val * inputs.externalAssetBalance.val)]

/-- The slip is at most the value of the contribution. -/
theorem slipped_le_gross (inputs : UnitInputs) : slipped inputs ≤ gross inputs := by
  unfold slipped gross Nat.dist
  omega

/-- The reduced units of a pool, times the digits dropped, are the units. -/
theorem scaled_units {digits value : Nat} {raw : Int} (scaled : Scaled digits 1 1 raw value)
    (some : 0 < value) : (Dec.precision : Int) < 2 * (raw * 10 ^ digits) := by
  have low := scaled.within.low
  have positive : (0 : ℚ) < 10 ^ digits := by positivity
  have one : (1 : ℚ) ≤ value := by exact_mod_cast some
  rw [mul_one] at low
  have cleared : (value : ℚ) * (10 ^ 18 - 1) ≤ raw * 10 ^ digits := by
    have cancel : (value : ℚ) * 10 ^ 18 / 10 ^ digits * (10 ^ 18 - 1) =
        value * (10 ^ 18 - 1) / 10 ^ digits * 10 ^ 18 := by ring
    rw [cancel] at low
    exact (div_le_iff₀ positive).mp (le_of_mul_le_mul_right low (by norm_num))
  have large : (10 : ℚ) ^ 18 < 2 * (raw * 10 ^ digits) := by nlinarith
  rw [Dec.precision_cast]
  exact_mod_cast large

/-- The difference of two rounded products exceeds the exact one by their errors. -/
theorem share_high {digits : Nat} {left right share : Int} {x y : Nat}
    (leftScaled : Scaled digits 2 4 left x) (rightScaled : Scaled digits 2 4 right y)
    (share_eq : share = |left - right|) :
    (share : ℚ) ≤ (Nat.dist x y * 10 ^ 18 + 4 * (x + y : Nat)) / (10 ^ digits) ^ 2 := by
  have power : (10 : ℚ) ^ (digits * 2) = (10 ^ digits) ^ 2 := pow_mul _ _ _
  have unit : (0 : ℚ) < (10 ^ digits) ^ 2 := by positivity
  have clear : ∀ (value : Nat) (raw : Int), Scaled digits 2 4 raw value →
      (value : ℚ) * (10 ^ 18 - 4) ≤ raw * (10 ^ digits) ^ 2 ∧
        raw * (10 ^ digits) ^ 2 ≤ (value : ℚ) * (10 ^ 18 + 4) := by
    intro value raw scaled
    have low := scaled.within.low
    have high := scaled.within.high
    rw [power] at low high
    constructor
    · have cancel : (value : ℚ) * 10 ^ 18 / (10 ^ digits) ^ 2 * (10 ^ 18 - 4) =
          value * (10 ^ 18 - 4) / (10 ^ digits) ^ 2 * 10 ^ 18 := by ring
      rw [cancel] at low
      exact (div_le_iff₀ unit).mp (le_of_mul_le_mul_right low (by norm_num))
    · have cancel : (value : ℚ) * 10 ^ 18 / (10 ^ digits) ^ 2 * (10 ^ 18 + 4) =
          value * (10 ^ 18 + 4) / (10 ^ digits) ^ 2 * 10 ^ 18 := by ring
      rw [cancel] at high
      exact (le_div_iff₀ unit).mp (le_of_mul_le_mul_right high (by norm_num))
  obtain ⟨leftLow, leftHigh⟩ := clear x left leftScaled
  obtain ⟨rightLow, rightHigh⟩ := clear y right rightScaled
  rw [le_div_iff₀ unit, share_eq]
  have exactLeft : (x : ℚ) - y ≤ Nat.dist x y := by
    have natural : (x : Int) - y ≤ Nat.dist x y := by unfold Nat.dist; omega
    exact_mod_cast natural
  have exactRight : (y : ℚ) - x ≤ Nat.dist x y := by
    have natural : (y : Int) - x ≤ Nat.dist x y := by unfold Nat.dist; omega
    exact_mod_cast natural
  push_cast
  rcases abs_cases ((left : ℚ) - right) with ⟨same, -⟩ | ⟨same, -⟩
  · rw [same]
    linarith
  · rw [same]
    linarith

/-- The five inputs of the formula, scaled down. -/
structure ScaledInputs (inputs : UnitInputs) (P R A r a : Dec) : Prop where
  units : Scaled inputs.minLen 1 1 P.raw inputs.oldPoolUnits.val
  native : Scaled inputs.minLen 1 1 R.raw inputs.nativeAssetBalance.val
  external : Scaled inputs.minLen 1 1 A.raw inputs.externalAssetBalance.val
  addedNative : Scaled inputs.minLen 1 1 r.raw inputs.nativeAssetAmount.val
  addedExternal : Scaled inputs.minLen 1 1 a.raw inputs.externalAssetAmount.val

namespace ScaledInputs

variable {P R A r a stake left right share total slip num denominator q : Dec}
  (scaled : ScaledInputs inputs P R A r a)
  (staked : Staked P R A r a stake left right share total slip num denominator q)

include scaled staked

/-- Both cross products of the formula are within four parts of the exact ones. -/
theorem products :
    Scaled inputs.minLen 2 4 left.raw
        (inputs.nativeAssetBalance.val * inputs.externalAssetAmount.val) ∧
      Scaled inputs.minLen 2 4 right.raw
        (inputs.nativeAssetAmount.val * inputs.externalAssetBalance.val) := by
  have parts : (1 : ℚ) + 1 + 2 = 4 := by norm_num
  have few : (0 : ℚ) ≤ 1 ∧ (1 : ℚ) ≤ 10 := by norm_num
  have first := scaled.native.mul scaled.addedExternal (by decide) few few staked.left_eq
  have second := scaled.addedNative.mul scaled.external (by decide) few few staked.right_eq
  rw [parts] at first second
  exact ⟨first, second⟩

/-- The numerator and the denominator of the quotient. -/
theorem quotientParts :
    Within (10 ^ 18) 7 num.raw ((inputs.oldPoolUnits.val * gross inputs : Nat) * 10 ^ 18 /
        (10 ^ inputs.minLen) ^ 3) ∧
      Within (10 ^ 18) 4 denominator.raw
        ((2 * (inputs.externalAssetBalance.val * inputs.nativeAssetBalance.val) : Nat) * 10 ^ 18 /
          (10 ^ inputs.minLen) ^ 2) ∧
      0 ≤ num.raw ∧ 0 < denominator.raw := by
  have few : (0 : ℚ) ≤ 1 ∧ (1 : ℚ) ≤ 10 := by norm_num
  have fewFour : (0 : ℚ) ≤ 4 ∧ (4 : ℚ) ≤ 10 := by norm_num
  obtain ⟨leftScaled, rightScaled⟩ := scaled.products staked
  have numScaled := scaled.units.mul (leftScaled.add rightScaled) (by decide) few fewFour
    staked.num_eq
  have denScaled := (scaled.external.add scaled.external).mul scaled.native (by decide) few few
    staked.denominator_eq
  have denNonneg := denScaled.raw_nonneg (by norm_num)
  have doubled : (inputs.externalAssetBalance.val + inputs.externalAssetBalance.val) *
      inputs.nativeAssetBalance.val =
      2 * (inputs.externalAssetBalance.val * inputs.nativeAssetBalance.val) := by ring
  have numWithin := numScaled.within
  have denWithin := denScaled.within
  have squared : (10 : ℚ) ^ (inputs.minLen * (1 + 1)) = (10 ^ inputs.minLen) ^ 2 := pow_mul _ _ _
  have cubed : (10 : ℚ) ^ (inputs.minLen * (1 + 2)) = (10 ^ inputs.minLen) ^ 3 := pow_mul _ _ _
  have partsFour : (1 : ℚ) + 1 + 2 = 4 := by norm_num
  have partsSeven : (1 : ℚ) + 4 + 2 = 7 := by norm_num
  rw [cubed, partsSeven] at numWithin
  rw [squared, partsFour, doubled] at denWithin
  exact ⟨numWithin, denWithin, numScaled.raw_nonneg (by norm_num),
    lt_of_le_of_ne denNonneg (Ne.symm (Dec.quo_ok staked.q_eq).1)⟩

/-- The quotient is close to P (R a + r A) / (2 A R). -/
theorem quotient (nativeSome : 0 < inputs.nativeAssetBalance.val)
    (externalSome : 0 < inputs.externalAssetBalance.val) :
    ((inputs.oldPoolUnits.val * gross inputs : Nat) : ℚ) /
        (2 * (inputs.externalAssetBalance.val * inputs.nativeAssetBalance.val) : Nat) *
          (10 ^ 18 - 11) / 10 ^ inputs.minLen - 1 ≤ q.raw ∧
      q.raw ≤ ((inputs.oldPoolUnits.val * gross inputs : Nat) : ℚ) /
        (2 * (inputs.externalAssetBalance.val * inputs.nativeAssetBalance.val) : Nat) *
          (10 ^ 18 + 12) / 10 ^ inputs.minLen + 1 / 2 := by
  obtain ⟨numWithin, denWithin, numNonneg, denPositive⟩ := scaled.quotientParts staked
  have denCast : (0 : ℚ) < denominator.raw := by exact_mod_cast denPositive
  have some : (0 : ℚ) <
      (2 * (inputs.externalAssetBalance.val * inputs.nativeAssetBalance.val) : Nat) := by
    exact_mod_cast Nat.mul_pos (by decide) (Nat.mul_pos externalSome nativeSome)
  constructor
  · exact quotient_low (by positivity) some (Nat.cast_nonneg _) denCast numWithin denWithin
      (Dec.le_quo staked.q_eq numNonneg denPositive.le)
  · exact quotient_high (by positivity) some (Nat.cast_nonneg _) denCast numWithin denWithin
      (Dec.quo_le staked.q_eq numNonneg denPositive.le)

/-- The slip is close to |R a - r A| / ((r + R) (a + A)). -/
theorem slipped (some : 0 < whole inputs) :
    (slip.raw : ℚ) ≤ 10 ^ 18 * (Clp.slipped inputs / whole inputs) + 10 := by
  have few : (0 : ℚ) ≤ 1 ∧ (1 : ℚ) ≤ 10 := by norm_num
  obtain ⟨leftScaled, rightScaled⟩ := scaled.products staked
  have totalScaled := (scaled.addedNative.add scaled.native).mul
    (scaled.addedExternal.add scaled.external) (by decide) few few staked.whole_eq
  have totalNonneg := totalScaled.raw_nonneg (by norm_num)
  have shareNonneg : 0 ≤ share.raw := by
    rw [staked.share_eq]
    exact abs_nonneg _
  have high := Dec.quo_le staked.slip_eq shareNonneg totalNonneg
  have totalPositive : (0 : ℚ) < total.raw := by
    exact_mod_cast lt_of_le_of_ne totalNonneg (Ne.symm (Dec.quo_ok staked.slip_eq).1)
  have totalWithin := totalScaled.within
  have squared : (10 : ℚ) ^ (inputs.minLen * (1 + 1)) = (10 ^ inputs.minLen) ^ 2 := pow_mul _ _ _
  have parts : (1 : ℚ) + 1 + 2 = 4 := by norm_num
  rw [squared, parts] at totalWithin
  have slippedPart := (slipped_le_gross inputs).trans (gross_le_whole inputs)
  exact slip_high (by positivity) (by exact_mod_cast some) totalPositive (Nat.cast_nonneg _)
    (by exact_mod_cast gross_le_whole inputs) (by exact_mod_cast slippedPart)
    (share_high leftScaled rightScaled staked.share_eq) totalWithin high

/-- An ample contribution is issued more than half a unit. -/
theorem due (nativeSome : 0 < inputs.nativeAssetBalance.val)
    (externalSome : 0 < inputs.externalAssetBalance.val) (ample : Ample inputs) :
    (Dec.precision : Int) < 2 * (stake.raw * 10 ^ inputs.minLen) := by
  have wholePositive : 0 < whole inputs := Nat.mul_pos (by omega) (by omega)
  have wholeCast : (0 : ℚ) < whole inputs := by exact_mod_cast wholePositive
  have slippedPart := (slipped_le_gross inputs).trans (gross_le_whole inputs)
  obtain ⟨quotientLow, -⟩ := scaled.quotient staked nativeSome externalSome
  have slipHigh := scaled.slipped staked wholePositive
  have product := Dec.le_mul staked.stake_eq
  dsimp only at product
  push_cast at product
  rw [Dec.precision_rat] at product
  -- The part of the units that the slip leaves, and the exact units.
  let rest : ℚ := ((whole inputs - Clp.slipped inputs : Nat) : ℚ) / whole inputs
  let units : ℚ := ((inputs.oldPoolUnits.val * gross inputs : Nat) : ℚ) /
    (2 * (inputs.externalAssetBalance.val * inputs.nativeAssetBalance.val) : Nat)
  have slipLow : (slip.raw : ℚ) ≤ 10 ^ 18 * (1 - rest) + 10 := by
    have complement : 1 - rest = Clp.slipped inputs / whole inputs := by
      simp only [rest]
      rw [Nat.cast_sub slippedPart]
      field_simp
      ring
    rw [complement]
    exact slipHigh
  have denominator : (0 : ℚ) < (2 * (inputs.externalAssetBalance.val *
      inputs.nativeAssetBalance.val * whole inputs) : Nat) := by
    exact_mod_cast Nat.mul_pos (by decide)
      (Nat.mul_pos (Nat.mul_pos externalSome nativeSome) wholePositive)
  have exact_eq : units * rest =
      (inputs.oldPoolUnits.val * gross inputs * (whole inputs - Clp.slipped inputs) : Nat) /
        (2 * (inputs.externalAssetBalance.val * inputs.nativeAssetBalance.val * whole inputs) :
          Nat) := by
    simp only [units, rest]
    rw [div_mul_div_comm]
    push_cast
    ring
  have level : 1 ≤ 10 ^ 16 * rest := by
    rw [mul_div_assoc', le_div_iff₀ wholeCast, one_mul]
    exact_mod_cast ample.level
  have part : rest ≤ 1 := by
    rw [div_le_one wholeCast]
    exact_mod_cast Nat.sub_le _ _
  have four : 4 ≤ units * rest := by
    rw [exact_eq, le_div_iff₀ denominator]
    have natural : 4 * (2 * (inputs.externalAssetBalance.val * inputs.nativeAssetBalance.val *
        whole inputs)) ≤ inputs.oldPoolUnits.val * gross inputs *
          (whole inputs - Clp.slipped inputs) := by
      have enough := ample.four
      omega
    exact_mod_cast natural
  have steps : 4 * 10 ^ inputs.minLen ≤ units * rest * 10 ^ 18 := by
    rw [exact_eq, div_mul_eq_mul_div, le_div_iff₀ denominator]
    have natural : 4 * 10 ^ inputs.minLen * (2 * (inputs.externalAssetBalance.val *
        inputs.nativeAssetBalance.val * whole inputs)) ≤ inputs.oldPoolUnits.val * gross inputs *
          (whole inputs - Clp.slipped inputs) * 10 ^ 18 := by
      have enough := ample.steps
      linarith
    exact_mod_cast natural
  have nonneg : 0 ≤ units := div_nonneg (Nat.cast_nonneg _) (Nat.cast_nonneg _)
  have issued := stake_high (by positivity) nonneg level part four steps quotientLow slipLow product
  rw [Dec.precision_cast]
  exact_mod_cast issued

end ScaledInputs

/-- The five inputs of the formula in reduced precision, P, R, A, r and a. -/
def reducedInputs (inputs : UnitInputs) : Outcome (Dec × Dec × Dec × Dec × Dec) := do
  let P ← Dec.ofText inputs.oldPoolUnits.val
  let R ← Dec.ofText inputs.nativeAssetBalance.val
  let A ← Dec.ofText inputs.externalAssetBalance.val
  let r ← Dec.ofText inputs.nativeAssetAmount.val
  let a ← Dec.ofText inputs.externalAssetAmount.val
  let P ← reducePrecision P inputs.minLen
  let R ← reducePrecision R inputs.minLen
  let A ← reducePrecision A inputs.minLen
  let a ← reducePrecision a inputs.minLen
  let r ← reducePrecision r inputs.minLen
  pure (P, R, A, r, a)

/-- The reduced units are the inputs scaled down, and the formula on them. -/
theorem reducedUnits_eq (inputs : UnitInputs) : inputs.reducedUnits = (do
    let (P, R, A, r, a) ← reducedInputs inputs
    let stakeUnits ← stakeUnitsOf P R A r a
    pure (P, stakeUnits)) := by
  simp only [UnitInputs.reducedUnits, reducedInputs, bind_assoc, pure_bind]

/-- The inputs that are scaled down are close to the exact ones. -/
theorem reducedInputs_ok {P R A r a : Dec}
    (computed : reducedInputs inputs = .ok (P, R, A, r, a)) : ScaledInputs inputs P R A r a := by
  have spares := getMinLen_spares [inputs.oldPoolUnits, inputs.nativeAssetBalance,
    inputs.externalAssetBalance, inputs.nativeAssetAmount, inputs.externalAssetAmount]
  have spare : ∀ value ∈ [inputs.oldPoolUnits, inputs.nativeAssetBalance,
      inputs.externalAssetBalance, inputs.nativeAssetAmount, inputs.externalAssetAmount],
      inputs.minLen = 6 ∨ 10 ^ inputs.minLen ≤ value.val := by
    intro value listed
    rcases spares with six | large
    · exact .inl six
    · exact .inr (large value listed)
  simp only [reducedInputs, Result.bind_ok, Result.pure_ok, Prod.mk.injEq] at computed
  obtain ⟨units, unitsText, native, nativeText, external, externalText, addedNative,
    addedNativeText, addedExternal, addedExternalText, P, unitsReduced, R, nativeReduced, A,
    externalReduced, a, addedExternalReduced, r, addedNativeReduced, rfl, rfl, rfl, rfl, rfl⟩ :=
    computed
  exact ⟨.reduced (spare _ (by simp)) (congrArg Dec.raw (Dec.ofText_ok unitsText)) unitsReduced,
    .reduced (spare _ (by simp)) (congrArg Dec.raw (Dec.ofText_ok nativeText)) nativeReduced,
    .reduced (spare _ (by simp)) (congrArg Dec.raw (Dec.ofText_ok externalText)) externalReduced,
    .reduced (spare _ (by simp)) (congrArg Dec.raw (Dec.ofText_ok addedNativeText)) addedNativeReduced,
    .reduced (spare _ (by simp)) (congrArg Dec.raw (Dec.ofText_ok addedExternalText)) addedExternalReduced⟩

/-- The reduced units come from five scaled inputs. -/
theorem reducedUnits_ok {P stake : Dec} (computed : inputs.reducedUnits = .ok (P, stake)) :
    ∃ R A r a, ScaledInputs inputs P R A r a ∧ stakeUnitsOf P R A r a = .ok stake := by
  simp only [reducedUnits_eq, Result.bind_ok, Result.pure_ok, Prod.mk.injEq] at computed
  obtain ⟨⟨P, R, A, r, a⟩, reduced, issued, formula, rfl, rfl⟩ := computed
  exact ⟨R, A, r, a, reducedInputs_ok reduced, formula⟩

/-- A contribution to a pool with units and two reserves leaves the pool with units, and an ample
one is issued some. -/
theorem calculatePoolUnits_positive {decimals : Int} {factor : Dec × Bool} {units : Uint × Uint}
    {scaled : UnitInputs} (normalized : getNormalizationFactor decimals = .ok factor)
    (native : 0 < inputs.nativeAssetBalance.val) (external : 0 < inputs.externalAssetBalance.val)
    (held : 0 < inputs.oldPoolUnits.val)
    (scaling : inputs.normalize factor.1 factor.2 = .ok scaled)
    (computed : calculatePoolUnits inputs factor.1 factor.2 = .ok units) :
    0 < units.1.val ∧ (Ample scaled → 0 < units.2.val) := by
  obtain ⟨other, ⟨P, stake⟩, same, rounded⟩ :=
    calculatePoolUnits_rounded normalized native external computed
  rw [scaling, Except.ok.injEq] at same
  subst same
  obtain ⟨sameUnits, nativeSome, externalSome⟩ :=
    scaled_positive normalized native external scaling
  obtain ⟨R, A, r, a, inputsScaled, formula⟩ := reducedUnits_ok rounded.reduction
  obtain ⟨left, right, share, total, slip, num, denominator, q, staked⟩ := stakeUnitsOf_ok formula
  have few : (1 : ℚ) ≤ 10 ^ 18 := by norm_num
  obtain ⟨-, -, stakeNonneg⟩ := staked.nonneg (inputsScaled.units.raw_nonneg few)
    (inputsScaled.native.raw_nonneg few) (inputsScaled.external.raw_nonneg few)
    (inputsScaled.addedNative.raw_nonneg few) (inputsScaled.addedExternal.raw_nonneg few)
  constructor
  · have old := scaled_units inputsScaled.units (by rw [sameUnits]; exact held)
    have new : 0 ≤ stake.raw * 10 ^ scaled.minLen := Int.mul_nonneg stakeNonneg (by positivity)
    have some := @chop_pos ((P.raw + stake.raw) * 10 ^ scaled.minLen) _ Dec.precision_pos
      (by rw [add_mul]; omega)
    have value := rounded.pool
    dsimp only at value
    omega
  · intro ample
    have due := inputsScaled.due staked nativeSome externalSome ample
    have some := chop_pos Dec.precision_pos due
    have value := rounded.issued
    dsimp only at value
    omega

end Due

section Withdrawals

/-- What a claim of `w` basis points leaves of `L` units, when the exact remainder is more than half
a unit. -/
theorem claim_low {L w den claim : ℚ} (some : 1 ≤ w) (part : w ≤ 9999) (units : 0 ≤ L)
    (remainder : 5001 ≤ (10000 - w) * L) (positive : 0 < den)
    (denLow : 10000 * 10 ^ 18 * 10 ^ 18 / (w * 10 ^ 18) - 1 ≤ den)
    (claimHigh : claim ≤ L * 10 ^ 18 * 10 ^ 18 / den + 1 / 2) :
    10 ^ 18 < 2 * (L * 10 ^ 18 - claim) := by
  have least : 10 ^ 22 - w ≤ w * den := by
    have cancel : 10000 * 10 ^ 18 * 10 ^ 18 / (w * 10 ^ 18) = 10 ^ 22 / w := by
      field_simp
      norm_num
    rw [cancel] at denLow
    have scaled := mul_le_mul_of_nonneg_left denLow (by linarith : 0 ≤ w)
    have expand : w * (10 ^ 22 / w - 1) = 10 ^ 22 - w := by
      field_simp
    linarith
  have target : L * 10 ^ 18 * 10 ^ 18 < (L * 10 ^ 18 - 10 ^ 18 / 2 - 1 / 2) * den := by
    have one : L ≤ (10000 - w) * L := by nlinarith
    have kept : 0 ≤ L * 10 ^ 18 - 10 ^ 18 / 2 - 1 / 2 := by nlinarith
    have scaled := mul_le_mul_of_nonneg_left least kept
    have share : w * L ≤ 10000 * ((10000 - w) * L) := by nlinarith
    refine lt_of_mul_lt_mul_left ?_ (by linarith : 0 ≤ w)
    calc w * (L * 10 ^ 18 * 10 ^ 18)
        < (L * 10 ^ 18 - 10 ^ 18 / 2 - 1 / 2) * (10 ^ 22 - w) := by nlinarith
      _ ≤ (L * 10 ^ 18 - 10 ^ 18 / 2 - 1 / 2) * (w * den) := scaled
      _ = w * ((L * 10 ^ 18 - 10 ^ 18 / 2 - 1 / 2) * den) := by ring
  have divided := (div_lt_iff₀ positive).mpr target
  linarith

/-- A withdrawal that exactly leaves more than half a unit leaves some. -/
theorem lpUnitsLeft_pos {poolUnits nativeAssetBalance externalAssetBalance lpUnits : Uint}
    {wBasisPoints asymmetry : Int} {withdrawal : Withdrawal}
    (computed : calculateWithdrawal poolUnits nativeAssetBalance externalAssetBalance lpUnits
      wBasisPoints asymmetry = .ok withdrawal)
    (some : 0 < wBasisPoints) (part : wBasisPoints ≤ 10000)
    (remainder : 5000 < (10000 - wBasisPoints) * lpUnits.val) :
    0 < withdrawal.lpUnitsLeft.val := by
  simp only [calculateWithdrawal, Result.bind_ok, Result.pure_ok] at computed
  obtain ⟨native, -, external, -, units, unitsText, points, pointsText, asymmetryF, -, den, denEq,
    claim, claimEq, -, -, -, -, -, -, swap, -, remaining, remainingEq, -, -, -, -, left, leftEq, -, -,
    rfl⟩ := computed
  have unitsRaw : units.raw = lpUnits.val * 10 ^ 18 := congrArg Dec.raw (Dec.ofText_ok unitsText)
  have pointsRaw : points.raw = wBasisPoints * 10 ^ 18 := congrArg Dec.raw (Dec.ofText_ok pointsText)
  have pointsNonneg : 0 ≤ points.raw := by omega
  have unitsNonneg : 0 ≤ units.raw := by omega
  have tenThousand : (Dec.ofInt 10000).raw = 10000 * 10 ^ 18 := rfl
  have denNonneg := Dec.quo_nonneg denEq (by rw [tenThousand]; decide) pointsNonneg
  have quotientLow := Dec.le_quo denEq (by rw [tenThousand]; decide) pointsNonneg
  have quotientHigh := Dec.quo_le claimEq unitsNonneg denNonneg
  have denPositive : (0 : ℚ) < den.raw := by
    exact_mod_cast lt_of_le_of_ne denNonneg (Ne.symm (Dec.quo_ok claimEq).1)
  rw [tenThousand, pointsRaw] at quotientLow
  rw [unitsRaw] at quotientHigh
  have denLow : (10000 : ℚ) * 10 ^ 18 * 10 ^ 18 / (wBasisPoints * 10 ^ 18) - 1 ≤ den.raw := by
    exact_mod_cast quotientLow
  have claimHigh : (claim.raw : ℚ) ≤ lpUnits.val * 10 ^ 18 * 10 ^ 18 / den.raw + 1 / 2 := by
    exact_mod_cast quotientHigh
  have notAll : wBasisPoints ≤ 9999 := by
    by_contra all
    have whole : wBasisPoints = 10000 := by omega
    rw [whole] at remainder
    omega
  have atLeast : (1 : ℚ) ≤ wBasisPoints := by exact_mod_cast some
  have atMost : (wBasisPoints : ℚ) ≤ 9999 := by exact_mod_cast notAll
  have exact : (5001 : ℚ) ≤ (10000 - wBasisPoints) * lpUnits.val := by exact_mod_cast remainder
  have high : (10 : ℚ) ^ 18 < 2 * (lpUnits.val * 10 ^ 18 - claim.raw) :=
    claim_low atLeast atMost (Nat.cast_nonneg _) exact denPositive denLow claimHigh
  have remainingRaw : remaining.raw = lpUnits.val * 10 ^ 18 - claim.raw := by
    rw [Dec.checked_ok remainingEq, unitsRaw]
  have large : (Dec.precision : Int) < 2 * remaining.raw := by
    rw [remainingRaw, Dec.precision_cast]
    exact_mod_cast high
  have value := Dec.roundUint_ok leftEq
  have positive := chop_pos Dec.precision_pos large
  dsimp only
  omega

end Withdrawals

end Akhira.Verif.Clp
