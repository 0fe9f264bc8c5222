import Akhira.Verif.ClpLive

/-!
# The amounts of a withdrawal

A withdrawal divides three times and rounds each quotient: the units to claim, the units of the
pool for one of them, and the reserves by that. Every rounding keeps the order, so the amounts stay
within the reserves; each of them is at most about half a unit away from the exact share.
-/
namespace Akhira.Verif.Clp

open Akhira.Base Akhira.Base.Result Akhira.Sdk Akhira.Clp

variable {env : Environment} {context : Context} {state next : State}

section Parts

variable {ratio units part : Dec} {basis : Int}

/-- Ten thousand by a number of basis points is at least one and at most ten thousand. -/
theorem ratio_bounds (some : 1 ≤ basis) (all : basis ≤ 10000)
    (divided : (Dec.ofInt 10000).quo (Dec.ofInt basis) = .ok ratio) :
    10 ^ 18 ≤ ratio.raw ∧ ratio.raw ≤ 10 ^ 22 := by
  have tenThousand : (Dec.ofInt 10000).raw = 10000 * 10 ^ 18 := rfl
  have points : (Dec.ofInt basis).raw = basis * 10 ^ 18 := rfl
  have dividend : 0 ≤ (Dec.ofInt 10000).raw := by
    rw [tenThousand]
    decide
  have divisor : 0 ≤ (Dec.ofInt basis).raw := by omega
  constructor
  · apply Dec.le_quo_of_mul_le divided dividend divisor
    rw [tenThousand, points]
    omega
  · apply Dec.quo_le_of_le_mul divided dividend divisor
    rw [tenThousand, points]
    omega

/-- A part of some units is at most the units, and at least a ten thousandth of them. -/
theorem part_bounds {least : Int} (leastNonneg : 0 ≤ least) (enough : 10000 * least ≤ units.raw)
    (ratioLow : 10 ^ 18 ≤ ratio.raw) (ratioHigh : ratio.raw ≤ 10 ^ 22)
    (divided : units.quo ratio = .ok part) : least ≤ part.raw ∧ part.raw ≤ units.raw := by
  have dividend : 0 ≤ units.raw := by omega
  have divisor : 0 ≤ ratio.raw := by omega
  constructor
  · apply Dec.le_quo_of_mul_le divided dividend divisor
    calc least * ratio.raw ≤ least * 10 ^ 22 := Int.mul_le_mul_of_nonneg_left ratioHigh leastNonneg
      _ = 10000 * least * 10 ^ 18 := by ring
      _ ≤ units.raw * 10 ^ 18 := Int.mul_le_mul_of_nonneg_right enough (by decide)
  · apply Dec.quo_le_of_le_mul divided dividend divisor
    exact Int.mul_le_mul_of_nonneg_left ratioLow dividend

/-- The pool has at least one unit for each unit of a part of it. -/
theorem perPart_low {poolUnits : Nat} {perPart : Dec} (positive : 0 < part.raw)
    (within : part.raw ≤ poolUnits * 10 ^ 18)
    (divided : (Dec.ofInt poolUnits).quo part = .ok perPart) : 10 ^ 18 ≤ perPart.raw := by
  have dividend : (Dec.ofInt poolUnits).raw = poolUnits * 10 ^ 18 := rfl
  apply Dec.le_quo_of_mul_le divided (by rw [dividend]; omega) positive.le
  rw [dividend]
  linarith

/-- A share of a balance that is divided by at least one is at most the balance. -/
theorem share_le {balance : Nat} {perPart share : Dec} (low : 10 ^ 18 ≤ perPart.raw)
    (divided : (Dec.ofInt balance).quo perPart = .ok share) :
    chop share.raw Dec.precision ≤ balance := by
  have dividend : (Dec.ofInt balance).raw = balance * 10 ^ 18 := rfl
  have high : share.raw ≤ balance * 10 ^ 18 := by
    apply Dec.quo_le_of_le_mul divided (by rw [dividend]; omega) (by omega)
    rw [dividend]
    exact Int.mul_le_mul_of_nonneg_left low (by omega)
  rw [← chop_mul (balance : Int) Dec.precision_pos]
  exact chop_mono Dec.precision_pos high

end Parts

section Withdrawal

variable {poolUnits nativeAssetBalance externalAssetBalance lpUnits : Uint}
  {wBasisPoints asymmetry : Int} {withdrawal : Withdrawal}

/-- The part of a claim that is swapped, and its share of a balance. -/
def SwapPart (poolUnits balance : Uint) (asymmetry : Int) (claim : Dec) (amount : Uint) : Prop :=
  ∃ ratio part perPart share, (Dec.ofInt 10000).quo (Dec.ofInt asymmetry).abs = .ok ratio ∧
    claim.quo ratio = .ok part ∧ (Dec.ofInt poolUnits.val).quo part = .ok perPart ∧
    (Dec.ofInt balance.val).quo perPart = .ok share ∧
    (amount.val : Int) = chop share.raw Dec.precision

/-- The quotients of a withdrawal: the units to claim, the units of the pool for each of them, and
the shares of the reserves. -/
structure Divided (poolUnits nativeAssetBalance externalAssetBalance lpUnits : Uint)
    (wBasisPoints asymmetry : Int) (withdrawal : Withdrawal)
    (denominator claim perClaim native external : Dec) : Prop where
  denominator_eq : (Dec.ofInt 10000).quo (Dec.ofInt wBasisPoints) = .ok denominator
  claim_eq : (Dec.ofInt lpUnits.val).quo denominator = .ok claim
  perClaim_eq : (Dec.ofInt poolUnits.val).quo claim = .ok perClaim
  external_eq : (Dec.ofInt externalAssetBalance.val).quo perClaim = .ok external
  native_eq : (Dec.ofInt nativeAssetBalance.val).quo perClaim = .ok native
  nativeRounded : (withdrawal.native.val : Int) = chop native.raw Dec.precision
  externalRounded : (withdrawal.external.val : Int) = chop external.raw Dec.precision
  left : (withdrawal.lpUnitsLeft.val : Int) =
    chop (lpUnits.val * 10 ^ 18 - claim.raw) Dec.precision
  nativeSwap : 0 < asymmetry →
    SwapPart poolUnits nativeAssetBalance asymmetry claim withdrawal.swapAmount
  externalSwap : asymmetry < 0 →
    SwapPart poolUnits externalAssetBalance asymmetry claim withdrawal.swapAmount

/-- A withdrawal comes with all the quotients it is computed from. -/
theorem calculateWithdrawal_ok
    (computed : calculateWithdrawal poolUnits nativeAssetBalance externalAssetBalance lpUnits
      wBasisPoints asymmetry = .ok withdrawal) :
    ∃ denominator claim perClaim native external,
      Divided poolUnits nativeAssetBalance externalAssetBalance lpUnits wBasisPoints asymmetry
        withdrawal denominator claim perClaim native external := by
  simp only [calculateWithdrawal, Result.bind_ok, Result.pure_ok] at computed
  obtain ⟨_, nativeText, _, externalText, _, unitsText, _, pointsText, _, asymmetryText,
    denominator, denominatorEq, claim, claimEq, perClaim, perClaimEq, external, externalEq, native,
    nativeEq, swap, swapEq, left, leftEq, nativeOut, nativeRound, externalOut, externalRound,
    leftOut, leftRound, swapOut, swapRound, rfl⟩ := computed
  obtain rfl := Dec.ofText_ok nativeText
  obtain rfl := Dec.ofText_ok externalText
  obtain rfl := Dec.ofText_ok unitsText
  obtain rfl := Dec.ofText_ok pointsText
  obtain rfl := Dec.ofText_ok asymmetryText
  refine ⟨denominator, claim, perClaim, native, external, denominatorEq, claimEq, perClaimEq,
    externalEq, nativeEq, Dec.roundUint_ok nativeRound, Dec.roundUint_ok externalRound, ?_,
    fun positive => ?_, fun negative => ?_⟩
  · rw [Dec.roundUint_ok leftRound, Dec.checked_ok leftEq]
    rfl
  · rw [if_neg positive.ne'] at swapEq
    simp only [Result.bind_ok, if_pos positive] at swapEq
    obtain ⟨ratio, ratioEq, part, partEq, perPart, perPartEq, share⟩ := swapEq
    exact ⟨ratio, part, perPart, swap, ratioEq, partEq, perPartEq, share,
      Dec.roundUint_ok swapRound⟩
  · rw [if_neg negative.ne] at swapEq
    simp only [Result.bind_ok, if_neg negative.not_gt] at swapEq
    obtain ⟨ratio, ratioEq, part, partEq, perPart, perPartEq, share⟩ := swapEq
    exact ⟨ratio, part, perPart, swap, ratioEq, partEq, perPartEq, share,
      Dec.roundUint_ok swapRound⟩

/-- The terms of a withdrawal: some units of the pool, some basis points of them, and an asymmetry
in basis points. -/
structure Terms (poolUnits lpUnits : Uint) (wBasisPoints asymmetry : Int) : Prop where
  some : 1 ≤ lpUnits.val
  owned : lpUnits.val ≤ poolUnits.val
  pointsLow : 1 ≤ wBasisPoints
  pointsHigh : wBasisPoints ≤ 10000
  asymmetryLow : -10000 ≤ asymmetry
  asymmetryHigh : asymmetry ≤ 10000

namespace Terms

variable (terms : Terms poolUnits lpUnits wBasisPoints asymmetry)
  {denominator claim ratio part : Dec}
include terms

/-- The quotient for the share of units is between one and ten thousand. -/
theorem denominator_bounds (divided : (Dec.ofInt 10000).quo (Dec.ofInt wBasisPoints) =
    .ok denominator) : 10 ^ 18 ≤ denominator.raw ∧ denominator.raw ≤ 10 ^ 22 :=
  ratio_bounds terms.pointsLow terms.pointsHigh divided

/-- The claim is at least a ten thousandth of a unit and at most the units of the record. -/
theorem claim_bounds
    (denominatorEq : (Dec.ofInt 10000).quo (Dec.ofInt wBasisPoints) = .ok denominator)
    (claimEq : (Dec.ofInt lpUnits.val).quo denominator = .ok claim) :
    10 ^ 14 ≤ claim.raw ∧ claim.raw ≤ lpUnits.val * 10 ^ 18 := by
  obtain ⟨low, high⟩ := terms.denominator_bounds denominatorEq
  have some := terms.some
  have units : (Dec.ofInt lpUnits.val).raw = lpUnits.val * 10 ^ 18 := rfl
  rw [← units]
  exact part_bounds (by decide) (by rw [units]; omega) low high claimEq

/-- The quotient for the asymmetry is between one and ten thousand. -/
theorem ratio_bounds (asymmetric : asymmetry ≠ 0)
    (divided : (Dec.ofInt 10000).quo (Dec.ofInt asymmetry).abs = .ok ratio) :
    10 ^ 18 ≤ ratio.raw ∧ ratio.raw ≤ 10 ^ 22 := by
  have low := terms.asymmetryLow
  have high := terms.asymmetryHigh
  have same : (Dec.ofInt asymmetry).abs = Dec.ofInt asymmetry.natAbs := by
    unfold Dec.abs Dec.ofInt
    rw [Int.natAbs_mul]
    rfl
  rw [same] at divided
  exact Clp.ratio_bounds (by omega) (by omega) divided

/-- The part of a claim to swap is not nothing and at most the claim. -/
theorem part_bounds (asymmetric : asymmetry ≠ 0) (claimLow : 10 ^ 14 ≤ claim.raw)
    (ratioEq : (Dec.ofInt 10000).quo (Dec.ofInt asymmetry).abs = .ok ratio)
    (partEq : claim.quo ratio = .ok part) : 10 ^ 10 ≤ part.raw ∧ part.raw ≤ claim.raw := by
  obtain ⟨low, high⟩ := terms.ratio_bounds asymmetric ratioEq
  exact Clp.part_bounds (by decide) (by omega) low high partEq

/-- The claim is of at most the units of the pool. -/
theorem claim_within (claimHigh : claim.raw ≤ lpUnits.val * 10 ^ 18) :
    claim.raw ≤ poolUnits.val * 10 ^ 18 := by
  have owned := terms.owned
  omega

/-- The share to swap is at most the share withdrawn. -/
theorem swap_le {balance amount : Uint} {perClaim share : Dec} (asymmetric : asymmetry ≠ 0)
    (claimLow : 10 ^ 14 ≤ claim.raw)
    (perClaimEq : (Dec.ofInt poolUnits.val).quo claim = .ok perClaim)
    (perClaimLow : 10 ^ 18 ≤ perClaim.raw)
    (shareEq : (Dec.ofInt balance.val).quo perClaim = .ok share)
    (swapped : SwapPart poolUnits balance asymmetry claim amount) :
    (amount.val : Int) ≤ chop share.raw Dec.precision := by
  obtain ⟨ratio, part, perPart, swapShare, ratioEq, partEq, perPartEq, swapEq, rounded⟩ := swapped
  obtain ⟨partLow, partHigh⟩ := terms.part_bounds asymmetric claimLow ratioEq partEq
  have units : (Dec.ofInt poolUnits.val).raw = poolUnits.val * 10 ^ 18 := rfl
  have reserve : (Dec.ofInt balance.val).raw = balance.val * 10 ^ 18 := rfl
  have more : perClaim.raw ≤ perPart.raw :=
    Dec.quo_anti perPartEq perClaimEq (by rw [units]; omega) (by omega) partHigh
  rw [rounded]
  apply chop_mono Dec.precision_pos
  exact Dec.quo_anti shareEq swapEq (by rw [reserve]; omega) (by omega) more

end Terms

/-- The amounts of a withdrawal are within what they are taken from. -/
structure InRange (nativeAssetBalance externalAssetBalance lpUnits : Uint) (asymmetry : Int)
    (withdrawal : Withdrawal) : Prop where
  native : withdrawal.native.val ≤ nativeAssetBalance.val
  external : withdrawal.external.val ≤ externalAssetBalance.val
  left : withdrawal.lpUnitsLeft.val ≤ lpUnits.val
  nativeSwap : 0 < asymmetry → withdrawal.swapAmount.val ≤ withdrawal.native.val
  externalSwap : asymmetry < 0 → withdrawal.swapAmount.val ≤ withdrawal.external.val

/-- A withdrawal takes no more than the reserves and the units of the provider. -/
theorem inRange_of_divided {denominator claim perClaim native external : Dec}
    (terms : Terms poolUnits lpUnits wBasisPoints asymmetry)
    (divided : Divided poolUnits nativeAssetBalance externalAssetBalance lpUnits wBasisPoints
      asymmetry withdrawal denominator claim perClaim native external) :
    InRange nativeAssetBalance externalAssetBalance lpUnits asymmetry withdrawal := by
  obtain ⟨claimLow, claimHigh⟩ := terms.claim_bounds divided.denominator_eq divided.claim_eq
  have perClaimLow := perPart_low (by omega) (terms.claim_within claimHigh) divided.perClaim_eq
  have nativeRounded := divided.nativeRounded
  have externalRounded := divided.externalRounded
  constructor
  case native =>
    have high := share_le perClaimLow divided.native_eq
    omega
  case external =>
    have high := share_le perClaimLow divided.external_eq
    omega
  case left =>
    have left := divided.left
    have high := @chop_mono Dec.precision (lpUnits.val * 10 ^ 18 - claim.raw)
      (lpUnits.val * Dec.precision) Dec.precision_pos (by rw [Dec.precision_cast]; omega)
    rw [chop_mul _ Dec.precision_pos] at high
    omega
  case nativeSwap =>
    intro positive
    have high := terms.swap_le positive.ne' claimLow divided.perClaim_eq perClaimLow
      divided.native_eq (divided.nativeSwap positive)
    omega
  case externalSwap =>
    intro negative
    have high := terms.swap_le negative.ne claimLow divided.perClaim_eq perClaimLow
      divided.external_eq (divided.externalSwap negative)
    omega

/-- No divisor of a withdrawal is zero. -/
theorem calculateWithdrawal_notDivision (nativeAssetBalance externalAssetBalance : Uint)
    (terms : Terms poolUnits lpUnits wBasisPoints asymmetry) :
    Blames Dec.NotDivision (calculateWithdrawal poolUnits nativeAssetBalance externalAssetBalance
      lpUnits wBasisPoints asymmetry) := by
  have text : ∀ value, Blames Dec.NotDivision (Dec.ofText value) :=
    fun value => Dec.ofText_notDivision value
  have pointsLow := terms.pointsLow
  refine .bind (text _) fun native _ => .bind (text _) fun external _ => .bind (text _)
    fun units unitsText => .bind (text _) fun points pointsText => .bind (text _)
    fun asymmetryF asymmetryText => ?_
  obtain rfl := Dec.ofText_ok unitsText
  obtain rfl := Dec.ofText_ok pointsText
  obtain rfl := Dec.ofText_ok asymmetryText
  have points : (Dec.ofInt wBasisPoints).raw = wBasisPoints * 10 ^ 18 := rfl
  refine .bind (Dec.quo_notDivision (by omega)) fun denominator denominatorEq => ?_
  have denominatorBounds := terms.denominator_bounds denominatorEq
  refine .bind (Dec.quo_notDivision (by omega)) fun claim claimEq => ?_
  obtain ⟨claimLow, claimHigh⟩ := terms.claim_bounds denominatorEq claimEq
  refine .bind (Dec.quo_notDivision (by omega)) fun perClaim perClaimEq => ?_
  have perClaimLow := perPart_low (by omega) (terms.claim_within claimHigh) perClaimEq
  refine .bind (Dec.quo_notDivision (by omega)) fun _ _ =>
    .bind (Dec.quo_notDivision (by omega)) fun _ _ => .bind ?_ fun _ _ =>
    .bind (Dec.checked_notDivision _) fun _ _ => .bind (Dec.roundUint_notDivision _) fun _ _ =>
    .bind (Dec.roundUint_notDivision _) fun _ _ => .bind (Dec.roundUint_notDivision _) fun _ _ =>
    .bind (Dec.roundUint_notDivision _) fun _ _ => .ok
  by_cases symmetric : asymmetry = 0
  · rw [if_pos symmetric]
    exact .ok
  · rw [if_neg symmetric]
    have magnitude : (Dec.ofInt asymmetry).abs.raw = (asymmetry * 10 ^ 18).natAbs := rfl
    refine .bind (Dec.quo_notDivision (by omega)) fun ratio ratioEq => ?_
    have ratioBounds := terms.ratio_bounds symmetric ratioEq
    refine .bind (Dec.quo_notDivision (by omega)) fun part partEq => ?_
    obtain ⟨partLow, partHigh⟩ := terms.part_bounds symmetric claimLow ratioEq partEq
    refine .bind (Dec.quo_notDivision (by omega)) fun perSwap perSwapEq => ?_
    have within := terms.claim_within claimHigh
    have perSwapLow := perPart_low (by omega) (partHigh.trans within) perSwapEq
    split <;> exact Dec.quo_notDivision (by omega)

/-- The subtractions that `msgServer.RemoveLiquidity` makes with the amounts succeed: from the units
and the reserves of the pool, and from the coin that is swapped. -/
structure Subtracts (poolUnits nativeAssetBalance externalAssetBalance lpUnits : Uint)
    (asymmetry : Int) (withdrawal : Withdrawal) : Prop where
  units : ∃ rest, poolUnits.sub lpUnits = .ok rest
  native : ∃ rest, nativeAssetBalance.sub withdrawal.native = .ok rest
  external : ∃ rest, externalAssetBalance.sub withdrawal.external = .ok rest
  coin : ∀ sold taken : Coin, sold.denom = taken.denom →
    taken.amount = withdrawal.swapAmount.val →
    (0 < asymmetry ∧ sold.amount = withdrawal.native.val ∨
      asymmetry < 0 ∧ sold.amount = withdrawal.external.val) → ∃ rest, sold.sub taken = .ok rest

/-- A withdrawal never divides by zero, and its amounts are within what they are taken from. -/
theorem withdrawal_in_range (poolUnits nativeAssetBalance externalAssetBalance lpUnits : Uint)
    (wBasisPoints asymmetry : Int) (terms : Terms poolUnits lpUnits wBasisPoints asymmetry) :
    Blames Dec.NotDivision (calculateWithdrawal poolUnits nativeAssetBalance externalAssetBalance
        lpUnits wBasisPoints asymmetry) ∧
      ∀ withdrawal, calculateWithdrawal poolUnits nativeAssetBalance externalAssetBalance lpUnits
          wBasisPoints asymmetry = .ok withdrawal →
        InRange nativeAssetBalance externalAssetBalance lpUnits asymmetry withdrawal ∧
          Subtracts poolUnits nativeAssetBalance externalAssetBalance lpUnits asymmetry
            withdrawal := by
  refine ⟨calculateWithdrawal_notDivision _ _ terms, fun withdrawal computed => ?_⟩
  obtain ⟨_, _, _, _, _, divided⟩ := calculateWithdrawal_ok computed
  have range := inRange_of_divided terms divided
  refine ⟨range, Uint.sub_total terms.owned, Uint.sub_total range.native,
    Uint.sub_total range.external, fun sold taken same swapped asset => ?_⟩
  apply Coin.sub_total same
  rcases asset with ⟨positive, native⟩ | ⟨negative, external⟩
  · rw [swapped, native]
    exact range.nativeSwap positive
  · rw [swapped, external]
    exact range.externalSwap negative

/-- Withdrawing a tenth of 30 of 100 units, a quarter of it to be swapped from the token. -/
theorem tenth_in_range :
    calculateWithdrawal (amount 100) (amount 1000) (amount 500) (amount 30) 1000 (-2500) =
        .ok ⟨amount 30, amount 15, amount 27, amount 4⟩ ∧
      InRange (amount 1000) (amount 500) (amount 30) (-2500)
        ⟨amount 30, amount 15, amount 27, amount 4⟩ :=
  have computed : calculateWithdrawal (amount 100) (amount 1000) (amount 500) (amount 30) 1000
      (-2500) = .ok ⟨amount 30, amount 15, amount 27, amount 4⟩ := by decide +kernel
  have range := withdrawal_in_range (amount 100) (amount 1000) (amount 500) (amount 30) 1000
    (-2500) (by constructor <;> decide)
  ⟨computed, (range.2 _ computed).1⟩

end Withdrawal

section Shares

/-- The exact share of some units in a balance. -/
def exactShare (balance units poolUnits : ℚ) : ℚ := balance * units / poolUnits

/-- Dividing by a rounded quotient is off by a unit of the last decimal, and by one for each unit of
the share. -/
theorem quotient_of_quotient {balance poolUnits claim perClaim : ℚ} (balanceNonneg : 0 ≤ balance)
    (some : 0 < poolUnits) (claimed : 0 < claim) (large : 10 ^ 18 ≤ perClaim)
    (low : poolUnits * 10 ^ 36 / claim - 1 ≤ perClaim)
    (high : perClaim ≤ poolUnits * 10 ^ 36 / claim + 1 / 2) :
    |balance * 10 ^ 36 / perClaim - balance * claim / poolUnits| ≤
      balance * claim / poolUnits / 10 ^ 18 := by
  have positive : 0 < perClaim := lt_of_lt_of_le (by norm_num) large
  have rate : 0 ≤ balance / poolUnits := div_nonneg balanceNonneg some.le
  have productLow : poolUnits * 10 ^ 36 - claim ≤ claim * perClaim := by
    have scaled := mul_le_mul_of_nonneg_left low claimed.le
    have expand : claim * (poolUnits * 10 ^ 36 / claim - 1) = poolUnits * 10 ^ 36 - claim := by
      field_simp
    linarith
  have productHigh : claim * perClaim ≤ poolUnits * 10 ^ 36 + claim := by
    have scaled := mul_le_mul_of_nonneg_left high claimed.le
    have expand : claim * (poolUnits * 10 ^ 36 / claim + 1 / 2) =
        poolUnits * 10 ^ 36 + claim / 2 := by
      field_simp
    linarith
  have whole : balance / poolUnits * (poolUnits * 10 ^ 36) = balance * 10 ^ 36 := by
    field_simp
  have share : balance * claim / poolUnits = balance / poolUnits * claim := by ring
  have error : balance / poolUnits * claim ≤
      balance / poolUnits * claim / 10 ^ 18 * perClaim := by
    have scaled := mul_le_mul_of_nonneg_left large
      (show 0 ≤ balance / poolUnits * claim / 10 ^ 18 by positivity)
    linarith
  have scaledLow := mul_le_mul_of_nonneg_left productLow rate
  have scaledHigh := mul_le_mul_of_nonneg_left productHigh rate
  rw [share, abs_le]
  constructor
  · rw [neg_le_sub_iff_le_add, ← sub_le_iff_le_add, le_div_iff₀ positive]
    linarith
  · rw [sub_le_iff_le_add, div_le_iff₀ positive]
    linarith

/-- A rounded share is half a unit away from the exact one, and little more. -/
theorem share_close {balance poolUnits : Nat} {claim perClaim share : Dec} (claimed : 0 < claim.raw)
    (within : claim.raw ≤ poolUnits * 10 ^ 18)
    (perClaimEq : (Dec.ofInt poolUnits).quo claim = .ok perClaim)
    (shareEq : (Dec.ofInt balance).quo perClaim = .ok share) :
    |(chop share.raw Dec.precision : ℚ) - exactShare balance (claim.raw / 10 ^ 18) poolUnits| ≤
      1 / 2 + (exactShare balance (claim.raw / 10 ^ 18) poolUnits + 1) / 10 ^ 18 := by
  have units : (Dec.ofInt poolUnits).raw = poolUnits * 10 ^ 18 := rfl
  have reserve : (Dec.ofInt balance).raw = balance * 10 ^ 18 := rfl
  have perClaimLow := perPart_low claimed within perClaimEq
  have low := Dec.le_quo perClaimEq (by rw [units]; omega) claimed.le
  have high := Dec.quo_le perClaimEq (by rw [units]; omega) claimed.le
  have shareLow := Dec.le_quo shareEq (by rw [reserve]; omega) (by omega)
  have shareHigh := Dec.quo_le shareEq (by rw [reserve]; omega) (by omega)
  have fold : ∀ number : Nat,
      (((number : Int) * 10 ^ 18 : Int) : ℚ) * 10 ^ 18 = number * 10 ^ 36 := by
    intro number
    push_cast
    ring
  rw [units, fold] at low high
  rw [reserve, fold] at shareLow shareHigh
  have some : (0 : ℚ) < poolUnits := by
    have : 0 < poolUnits := by omega
    exact_mod_cast this
  have balanceNonneg : (0 : ℚ) ≤ balance := Nat.cast_nonneg _
  have close := quotient_of_quotient balanceNonneg some (by exact_mod_cast claimed)
    (by exact_mod_cast perClaimLow) low high
  have roundedLow := @le_chop share.raw Dec.precision Dec.precision_pos
  have roundedHigh := @chop_le share.raw Dec.precision Dec.precision_pos
  rw [Dec.precision_rat] at roundedLow roundedHigh
  have scale : (balance : ℚ) * claim.raw / poolUnits =
      exactShare balance (claim.raw / 10 ^ 18) poolUnits * 10 ^ 18 := by
    unfold exactShare
    ring
  rw [scale, abs_le] at close
  generalize exactShare balance (claim.raw / 10 ^ 18) poolUnits = exact at *
  obtain ⟨closeLow, closeHigh⟩ := close
  rw [abs_le]
  constructor <;> linarith

end Shares

section Dilution

/-- What a share pays more than the burned units are worth is at most half a unit of the balance
and half a unit of the pool, and little more. -/
theorem paid_over_burned {poolUnits lpUnits balance amount left : Nat}
    {claim perClaim share : Dec} (claimed : 0 < claim.raw)
    (within : claim.raw ≤ lpUnits * 10 ^ 18) (owned : lpUnits ≤ poolUnits)
    (perClaimEq : (Dec.ofInt poolUnits).quo claim = .ok perClaim)
    (shareEq : (Dec.ofInt balance).quo perClaim = .ok share)
    (rounded : (amount : Int) = chop share.raw Dec.precision)
    (leftRounded : (left : Int) = chop (lpUnits * 10 ^ 18 - claim.raw) Dec.precision) :
    (amount : ℚ) * poolUnits ≤ balance * (lpUnits - left) + (balance + poolUnits) / 2 +
      (balance * lpUnits + poolUnits) / 10 ^ 18 := by
  have close := share_close claimed (by omega) perClaimEq shareEq
  have leftHigh := @chop_le (lpUnits * 10 ^ 18 - claim.raw) Dec.precision Dec.precision_pos
  rw [← rounded, abs_le] at close
  rw [← leftRounded, Dec.precision_rat] at leftHigh
  push_cast at close leftHigh
  have balanceNonneg : (0 : ℚ) ≤ balance := Nat.cast_nonneg _
  have some : (0 : ℚ) < poolUnits := by
    have : 0 < poolUnits := by omega
    exact_mod_cast this
  have unitsHigh : (claim.raw : ℚ) / 10 ^ 18 ≤ lpUnits := by
    rw [div_le_iff₀ (by norm_num)]
    exact_mod_cast within
  have burned : (claim.raw : ℚ) / 10 ^ 18 ≤ lpUnits - left + 1 / 2 := by linarith
  have worth : exactShare balance (claim.raw / 10 ^ 18) poolUnits * poolUnits =
      balance * (claim.raw / 10 ^ 18) := by
    unfold exactShare
    exact div_mul_cancel₀ _ some.ne'
  have paid := mul_le_mul_of_nonneg_right (sub_le_iff_le_add.mp close.2) some.le
  have worthBurned := mul_le_mul_of_nonneg_left burned balanceNonneg
  have worthAll := mul_le_mul_of_nonneg_left unitsHigh balanceNonneg
  generalize exactShare balance (claim.raw / 10 ^ 18) poolUnits = exact at *
  generalize (claim.raw : ℚ) / 10 ^ 18 = units at *
  linarith

/-- What a withdrawal that swaps nothing writes. -/
theorem handleRemoveLiquidity_symmetric {msg : MsgRemoveLiquidity} {pool : Pool}
    {lp : LiquidityProvider}
    (found : state.pools.get (poolKey msg.externalAsset.symbol) = some pool)
    (recorded : state.getLiquidityProvider msg.externalAsset.symbol msg.signer = some lp)
    (symmetric : msg.asymmetry.val = 0)
    (handled : state.handleRemoveLiquidity env context msg = .ok next) :
    ∃ withdrawal after, calculateWithdrawal pool.poolUnits pool.nativeAssetBalance
        pool.externalAssetBalance lp.liquidityProviderUnits msg.wBasisPoints.val 0 =
          .ok withdrawal ∧
      next.pools = state.pools.set (poolKey pool.externalAsset.symbol) after ∧
      pool.poolUnits.val + withdrawal.lpUnitsLeft.val =
        after.poolUnits.val + lp.liquidityProviderUnits.val ∧
      pool.nativeAssetBalance.val = withdrawal.native.val + after.nativeAssetBalance.val ∧
      pool.externalAssetBalance.val = withdrawal.external.val + after.externalAssetBalance.val := by
  simp only [State.handleRemoveLiquidity, Result.bind_ok, Outcome.wrapping_ok, Outcome.require_ok,
    Outcome.present_ok, getPool_ok, Uint.sub_ok, Uint.add_ok] at handled
  obtain ⟨entry, -, stored, poolFound, record, recordFound, withdrawal, computed, externalInt,
    parseExternal, nativeInt, parseNative, external, externalMade, native, nativeMade, unitsLess,
    unitsLessEq, poolUnits, poolUnitsEq, nativeLeft, nativeLeftEq, externalLeft, externalLeftEq, -,
    -, ⟨nativeOut, externalOut, finalPool⟩, chosen, removed⟩ := handled
  rw [found, Option.some.injEq] at poolFound
  rw [recorded, Option.some.injEq] at recordFound
  subst poolFound recordFound
  rw [symmetric] at computed chosen
  rw [if_neg (lt_irrefl _), if_neg (lt_irrefl _), Result.pure_ok] at chosen
  cases chosen
  obtain ⟨externalDenom, -⟩ := newCoin_parsed parseExternal externalMade
  obtain ⟨nativeDenom, -⟩ := newCoin_parsed parseNative nativeMade
  obtain ⟨-, -, written, -⟩ := removeLiquidity_ok externalDenom nativeDenom removed
  refine ⟨withdrawal, _, computed, by rw [written], ?_, nativeLeftEq, externalLeftEq⟩
  change pool.poolUnits.val + withdrawal.lpUnitsLeft.val = poolUnits.val + _
  omega

/-- The value of the remaining units falls by rounding only: by about half a unit of the reserve and
half a unit of the pool. -/
def DilutedAtMost (balance poolUnits lpUnits balanceAfter poolUnitsAfter : ℚ) : Prop :=
  balance * poolUnitsAfter ≤ balanceAfter * poolUnits + (balance + poolUnits) / 2 +
    (balance * lpUnits + poolUnits) / 10 ^ 18

/-- A withdrawal without a swap dilutes the remaining providers by its roundings only. -/
theorem withdrawal_dilution_bound (env : Environment) (context : Context) (state next : State)
    (msg : MsgRemoveLiquidity) (pool : Pool) (lp : LiquidityProvider)
    (found : state.pools.get (poolKey msg.externalAsset.symbol) = some pool)
    (asset : pool.externalAsset = msg.externalAsset)
    (recorded : state.getLiquidityProvider msg.externalAsset.symbol msg.signer = some lp)
    (terms : Terms pool.poolUnits lp.liquidityProviderUnits msg.wBasisPoints.val
      msg.asymmetry.val)
    (symmetric : msg.asymmetry.val = 0)
    (handled : state.handleRemoveLiquidity env context msg = .ok next) :
    ∃ after, next.pools.get (poolKey msg.externalAsset.symbol) = some after ∧
      DilutedAtMost pool.nativeAssetBalance.val pool.poolUnits.val lp.liquidityProviderUnits.val
        after.nativeAssetBalance.val after.poolUnits.val ∧
      DilutedAtMost pool.externalAssetBalance.val pool.poolUnits.val lp.liquidityProviderUnits.val
        after.externalAssetBalance.val after.poolUnits.val := by
  obtain ⟨withdrawal, after, computed, pools, units, native, external⟩ :=
    handleRemoveLiquidity_symmetric found recorded symmetric handled
  obtain ⟨denominator, claim, perClaim, nativeShare, externalShare, divided⟩ :=
    calculateWithdrawal_ok computed
  obtain ⟨claimLow, claimHigh⟩ := terms.claim_bounds divided.denominator_eq divided.claim_eq
  have nativePaid := paid_over_burned (by omega) claimHigh terms.owned divided.perClaim_eq
    divided.native_eq divided.nativeRounded divided.left
  have externalPaid := paid_over_burned (by omega) claimHigh terms.owned divided.perClaim_eq
    divided.external_eq divided.externalRounded divided.left
  have unitsAfter : (after.poolUnits.val : ℚ) = pool.poolUnits.val -
      (lp.liquidityProviderUnits.val - withdrawal.lpUnitsLeft.val) := by
    have cast : (pool.poolUnits.val : ℚ) + withdrawal.lpUnitsLeft.val =
        after.poolUnits.val + lp.liquidityProviderUnits.val := by exact_mod_cast units
    linarith
  have diluted : ∀ {balance amount rest : Nat}, balance = amount + rest →
      (amount : ℚ) * pool.poolUnits.val ≤ balance *
        (lp.liquidityProviderUnits.val - withdrawal.lpUnitsLeft.val) +
        (balance + pool.poolUnits.val) / 2 +
        (balance * lp.liquidityProviderUnits.val + pool.poolUnits.val) / 10 ^ 18 →
      DilutedAtMost balance pool.poolUnits.val lp.liquidityProviderUnits.val rest
        after.poolUnits.val := by
    intro balance amount rest split paid
    have kept : (rest : ℚ) = balance - amount := by
      rw [split]
      push_cast
      ring
    unfold DilutedAtMost
    rw [unitsAfter, kept]
    linarith
  refine ⟨after, ?_, diluted native nativePaid, diluted external externalPaid⟩
  rw [pools, asset, Store.get_set_same]

/-- A pool whose native reserve was tripled by a trade. -/
def tripledState : State :=
  run (deliver aliceEnvironment) aliceState
    [⟨openContext, .createPool ⟨aliceText, token, amount (10 ^ 18 + 4000), amount (10 ^ 18)⟩⟩,
      ⟨openContext, .swap ⟨aliceText, Asset.settlement, token, amount (2 * 10 ^ 18), amount 1⟩⟩]

/-- That pool. -/
def tripledPool : Pool :=
  ⟨token, amount (3 * 10 ^ 18 + 4000), amount 777777777777777481, amount (10 ^ 18 + 4000)⟩

/-- The record of its only provider. -/
def tripledRecord : LiquidityProvider := ⟨token, amount (10 ^ 18 + 4000), aliceText⟩

/-- Withdrawing one basis point. -/
def pointRemoval : MsgRemoveLiquidity :=
  ⟨aliceText, token, ⟨1, SInt.one_bounded⟩, ⟨0, SInt.zero_bounded⟩⟩

/-- The state after that withdrawal. -/
def pointRemoved : State :=
  run (deliver aliceEnvironment) tripledState [⟨openContext, .removeLiquidity pointRemoval⟩]

/-- A removal of one basis point dilutes those who stay by rounding only. -/
theorem point_dilution :
    ∃ after, pointRemoved.pools.get (poolKey token.symbol) = some after ∧
      DilutedAtMost tripledPool.nativeAssetBalance.val tripledPool.poolUnits.val
        tripledRecord.liquidityProviderUnits.val after.nativeAssetBalance.val
        after.poolUnits.val ∧
      DilutedAtMost tripledPool.externalAssetBalance.val tripledPool.poolUnits.val
        tripledRecord.liquidityProviderUnits.val after.externalAssetBalance.val
        after.poolUnits.val :=
  have accepted := step_of_isOk (show (deliver aliceEnvironment tripledState
    ⟨openContext, .removeLiquidity pointRemoval⟩).isOk = true by decide +kernel)
  withdrawal_dilution_bound aliceEnvironment openContext tripledState pointRemoved pointRemoval
    tripledPool tripledRecord (by decide +kernel) rfl (by decide +kernel)
    (by constructor <;> decide) rfl (deliver_ok accepted).2.2

/-- The claim of a ten thousandth of the pool burns its whole units only, and is paid in full. -/
theorem point_dilutes :
    tripledState.pools.get (poolKey token.symbol) = some tripledPool ∧
      tripledState.getLiquidityProvider token.symbol aliceText = some tripledRecord ∧
      tripledState.handleRemoveLiquidity aliceEnvironment openContext pointRemoval =
        .ok pointRemoved ∧
      ∃ after, pointRemoved.pools.get (poolKey token.symbol) = some after ∧
        after.nativeAssetBalance.val * tripledPool.poolUnits.val <
          tripledPool.nativeAssetBalance.val * after.poolUnits.val ∧
        after.externalAssetBalance.val * tripledPool.poolUnits.val <
          tripledPool.externalAssetBalance.val * after.poolUnits.val := by
  have accepted := step_of_isOk (show (deliver aliceEnvironment tripledState
    ⟨openContext, .removeLiquidity pointRemoval⟩).isOk = true by decide +kernel)
  refine ⟨by decide +kernel, by decide +kernel, (deliver_ok accepted).2.2,
    ⟨token, amount 2999700000000004000, amount 777699999999999703, amount 999900000000004000⟩,
    by decide +kernel, by decide +kernel, by decide +kernel⟩

end Dilution

end Akhira.Verif.Clp
