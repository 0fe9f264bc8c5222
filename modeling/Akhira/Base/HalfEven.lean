import Mathlib

/-!
# Rounding to the nearest integer, ties to even

`halfEven` divides natural numbers and rounds to the nearest integer, and `chop`
extends it to all integers through the absolute value. `NearestEven` says what the
result is without reference to the algorithm: no integer is nearer, and of two
equally near integers it is the even one. That description determines the result,
so rounding commutes with adding an integer except at a tie and an odd integer.
-/
namespace Akhira.Base

/-- Quotient of naturals rounded to the nearest integer, ties to even. -/
def halfEven (numerator denominator : Nat) : Nat :=
  let quotient := numerator / denominator
  let twice := 2 * (numerator % denominator)
  if twice < denominator then quotient
  else if denominator < twice then quotient + 1
  else if quotient % 2 = 0 then quotient else quotient + 1

/-- Signed quotient rounded to the nearest integer, ties to even: the sign is removed
before rounding and added back after it. -/
def chop (numerator : Int) (denominator : Nat) : Int :=
  if numerator < 0 then -(halfEven numerator.natAbs denominator : Int)
  else halfEven numerator.natAbs denominator

/-- A result no integer is nearer to the exact quotient than, even at a tie. -/
structure NearestEven (numerator : Int) (denominator : Nat) (result : Int) : Prop where
  /-- The result exceeds the exact quotient by at most one half. -/
  above : 2 * (denominator * result) ≤ 2 * numerator + denominator
  /-- The result falls short of the exact quotient by at most one half. -/
  below : 2 * numerator ≤ 2 * (denominator * result) + denominator
  /-- At one half above, the result is even. -/
  evenAbove : 2 * (denominator * result) = 2 * numerator + denominator → result % 2 = 0
  /-- At one half below, the result is even. -/
  evenBelow : 2 * numerator = 2 * (denominator * result) + denominator → result % 2 = 0

/-- The exact quotient lies halfway between two integers. -/
def Tie (numerator : Int) (denominator : Nat) : Prop := 2 * (numerator % denominator) = denominator

/-- Ties are decided by one remainder. -/
instance (numerator : Int) (denominator : Nat) : Decidable (Tie numerator denominator) :=
  inferInstanceAs (Decidable (_ = _))

/-- Natural rounding is nearest with ties to even. -/
theorem halfEven_nearest (numerator : Nat) {denominator : Nat} (positive : 0 < denominator) :
    NearestEven numerator denominator (halfEven numerator denominator) := by
  have division := Nat.div_add_mod numerator denominator
  have small := Nat.mod_lt numerator positive
  unfold halfEven
  simp only []
  generalize numerator / denominator = quotient at *
  generalize numerator % denominator = remainder at *
  have exact : (numerator : Int) = denominator * quotient + remainder := by
    exact_mod_cast division.symm
  have step : (denominator : Int) * (quotient + 1) = denominator * quotient + denominator := by
    ring
  split
  · constructor <;> omega
  · split
    · constructor <;> push_cast <;> rw [step] <;> omega
    · split
      · constructor <;> omega
      · constructor <;> push_cast <;> rw [step] <;> omega

/-- Removing a sign and adding it back keeps a nearest result nearest. -/
theorem NearestEven.neg {numerator : Int} {denominator : Nat} {result : Int}
    (nearest : NearestEven numerator denominator result) :
    NearestEven (-numerator) denominator (-result) := by
  obtain ⟨above, below, evenAbove, evenBelow⟩ := nearest
  have flipped : (denominator : Int) * -result = -(denominator * result) := by ring
  constructor <;> rw [flipped] <;> omega

/-- Signed rounding is nearest with ties to even. -/
theorem chop_nearest (numerator : Int) {denominator : Nat} (positive : 0 < denominator) :
    NearestEven numerator denominator (chop numerator denominator) := by
  have magnitude := halfEven_nearest numerator.natAbs positive
  unfold chop
  split
  · rename_i negative
    have value : ((numerator.natAbs : Nat) : Int) = -numerator := by omega
    rw [value] at magnitude
    simpa using magnitude.neg
  · rename_i nonnegative
    have value : ((numerator.natAbs : Nat) : Int) = numerator := by omega
    rwa [value] at magnitude

/-- The nearest integer with ties to even is unique. -/
theorem NearestEven.unique {numerator : Int} {denominator : Nat} (positive : 0 < denominator)
    {left right : Int} (first : NearestEven numerator denominator left)
    (second : NearestEven numerator denominator right) : left = right := by
  have half : (0 : Int) < denominator := by exact_mod_cast positive
  have upper : left - right ≤ 1 := by
    by_contra far
    have scaled := Int.mul_le_mul_of_nonneg_left (show (2 : Int) ≤ left - right by omega) half.le
    rw [mul_sub] at scaled
    have := first.above
    have := second.below
    omega
  have lower : right - left ≤ 1 := by
    by_contra far
    have scaled := Int.mul_le_mul_of_nonneg_left (show (2 : Int) ≤ right - left by omega) half.le
    rw [mul_sub] at scaled
    have := first.below
    have := second.above
    omega
  have cases : left = right ∨ left = right + 1 ∨ right = left + 1 := by omega
  rcases cases with same | rfl | rfl
  · exact same
  · have step : (denominator : Int) * (right + 1) = denominator * right + denominator := by ring
    have odd := first.evenAbove
    have even := second.evenBelow
    have := first.above
    have := second.below
    rw [step] at *
    omega
  · have step : (denominator : Int) * (left + 1) = denominator * left + denominator := by ring
    have odd := first.evenBelow
    have even := second.evenAbove
    have := first.below
    have := second.above
    rw [step] at *
    omega

/-- A nearest result lies one half away from the exact quotient exactly at a tie. -/
theorem NearestEven.tie_iff {numerator : Int} {denominator : Nat} (positive : 0 < denominator)
    {result : Int} (nearest : NearestEven numerator denominator result) :
    Tie numerator denominator ↔
      2 * (denominator * result) = 2 * numerator + denominator ∨
        2 * numerator = 2 * (denominator * result) + denominator := by
  have half : (0 : Int) < denominator := by exact_mod_cast positive
  have division := Int.mul_ediv_add_emod numerator denominator
  have small := Int.emod_lt_of_pos numerator half
  have nonnegative := Int.emod_nonneg numerator half.ne'
  unfold Tie
  generalize numerator % denominator = remainder at *
  generalize numerator / (denominator : Int) = quotient at *
  have above := nearest.above
  have below := nearest.below
  have gap : result - quotient = 0 ∨ result - quotient = 1 := by
    have lower : -1 < result - quotient := by
      by_contra far
      have scaled :=
        Int.mul_le_mul_of_nonneg_left (show result - quotient ≤ -1 by omega) half.le
      rw [mul_sub] at scaled
      omega
    have upper : result - quotient < 2 := by
      by_contra far
      have scaled :=
        Int.mul_le_mul_of_nonneg_left (show 2 ≤ result - quotient by omega) half.le
      rw [mul_sub] at scaled
      omega
    omega
  rcases gap with same | next
  · obtain rfl : result = quotient := by omega
    omega
  · obtain rfl : result = quotient + 1 := by omega
    have step : (denominator : Int) * (quotient + 1) = denominator * quotient + denominator := by
      ring
    rw [step] at *
    omega

/-- An exact multiple rounds to its quotient. -/
theorem chop_mul (value : Int) {denominator : Nat} (positive : 0 < denominator) :
    chop (value * denominator) denominator = value := by
  apply (chop_nearest _ positive).unique positive
  have half : (0 : Int) < denominator := by exact_mod_cast positive
  rw [mul_comm]
  constructor <;> omega

/-- Rounding commutes with adding an integer exactly away from a tie with an odd integer. -/
theorem chop_add_mul_iff (numerator shift : Int) {denominator : Nat} (positive : 0 < denominator) :
    chop (shift * denominator + numerator) denominator = shift + chop numerator denominator ↔
      ¬(Tie numerator denominator ∧ shift % 2 = 1) := by
  have plain := chop_nearest numerator positive
  have moved := chop_nearest (shift * denominator + numerator) positive
  have tied := plain.tie_iff positive
  generalize chop numerator denominator = result at *
  have expand : (denominator : Int) * (shift + result) = shift * denominator + denominator * result :=
    by ring
  constructor
  · rintro same ⟨tie, odd⟩
    rw [same] at moved
    have evenAbove := moved.evenAbove
    have evenBelow := moved.evenBelow
    have plainAbove := plain.evenAbove
    have plainBelow := plain.evenBelow
    rw [expand] at evenAbove evenBelow
    have := tied.mp tie
    omega
  · intro apart
    apply moved.unique positive
    have above := plain.above
    have below := plain.below
    have evenAbove := plain.evenAbove
    have evenBelow := plain.evenBelow
    have parity : Tie numerator denominator → shift % 2 = 0 := fun tie => by
      have : ¬ shift % 2 = 1 := fun odd => apart ⟨tie, odd⟩
      omega
    rw [tied] at parity
    constructor <;> rw [expand] <;> omega

end Akhira.Base
