import Akhira.Base.HalfEven

/-!
# Errors of rounded arithmetic

How far a rounded quotient is from the exact one, and how relative errors, counted in parts
of a scale, grow under sums, products and one more rounding.
-/
namespace Akhira.Base

section Absolute

variable {numerator : Int} {denominator : Nat}

/-- Rounding exceeds the exact quotient by at most one half. -/
theorem chop_le (positive : 0 < denominator) :
    (chop numerator denominator : ℚ) ≤ numerator / denominator + 1 / 2 := by
  have above := (chop_nearest numerator positive).above
  have scale : (0 : ℚ) < denominator := by exact_mod_cast positive
  have cast : 2 * ((denominator : ℚ) * chop numerator denominator) ≤
      2 * numerator + denominator := by exact_mod_cast above
  have expand : ((numerator : ℚ) / denominator + 1 / 2) * denominator =
      numerator + denominator / 2 := by field_simp
  refine le_of_mul_le_mul_right ?_ scale
  rw [expand]
  linarith

/-- Rounding falls short of the exact quotient by at most one half. -/
theorem le_chop (positive : 0 < denominator) :
    (numerator : ℚ) / denominator - 1 / 2 ≤ chop numerator denominator := by
  have below := (chop_nearest numerator positive).below
  have scale : (0 : ℚ) < denominator := by exact_mod_cast positive
  have cast : 2 * (numerator : ℚ) ≤
      2 * ((denominator : ℚ) * chop numerator denominator) + denominator := by
    exact_mod_cast below
  have expand : ((numerator : ℚ) / denominator - 1 / 2) * denominator =
      numerator - denominator / 2 := by field_simp
  refine le_of_mul_le_mul_right ?_ scale
  rw [expand]
  linarith

/-- Rounding keeps the order. -/
theorem chop_mono {left right : Int} (positive : 0 < denominator) (ordered : left ≤ right) :
    chop left denominator ≤ chop right denominator := by
  have first := (chop_nearest left positive).above
  have second := (chop_nearest right positive).below
  have scale : (0 : Int) < denominator := by exact_mod_cast positive
  by_contra crossed
  have gap : chop right denominator + 1 ≤ chop left denominator := by omega
  have scaled := Int.mul_le_mul_of_nonneg_left gap scale.le
  rw [mul_add, mul_one] at scaled
  have same : left = right := by omega
  rw [same] at gap
  omega

/-- Rounding keeps what is not negative so. -/
theorem chop_nonneg (positive : 0 < denominator) (nonnegative : 0 ≤ numerator) :
    0 ≤ chop numerator denominator := by
  have zero : chop 0 denominator = 0 := by
    have multiple := chop_mul 0 positive
    rwa [zero_mul] at multiple
  rw [← zero]
  exact chop_mono positive nonnegative

/-- More than one half rounds to something. -/
theorem chop_pos (positive : 0 < denominator) (large : (denominator : Int) < 2 * numerator) :
    0 < chop numerator denominator := by
  have below := (chop_nearest numerator positive).below
  have scale : (0 : Int) < denominator := by exact_mod_cast positive
  by_contra none
  have product := Int.mul_nonpos_of_nonneg_of_nonpos scale.le (not_lt.mp none)
  omega

end Absolute

/-- A computed value within some parts of `scale` of the exact one. -/
structure Within (scale parts computed exact : ℚ) : Prop where
  low : exact * (scale - parts) ≤ computed * scale
  high : computed * scale ≤ exact * (scale + parts)

namespace Within

variable {scale parts first second left right leftExact rightExact computed exact : ℚ}

/-- An exact result is within any number of parts. -/
theorem of_eq (nonnegative : 0 ≤ exact) (some : 0 ≤ parts) (same : computed = exact) :
    Within scale parts computed exact := by
  have small := mul_nonneg nonnegative some
  rw [same]
  constructor <;> nlinarith

/-- The distances of two terms carry over to their sum. -/
theorem add (leftWithin : Within scale parts left leftExact)
    (rightWithin : Within scale parts right rightExact) :
    Within scale parts (left + right) (leftExact + rightExact) := by
  have low := add_le_add leftWithin.low rightWithin.low
  have high := add_le_add leftWithin.high rightWithin.high
  constructor <;> nlinarith

/-- A computed value is not negative when it is within less than the whole scale. -/
theorem nonneg (positive : 0 < scale) (few : parts ≤ scale) (nonnegative : 0 ≤ exact)
    (within : Within scale parts computed exact) : 0 ≤ computed := by
  have least := mul_nonneg nonnegative (sub_nonneg.mpr few)
  have scaled := least.trans within.low
  exact nonneg_of_mul_nonneg_left scaled positive

/-- The errors of two factors add up, and one more part covers their product. -/
theorem mul (positive : 0 < scale) (leftFew : first ≤ scale) (rightFew : second ≤ scale)
    (leftSome : 0 ≤ first) (rightSome : 0 ≤ second) (small : first * second ≤ scale)
    (leftNonneg : 0 ≤ leftExact) (rightNonneg : 0 ≤ rightExact)
    (leftWithin : Within scale first left leftExact)
    (rightWithin : Within scale second right rightExact) :
    Within scale (first + second + 1) (left * right) (leftExact * rightExact) := by
  have exactNonneg := mul_nonneg leftNonneg rightNonneg
  have computedLeft := leftWithin.nonneg positive leftFew leftNonneg
  have computedRight := rightWithin.nonneg positive rightFew rightNonneg
  have corner := mul_nonneg leftSome rightSome
  have lowProduct : leftExact * (scale - first) * (rightExact * (scale - second)) ≤
      left * scale * (right * scale) :=
    mul_le_mul leftWithin.low rightWithin.low
      (mul_nonneg rightNonneg (sub_nonneg.mpr rightFew)) (mul_nonneg computedLeft positive.le)
  have highProduct : left * scale * (right * scale) ≤
      leftExact * (scale + first) * (rightExact * (scale + second)) :=
    mul_le_mul leftWithin.high rightWithin.high (mul_nonneg computedRight positive.le)
      (mul_nonneg leftNonneg (by linarith))
  have cornerHigh : (scale + first) * (scale + second) ≤ (scale + (first + second + 1)) * scale := by
    nlinarith
  have cornerLow : (scale - (first + second + 1)) * scale ≤ (scale - first) * (scale - second) := by
    nlinarith
  have scaledHigh := mul_le_mul_of_nonneg_left cornerHigh exactNonneg
  have scaledLow := mul_le_mul_of_nonneg_left cornerLow exactNonneg
  constructor
  · refine le_of_mul_le_mul_right ?_ positive
    calc leftExact * rightExact * (scale - (first + second + 1)) * scale
        = leftExact * rightExact * ((scale - (first + second + 1)) * scale) := by ring
      _ ≤ leftExact * rightExact * ((scale - first) * (scale - second)) := scaledLow
      _ = leftExact * (scale - first) * (rightExact * (scale - second)) := by ring
      _ ≤ left * scale * (right * scale) := lowProduct
      _ = left * right * scale * scale := by ring
  · refine le_of_mul_le_mul_right ?_ positive
    calc left * right * scale * scale
        = left * scale * (right * scale) := by ring
      _ ≤ leftExact * (scale + first) * (rightExact * (scale + second)) := highProduct
      _ = leftExact * rightExact * ((scale + first) * (scale + second)) := by ring
      _ ≤ leftExact * rightExact * ((scale + (first + second + 1)) * scale) := scaledHigh
      _ = leftExact * rightExact * (scale + (first + second + 1)) * scale := by ring

/-- Rounding a value of at least the scale costs at most one part. -/
theorem rounded (large : scale ≤ exact) (positive : 0 < scale)
    (within : Within scale parts computed exact) (below : computed - 1 ≤ right)
    (above : right ≤ computed + 1) : Within scale (parts + 1) right exact := by
  have low := within.low
  have high := within.high
  have lowRight := mul_le_mul_of_nonneg_right below positive.le
  have highRight := mul_le_mul_of_nonneg_right above positive.le
  constructor <;> nlinarith

end Within

end Akhira.Base
