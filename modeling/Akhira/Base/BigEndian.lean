import Mathlib

/-!
# Numbers as bytes

A number written in a fixed count of bytes, most significant first, and read back. What
is read back is the number modulo the range of the count, so numbers in range are told
apart by their bytes.
-/
namespace Akhira.Base

/-- The lowest `width` bytes of a number, most significant first. -/
def bigEndian : Nat → Nat → List UInt8
  | 0, _ => []
  | width + 1, value => bigEndian width (value / 256) ++ [UInt8.ofNat (value % 256)]

/-- The number that bytes stand for, most significant first. -/
def fromBytes (bytes : List UInt8) : Nat :=
  bytes.foldl (fun value byte => value * 256 + byte.toNat) 0

/-- A number takes as many bytes as it is given. -/
@[simp] theorem length_bigEndian (width value : Nat) : (bigEndian width value).length = width := by
  induction width generalizing value with
  | zero => rfl
  | succ width ih => rw [bigEndian, List.length_append, ih, List.length_singleton]

/-- Reading back gives the number modulo the range. -/
theorem fromBytes_bigEndian (width value : Nat) :
    fromBytes (bigEndian width value) = value % 256 ^ width := by
  induction width generalizing value with
  | zero => exact (Nat.mod_one value).symm
  | succ width ih =>
    have byte : (UInt8.ofNat (value % 256)).toNat = value % 256 := by
      rw [UInt8.toNat_ofNat']
      omega
    calc fromBytes (bigEndian (width + 1) value)
        = fromBytes (bigEndian width (value / 256)) * 256 + value % 256 := by
          rw [bigEndian, fromBytes, List.foldl_append, List.foldl_cons, List.foldl_nil, byte]
          rfl
      _ = value % 256 + 256 * (value / 256 % 256 ^ width) := by rw [ih]; ring
      _ = value % 256 ^ (width + 1) := by rw [pow_succ', Nat.mod_mul]

/-- Numbers in range are equal when their bytes are. -/
theorem bigEndian_injective {width left right : Nat} (leftFits : left < 256 ^ width)
    (rightFits : right < 256 ^ width) (same : bigEndian width left = bigEndian width right) :
    left = right := by
  have read := congrArg fromBytes same
  rwa [fromBytes_bigEndian, fromBytes_bigEndian, Nat.mod_eq_of_lt leftFits,
    Nat.mod_eq_of_lt rightFits] at read

end Akhira.Base
