import Mathlib

/-!
# Hexadecimal digits

Digits are written in lower case and read in either.
-/
namespace Akhira.Base

/-- The value of a hexadecimal digit of either case. -/
def hexValue (char : Char) : Option Nat :=
  if '0' ≤ char ∧ char ≤ '9' then some (char.toNat - '0'.toNat)
  else if 'a' ≤ char ∧ char ≤ 'f' then some (char.toNat - 'a'.toNat + 10)
  else if 'A' ≤ char ∧ char ≤ 'F' then some (char.toNat - 'A'.toNat + 10)
  else none

/-- A digit as `hex.Encode` writes it. -/
def hexDigit (value : Nat) : Char := "0123456789abcdef".toList.getD value '0'

/-- `hex.Encode`. -/
def hexEncode (bytes : List UInt8) : List Char :=
  bytes.flatMap fun byte => [hexDigit (byte.toNat / 16), hexDigit (byte.toNat % 16)]

/-- A digit is read back as the value it was written for. -/
theorem hexValue_hexDigit {value : Nat} (small : value < 16) :
    hexValue (hexDigit value) = some value := by
  have all : ∀ value < 16, hexValue (hexDigit value) = some value := by decide
  exact all value small

/-- A byte is written as its high digit and its low digit. -/
theorem hexEncode_cons (byte : UInt8) (rest : List UInt8) : hexEncode (byte :: rest) =
    hexDigit (byte.toNat / 16) :: hexDigit (byte.toNat % 16) :: hexEncode rest := rfl

/-- The two digits of a byte. -/
theorem hexValue_byte (byte : UInt8) :
    hexValue (hexDigit (byte.toNat / 16)) = some (byte.toNat / 16) ∧
      hexValue (hexDigit (byte.toNat % 16)) = some (byte.toNat % 16) := by
  have small := byte.toNat_lt
  exact ⟨hexValue_hexDigit (by omega), hexValue_hexDigit (by omega)⟩

end Akhira.Base
