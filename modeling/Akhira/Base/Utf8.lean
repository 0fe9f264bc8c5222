import Mathlib

/-!
# Texts of any bytes

A text that is held as bytes need not be UTF-8. It is read character by character, and a
byte that begins no character is passed over alone. Bytes are those of a list of characters
exactly when no byte is passed over.
-/
namespace Akhira.Base.Utf8

/-- The character that bytes begin with, which takes at most four of them. -/
def first (bytes : List UInt8) : Option Char := (bytes.take 4).toByteArray.utf8DecodeChar? 0

/-- The characters of bytes, after those that belong to the character read last. -/
def charactersFrom : Nat → List UInt8 → List (Option Char)
  | _, [] => []
  | skipped + 1, _ :: rest => charactersFrom skipped rest
  | 0, byte :: rest =>
    match first (byte :: rest) with
    | some char => some char :: charactersFrom (char.utf8Size - 1) rest
    | none => none :: charactersFrom 0 rest

/-- The characters of bytes, with `none` for a byte that begins none. -/
def characters (bytes : List UInt8) : List (Option Char) := charactersFrom 0 bytes

/-- The bytes of characters. -/
def encode (chars : List Char) : List UInt8 := chars.flatMap String.utf8EncodeChar

/-- The bytes are UTF-8. -/
def valid (bytes : List UInt8) : Bool := (characters bytes).all Option.isSome

/-- The bytes of a character begin with it. -/
theorem first_encode (char : Char) (rest : List UInt8) :
    first (String.utf8EncodeChar char ++ rest) = some char := by
  have short : (String.utf8EncodeChar char).length ≤ 4 := by
    rw [String.length_utf8EncodeChar]
    exact char.utf8Size_le_four
  rw [first, List.take_append, List.take_of_length_le short, List.toByteArray_append]
  exact ByteArray.utf8DecodeChar?_utf8EncodeChar_append

/-- Bytes that begin with a character are its bytes and others. -/
theorem first_some {bytes : List UInt8} {char : Char} (read : first bytes = some char) :
    ∃ rest, bytes = String.utf8EncodeChar char ++ rest := by
  obtain ⟨rest, split⟩ := ByteArray.exists_of_utf8DecodeChar?_eq_some read
  have lists := congrArg (fun array : ByteArray => array.data.toList) split
  have front : bytes.take 4 = String.utf8EncodeChar char ++ rest.data.toList := by
    simpa using lists
  refine ⟨rest.data.toList ++ bytes.drop 4, ?_⟩
  rw [← List.append_assoc, ← front, List.take_append_drop]

/-- The bytes of the character read last are passed over. -/
theorem charactersFrom_append (front rest : List UInt8) :
    charactersFrom front.length (front ++ rest) = characters rest := by
  induction front with
  | nil => rfl
  | cons byte front ih => exact ih

/-- A character is read first, and then those of the other bytes. -/
theorem characters_append (char : Char) (rest : List UInt8) :
    characters (String.utf8EncodeChar char ++ rest) = some char :: characters rest := by
  have length := String.length_utf8EncodeChar char
  have read := first_encode char rest
  cases bytes : String.utf8EncodeChar char with
  | nil =>
    rw [bytes] at length
    exact absurd length.symm char.utf8Size_pos.ne'
  | cons byte front =>
    rw [bytes] at length read
    rw [List.cons_append] at read ⊢
    rw [characters, charactersFrom, read, ← charactersFrom_append front rest]
    change some char :: charactersFrom (char.utf8Size - 1) _ = _
    rw [← length, List.length_cons, Nat.add_sub_cancel]

/-- Bytes of characters are read as these. -/
theorem characters_encode (chars : List Char) : characters (encode chars) = chars.map some := by
  induction chars with
  | nil => rfl
  | cons char chars ih =>
    rw [encode, List.flatMap_cons, characters_append, List.map_cons, ← ih, encode]

/-- Bytes of which none is passed over are those of the characters read. -/
theorem encode_characters {bytes : List UInt8} (whole : valid bytes = true) (default : Char) :
    encode ((characters bytes).map (Option.getD · default)) = bytes := by
  induction length : bytes.length using Nat.strong_induction_on generalizing bytes with
  | _ count ih =>
    cases bytes with
    | nil => rfl
    | cons byte rest =>
      cases read : first (byte :: rest) with
      | none => simp [valid, characters, charactersFrom, read] at whole
      | some char =>
        obtain ⟨after, split⟩ := first_some read
        rw [split] at whole length ⊢
        have shorter : after.length < count := by
          have size := String.length_utf8EncodeChar char
          have positive := char.utf8Size_pos
          rw [List.length_append] at length
          omega
        rw [valid, characters_append, List.all_cons, Bool.and_eq_true] at whole
        have tail := ih _ shorter whole.2 rfl
        rw [characters_append, List.map_cons, encode, List.flatMap_cons, Option.getD_some]
        rw [encode] at tail
        rw [tail]

/-- Characters put in the place of bytes that are passed over change the bytes. -/
theorem encode_characters_iff {bytes : List UInt8} (default : Char) :
    encode ((characters bytes).map (Option.getD · default)) = bytes ↔ valid bytes = true := by
  refine ⟨fun same => ?_, fun whole => encode_characters whole default⟩
  rw [valid, ← same, characters_encode]
  simp

end Akhira.Base.Utf8
