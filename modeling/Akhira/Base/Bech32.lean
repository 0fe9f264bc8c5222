import Mathlib

/-!
# Texts of bytes with a checksum

A bech32 text has a readable part, the last digit one of the text as a separator, and symbols of
five bits each, of which the last six are a checksum over both parts. Bytes are regrouped into
groups of five bits for it, with zeros at the end.
-/
namespace Akhira.Base.Bech32

/-- The characters of the 32 symbols. -/
def charset : List UInt8 :=
  [113, 112, 122, 114, 121, 57, 120, 56, 103, 102, 50, 116, 118, 100, 119, 48,
    115, 51, 106, 110, 53, 52, 107, 104, 99, 101, 54, 109, 117, 97, 55, 108]

/-- The character of a symbol. -/
def character (value : Nat) : UInt8 := charset.getD value 0

/-- The symbol of a character. -/
def symbol (char : UInt8) : Option Nat := charset.idxOf? char

/-- The character `1`. -/
def separator : UInt8 := 49

section Checksum

/-- The five coefficients that the checksum of bech32 is computed with. -/
def generator : List Nat := [0x3b6a57b2, 0x26508e6d, 0x1ea119fa, 0x3d4233dd, 0x2a1462b3]

/-- One value is taken into the running checksum. -/
def polymodStep (checksum value : Nat) : Nat :=
  let top := checksum >>> 25
  let shifted := ((checksum &&& 0x1ffffff) <<< 5) ^^^ value
  generator.zipIdx.foldl
    (fun sum term => if top.testBit term.2 then sum ^^^ term.1 else sum) shifted

/-- The running checksum after all values, from one. -/
def polymod (values : List Nat) : Nat := values.foldl polymodStep 1

/-- The readable part as values: the high bits of its characters, zero, and their low bits. -/
def expand (readable : List UInt8) : List Nat :=
  readable.map (fun char => char.toNat >>> 5) ++ [0] ++ readable.map fun char => char.toNat &&& 31

/-- The six values that make the checksum of a text come out as one. -/
def checksum (readable : List UInt8) (values : List Nat) : List Nat :=
  let sum := polymod (expand readable ++ values ++ List.replicate 6 0) ^^^ 1
  (List.range 6).map fun place => (sum >>> (5 * (5 - place))) &&& 31

/-- A text is whole when its running checksum is one. -/
def verifyChecksum (readable : List UInt8) (values : List Nat) : Bool :=
  polymod (expand readable ++ values) = 1

end Checksum

section Regrouping

/-- The bits of a list of numbers of some width, the highest one first. -/
def bits (width : Nat) (values : List Nat) : List Bool :=
  values.flatMap fun value => (List.range width).map fun place => value.testBit (width - 1 - place)

/-- The number of some bits, the highest one first. -/
def number (bits : List Bool) : Nat := bits.foldl (fun value bit => 2 * value + bit.toNat) 0

/-- The groups of a width; a last group that is not full is filled up with zeros. -/
def groups (width : Nat) (bits : List Bool) : List Nat :=
  (List.range ((bits.length + width - 1) / width)).map fun group =>
    number ((List.range width).map fun place => bits.getD (width * group + place) false)

/-- Bytes as groups of five bits. -/
def toFive (bytes : List UInt8) : List Nat := groups 5 (bits 8 (bytes.map UInt8.toNat))

/-- Groups of five bits as bytes: what is left over has to be fewer than five bits, all zero. -/
def fromFive (values : List Nat) : Option (List UInt8) :=
  let all := bits 5 values
  let full := all.length / 8 * 8
  if all.length - full < 5 ∧ (all.drop full).all (! ·) then
    some ((groups 8 (all.take full)).map UInt8.ofNat)
  else none

end Regrouping

/-- The text of bytes. -/
def encode (readable bytes : List UInt8) : List UInt8 :=
  let values := toFive bytes
  readable ++ [separator] ++ (values ++ checksum readable values).map character

/-- The text in lower case, when its letters are of one case. -/
def oneCase (text : List UInt8) : Option (List UInt8) :=
  let lower := text.map fun char => if 65 ≤ char ∧ char ≤ 90 then char + 32 else char
  let upper := text.map fun char => if 97 ≤ char ∧ char ≤ 122 then char - 32 else char
  if text = lower ∨ text = upper then some lower else none

/-- The readable part and the symbols of a text, when its checksum is right. -/
def split (limit : Nat) (text : List UInt8) : Option (List UInt8 × List Nat) := do
  guard (8 ≤ text.length ∧ text.length ≤ limit)
  guard (text.all fun char => 33 ≤ char ∧ char ≤ 126)
  let text ← oneCase text
  -- the last separator ends the readable part
  let after := text.reverse.takeWhile fun char => char ≠ separator
  let readable := (text.reverse.drop (after.length + 1)).reverse
  guard (separator ∈ text ∧ readable ≠ [] ∧ 6 ≤ after.length)
  let values ← after.reverse.mapM symbol
  guard (verifyChecksum readable values)
  pure (readable, values.take (values.length - 6))

/-- The readable part and the bytes of a text. -/
def decode (limit : Nat) (text : List UInt8) : Option (List UInt8 × List UInt8) := do
  let (readable, values) ← split limit text
  let bytes ← fromFive values
  pure (readable, bytes)

/-- Every value is written with the same number of bits. -/
theorem length_bits (width : Nat) (values : List Nat) :
    (bits width values).length = width * values.length := by
  rw [bits, List.length_flatMap]
  simp only [List.length_map, List.length_range, List.map_const', List.sum_replicate, smul_eq_mul]
  exact Nat.mul_comm _ _

/-- The last group may be short, so the number of groups is rounded up. -/
theorem length_groups (width : Nat) (bits : List Bool) :
    (groups width bits).length = (bits.length + width - 1) / width := by
  rw [groups, List.length_map, List.length_range]

/-- Eight bits for each byte are regrouped into fives. -/
theorem length_toFive (bytes : List UInt8) : (toFive bytes).length = (8 * bytes.length + 4) / 5 := by
  rw [toFive, length_groups, length_bits, List.length_map]
  rfl

/-- The length of a text. -/
theorem length_encode (readable bytes : List UInt8) :
    (encode readable bytes).length = readable.length + 7 + (8 * bytes.length + 4) / 5 := by
  have six : (checksum readable (toFive bytes)).length = 6 := by
    rw [checksum, List.length_map, List.length_range]
  simp only [encode, List.length_append, List.length_map, List.length_singleton, length_toFive, six]
  omega

/-- Groups of five bits that are bytes are as many bytes as they fill. -/
theorem length_fromFive {values : List Nat} {bytes : List UInt8} (read : fromFive values = some bytes) :
    bytes.length = 5 * values.length / 8 := by
  simp only [fromFive] at read
  split at read
  · rw [← Option.some.inj read, List.length_map, length_groups, List.length_take, length_bits]
    omega
  · cases read

/-- Whole bytes are left without a rest. -/
theorem fromFive_whole {values : List Nat} {count : Nat} (whole : 5 * values.length = 8 * count) :
    ∃ bytes, fromFive values = some bytes := by
  have full : (bits 5 values).length / 8 * 8 = (bits 5 values).length := by
    rw [length_bits, whole]
    omega
  refine ⟨_, if_pos ?_⟩
  rw [full, Nat.sub_self, List.drop_length]
  exact ⟨by decide, rfl⟩

section Reading

variable {limit : Nat} {text readable : List UInt8} {values : List Nat}

/-- A guard that passes is a condition that holds. -/
theorem guard_some {condition : Prop} [Decidable condition] {done : Unit} :
    (guard condition : Option Unit) = some done ↔ condition := by
  by_cases holds : condition <;> simp [guard, holds]

/-- Reading every item gives one result for each. -/
theorem length_mapM_some {α β : Type} {read : α → Option β} {items : List α} {results : List β}
    (all : items.mapM read = some results) : results.length = items.length := by
  induction items generalizing results with
  | nil =>
    cases all
    rfl
  | cons item rest ih =>
    simp only [List.mapM_cons, Option.bind_eq_bind, Option.bind_eq_some_iff, Option.pure_def,
      Option.some.injEq] at all
    obtain ⟨first, -, later, rest_eq, rfl⟩ := all
    rw [List.length_cons, List.length_cons, ih rest_eq]

/-- A text that is read is of readable characters, and its parts make up its length. -/
theorem split_some (found : split limit text = some (readable, values)) :
    (∀ char ∈ text, 33 ≤ char ∧ char ≤ 126) ∧
      readable.length + values.length + 7 = text.length := by
  simp only [split, Option.bind_eq_bind, Option.bind_eq_some_iff, guard_some, Option.pure_def,
    Option.some.injEq, Prod.mk.injEq] at found
  obtain ⟨-, -, -, plain, lower, cased, -, ⟨separated, -, six⟩, symbols, mapped, -, -, rfl, rfl⟩ := found
  have same : lower.length = text.length := by
    simp only [oneCase] at cased
    split at cased
    · rw [← Option.some.inj cased, List.length_map]
    · cases cased
  set after := lower.reverse.takeWhile fun char => char ≠ separator with after_eq
  -- the separator is not among the characters after it
  have shorter : after.length < lower.length := by
    have part : after <+: lower.reverse := List.takeWhile_prefix _
    refine lt_of_le_of_ne (by simpa using part.length_le) fun whole => ?_
    have all : after = lower.reverse := part.eq_of_length (by simpa using whole)
    have member : separator ∈ after := by
      rw [all]
      exact List.mem_reverse.mpr separated
    simpa using List.mem_takeWhile_imp member
  have count := length_mapM_some mapped
  rw [List.length_reverse] at count
  refine ⟨fun char listed => by simpa using List.all_eq_true.mp plain char listed, ?_⟩
  rw [List.length_reverse, List.length_drop, List.length_reverse, List.length_take, count]
  omega

end Reading

end Akhira.Base.Bech32
