import Akhira.Base.Hex

/-!
# JSON objects of texts and numbers

Objects as `encoding/json` writes and reads them, for members that are texts or integers.
A text is written from the characters of a Go string, where a byte that begins no character
is written as the escape of U+FFFD; control characters, quotes, `<`, `>`, `&` and the two
line separators are escaped. What is read from a written object is what was written, with
U+FFFD where a byte begins no character.
-/
namespace Akhira.Base.Json

/-- The character that takes the place of what is no character. -/
def replacement : Char := '\ufffd'

/-- The mark around a text. -/
def quoteMark : Char := '\x22'

/-- The mark that starts an escape. -/
def backslash : Char := '\x5c'

section Writing

/-- An escape by code. -/
def unicodeEscape (code : Nat) : List Char :=
  [backslash, 'u', hexDigit (code / 4096), hexDigit (code / 256 % 16), hexDigit (code / 16 % 16),
    hexDigit (code % 16)]

/-- A character of a written text. -/
def escape : Option Char → List Char
  | none => unicodeEscape replacement.toNat
  | some char =>
    if char = quoteMark ∨ char = backslash then [backslash, char]
    else if char = '\n' then [backslash, 'n']
    else if char = '\r' then [backslash, 'r']
    else if char = '\t' then [backslash, 't']
    else if char.toNat < 0x20 ∨ char ∈ ['<', '>', '&', '\u2028', '\u2029'] then
      unicodeEscape char.toNat
    else [char]

/-- A written text without its opening quote. -/
def quoted (text : List (Option Char)) : List Char := text.flatMap escape ++ [quoteMark]

/-- A written integer. -/
def number (value : Int) : List Char :=
  if value < 0 then '-' :: Nat.toDigits 10 value.natAbs else Nat.toDigits 10 value.natAbs

/-- What a member is written from. -/
inductive Datum where
  | text (chars : List (Option Char))
  | number (value : Int)

/-- A datum as it is written. -/
def Datum.write : Datum → List Char
  | .text chars => quoteMark :: quoted chars
  | .number value => Json.number value

/-- A member under its key. -/
def member (key : List Char) (datum : Datum) : List Char :=
  quoteMark :: quoted (key.map some) ++ ':' :: datum.write

/-- Members with commas between them. -/
def members : List (List Char × Datum) → List Char
  | [] => []
  | [(key, datum)] => member key datum
  | (key, datum) :: others => member key datum ++ ',' :: members others

/-- An object as it is written, in braces. -/
def object (data : List (List Char × Datum)) : List Char :=
  '\x7b' :: members data ++ ['\x7d']

end Writing

section Reading

/-- The code of four digits. -/
def hexCode (first second third fourth : Char) : Option Nat := do
  let first ← hexValue first
  let second ← hexValue second
  let third ← hexValue third
  let fourth ← hexValue fourth
  some (4096 * first + 256 * second + 16 * third + fourth)

/-- An escape by code after its backslash. -/
def readCode : List Char → Option (Nat × List Char)
  | mark :: first :: second :: third :: fourth :: rest =>
    if mark = 'u' then (hexCode first second third fourth).map fun code => (code, rest) else none
  | _ => none

/-- The character of a surrogate and the one that follows it. A surrogate without its pair is
no character, and what follows it is read by itself. -/
def readPair (high : Nat) (rest : List Char) : Char × List Char :=
  match if rest.head? = some backslash then readCode rest.tail else none with
  | some (low, after) =>
    if high < 0xDC00 ∧ 0xDC00 ≤ low ∧ low < 0xE000 then
      (Char.ofNat (0x10000 + 0x400 * (high - 0xD800) + (low - 0xDC00)), after)
    else (replacement, rest)
  | none => (replacement, rest)

/-- The character that an escape of one letter stands for. -/
def shortEscape (char : Char) : Option Char :=
  if char = quoteMark ∨ char = backslash ∨ char = '/' then some char
  else if char = 'b' then some '\x08'
  else if char = 'f' then some '\x0c'
  else if char = 'n' then some '\n'
  else if char = 'r' then some '\r'
  else if char = 't' then some '\t'
  else none

/-- An escape after its backslash. -/
def readEscape : List Char → Option (Char × List Char)
  | [] => none
  | char :: rest =>
    if char = 'u' then
      (readCode (char :: rest)).map fun (code, rest) =>
        if 0xD800 ≤ code ∧ code < 0xE000 then readPair code rest else (Char.ofNat code, rest)
    else (shortEscape char).map fun read => (read, rest)

/-- One character of a text. -/
def readChar : List Char → Option (Char × List Char)
  | [] => none
  | char :: rest =>
    if char = backslash then readEscape rest
    else if char.toNat < 0x20 then none
    else some (char, rest)

/-- A text after its opening quote. -/
def readText : Nat → List Char → Option (List Char × List Char)
  | 0, _ => none
  | fuel + 1, input =>
    if input.head? = some quoteMark then some ([], input.tail)
    else do
      let (char, rest) ← readChar input
      let (chars, rest) ← readText fuel rest
      some (char :: chars, rest)

/-- The value of a member. A text is kept as it stands between its quotes, too. -/
inductive Value where
  | text (raw value : List Char)
  | number (value : Int)
deriving DecidableEq, Repr

/-- The digits at the start of the input. A zero in front of other digits is refused. -/
def readDigits (input : List Char) : Option (Nat × List Char) :=
  let digits := input.takeWhile Char.isDigit
  if digits ≠ [] ∧ (digits.head? = some '0' → digits.length = 1) then
    some (Nat.ofDigitChars 10 digits 0, input.dropWhile Char.isDigit)
  else none

/-- A number at the start of the input, with its sign. -/
def readNumber (input : List Char) : Option (Int × List Char) :=
  if input.head? = some '-' then
    (readDigits input.tail).map fun (value, rest) => (-(value : Int), rest)
  else (readDigits input).map fun (value, rest) => ((value : Int), rest)

/-- A value at the start of the input: a text with its spelling, or a number. -/
def readValue (input : List Char) : Option (Value × List Char) :=
  if input.head? = some quoteMark then do
    let body := input.tail
    let (value, rest) ← readText (body.length + 1) body
    some (.text (body.take (body.length - rest.length - 1)) value, rest)
  else (readNumber input).map fun (value, rest) => (.number value, rest)

/-- Takes one mark off the input. -/
def expect (mark : Char) : List Char → Option (List Char)
  | [] => none
  | char :: rest => if char = mark then some rest else none

/-- The four characters that may stand between the parts of an object. -/
def isBlank (char : Char) : Bool := decide (char ∈ [' ', '\t', '\n', '\r'])

/-- The input after its blanks. -/
def skipBlank (input : List Char) : List Char := input.dropWhile isBlank

/-- A key and its value, with the blanks around the colon and after the value. -/
def readMember (input : List Char) : Option ((List Char × Value) × List Char) := do
  let rest ← expect quoteMark input
  let (key, rest) ← readText (rest.length + 1) rest
  let rest ← expect ':' (skipBlank rest)
  let (value, rest) ← readValue (skipBlank rest)
  some ((key, value), skipBlank rest)

/-- The members of an object up to the mark after the last one. -/
def readMembers : Nat → List Char → Option (List (List Char × Value) × List Char)
  | 0, _ => none
  | fuel + 1, input => do
    let (first, rest) ← readMember input
    if rest.head? = some ',' then
      let (others, rest) ← readMembers fuel (skipBlank rest.tail)
      some (first :: others, rest)
    else
      let rest ← expect '\x7d' rest
      some ([first], rest)

/-- The members of an object, in order. -/
def readObject (input : List Char) : Option (List (List Char × Value)) := do
  let rest ← expect '\x7b' (skipBlank input)
  let body := skipBlank rest
  let (found, rest) ←
    if body.head? = some '\x7d' then some ([], body.tail) else readMembers body.length body
  if skipBlank rest = [] then some found else none

/-- What a member is read as once it is written. -/
def Datum.read : Datum → Value
  | .text chars => .text (chars.flatMap escape) (chars.map (Option.getD · replacement))
  | .number value => .number value

end Reading

section RoundTrip

variable (rest : List Char)

/-- The four digits of an escape are read as the code they were written for. -/
theorem readCode_unicodeEscape {code : Nat} (small : code < 65536) :
    readCode ((unicodeEscape code).tail ++ rest) = some (code, rest) := by
  have digits : hexCode (hexDigit (code / 4096)) (hexDigit (code / 256 % 16))
      (hexDigit (code / 16 % 16)) (hexDigit (code % 16)) = some code := by
    rw [hexCode, hexValue_hexDigit (by omega), hexValue_hexDigit (by omega),
      hexValue_hexDigit (by omega), hexValue_hexDigit (by omega)]
    simp only [Option.bind_eq_bind, Option.bind_some, Option.some.injEq]
    omega
  simp [unicodeEscape, readCode, digits]

/-- A character outside the surrogates is read back from its escape. -/
theorem readChar_unicodeEscape {char : Char} (small : char.toNat < 0xD800 ∨
    (0xE000 ≤ char.toNat ∧ char.toNat < 65536)) :
    readChar (unicodeEscape char.toNat ++ rest) = some (char, rest) := by
  have read := @readCode_unicodeEscape rest char.toNat (by omega)
  have plain : ¬ (0xD800 ≤ char.toNat ∧ char.toNat < 0xE000) := by omega
  simp only [unicodeEscape, List.tail_cons, List.cons_append, List.nil_append] at read
  simp [readChar, unicodeEscape, readEscape, read, plain]

/-- A written character is read back. -/
theorem readChar_escape (char : Option Char) :
    readChar (escape char ++ rest) = some (char.getD replacement, rest) := by
  cases char with
  | none => exact readChar_unicodeEscape rest (.inr (by decide))
  | some char =>
    rw [escape]
    split_ifs with mark newline carriage tab special
    · rcases mark with rfl | rfl <;> rfl
    · rw [newline]; rfl
    · rw [carriage]; rfl
    · rw [tab]; rfl
    · refine readChar_unicodeEscape rest (.inl ?_)
      rcases special with control | listed
      · omega
      · simp only [List.mem_cons, List.not_mem_nil, or_false] at listed
        rcases listed with rfl | rfl | rfl | rfl | rfl <;> decide
    · have plain : char ≠ backslash := fun same => mark (.inr same)
      have printed : ¬ char.toNat < 0x20 := fun control => special (.inl control)
      simp [readChar, plain, printed]

/-- No written character begins with the quote that ends a text. -/
theorem escape_head (char : Option Char) : (escape char ++ rest).head? ≠ some quoteMark := by
  cases char with
  | none => exact fun same => absurd (Option.some.inj same) (by decide)
  | some char =>
    rw [escape]
    split_ifs with mark
    case neg =>
      simp only [List.singleton_append, List.head?_cons, ne_eq, Option.some.injEq]
      exact fun same => mark (.inl same)
    all_goals exact fun same => absurd (Option.some.inj same) (by decide)

/-- A written text is read back. -/
theorem readText_quoted {fuel : Nat} (text : List (Option Char)) (enough : text.length < fuel) :
    readText fuel (quoted text ++ rest) =
      some (text.map (Option.getD · replacement), rest) := by
  induction text generalizing fuel with
  | nil =>
    obtain ⟨fuel, rfl⟩ := Nat.exists_eq_succ_of_ne_zero enough.ne'
    rfl
  | cons char text ih =>
    obtain ⟨fuel, rfl⟩ := Nat.exists_eq_succ_of_ne_zero (Nat.ne_zero_of_lt enough)
    have split : quoted (char :: text) ++ rest = escape char ++ (quoted text ++ rest) := by
      simp [quoted]
    rw [split, readText, if_neg (escape_head _ char), readChar_escape]
    have tail := @ih fuel (by simpa using enough)
    simp [tail]

/-- No number but zero starts with a zero. -/
theorem toDigits_head {value : Nat} (positive : value ≠ 0) :
    (Nat.toDigits 10 value).head? ≠ some '0' := by
  induction value using Nat.strong_induction_on with
  | _ value ih =>
    by_cases small : value < 10
    · have all : ∀ value < 10, value ≠ 0 → (Nat.toDigits 10 value).head? ≠ some '0' := by decide
      exact all value small positive
    · have upper := ih (value / 10) (by omega) (by omega)
      rw [Nat.toDigits_of_base_le (by decide) (by omega)]
      rw [List.head?_append_of_ne_nil _ Nat.toDigits_ne_nil]
      exact upper

/-- Written digits end where something else begins. -/
theorem readDigits_toDigits (value : Nat) (ends : ∀ char ∈ rest.head?, char.isDigit = false) :
    readDigits (Nat.toDigits 10 value ++ rest) = some (value, rest) := by
  have digits : ∀ char ∈ Nat.toDigits 10 value, char.isDigit = true :=
    fun _ listed => Nat.isDigit_of_mem_toDigits (by decide) (by decide) listed
  have stops : rest.takeWhile Char.isDigit = [] ∧ rest.dropWhile Char.isDigit = rest := by
    cases rest with
    | nil => exact ⟨rfl, rfl⟩
    | cons char rest => simp [ends char rfl]
  have taken : (Nat.toDigits 10 value ++ rest).takeWhile Char.isDigit = Nat.toDigits 10 value := by
    rw [List.takeWhile_append_of_pos digits, stops.1, List.append_nil]
  have dropped : (Nat.toDigits 10 value ++ rest).dropWhile Char.isDigit = rest := by
    rw [List.dropWhile_append_of_pos digits, stops.2]
  have single : (Nat.toDigits 10 value).head? = some '0' → (Nat.toDigits 10 value).length = 1 := by
    intro zero
    by_cases positive : value = 0
    · rw [positive]; rfl
    · exact absurd zero (toDigits_head positive)
  simp only [readDigits, taken, dropped]
  rw [if_pos ⟨Nat.toDigits_ne_nil, single⟩, Nat.ofDigitChars_toDigits (by decide) (by decide)]

/-- A number is read back, whatever follows that is not a digit. -/
theorem readNumber_number (value : Int) (ends : ∀ char ∈ rest.head?, char.isDigit = false) :
    readNumber (number value ++ rest) = some (value, rest) := by
  have read := readDigits_toDigits rest value.natAbs ends
  unfold number
  split
  · rw [readNumber, List.cons_append, List.head?_cons, if_pos rfl, List.tail_cons, read]
    simp only [Option.map_some, Option.some.injEq, Prod.mk.injEq, and_true]
    omega
  · have unsigned : (Nat.toDigits 10 value.natAbs ++ rest).head? ≠ some '-' := by
      rw [List.head?_append_of_ne_nil _ Nat.toDigits_ne_nil]
      intro signed
      have digit := Nat.isDigit_of_mem_toDigits (b := 10) (by decide) (by decide)
        (List.mem_of_head? signed)
      exact absurd digit (by decide)
    rw [readNumber, if_neg unsigned, read]
    simp only [Option.map_some, Option.some.injEq, Prod.mk.injEq, and_true]
    omega

/-- A written number begins with its sign or with a digit. -/
theorem number_cons (value : Int) :
    ∃ char rest, number value = char :: rest ∧ (char = '-' ∨ char.isDigit = true) := by
  unfold number
  split
  · exact ⟨_, _, rfl, .inl rfl⟩
  · obtain ⟨char, rest, split⟩ := List.exists_cons_of_ne_nil
      (Nat.toDigits_ne_nil (b := 10) (n := value.natAbs))
    refine ⟨char, rest, split, .inr ?_⟩
    exact Nat.isDigit_of_mem_toDigits (b := 10) (n := value.natAbs) (by decide) (by decide)
      (split ▸ List.mem_cons_self)

/-- A number is not taken for a text. -/
theorem number_head (value : Int) : (number value ++ rest).head? ≠ some quoteMark := by
  obtain ⟨char, after, split, starts⟩ := number_cons value
  rw [split, List.cons_append, List.head?_cons]
  rintro ⟨⟩
  exact absurd starts (by decide)

/-- There is no blank to skip in front of a printed character. -/
theorem skipBlank_cons {char : Char} (printed : isBlank char = false) :
    skipBlank (char :: rest) = char :: rest := by
  simp [skipBlank, printed]

/-- What is written starts with no blank. -/
theorem skipBlank_write (datum : Datum) : skipBlank (datum.write ++ rest) = datum.write ++ rest := by
  cases datum with
  | text chars => exact skipBlank_cons _ (by decide)
  | number value =>
    obtain ⟨char, after, split, starts⟩ := number_cons value
    have printed : isBlank char = false := by
      rw [isBlank, decide_eq_false_iff_not]
      simp only [List.mem_cons, List.not_mem_nil, or_false]
      rintro (rfl | rfl | rfl | rfl) <;> exact absurd starts (by decide)
    rw [Datum.write, split]
    exact skipBlank_cons _ printed

/-- A quoted text is longer than the text, so it can serve as the bound on reading it. -/
theorem length_quoted (text : List (Option Char)) : text.length < (quoted text).length := by
  induction text with
  | nil => decide
  | cons char text ih =>
    have longer : 1 ≤ (escape char).length := by
      cases char with
      | none => decide
      | some char =>
        rw [escape]
        split_ifs <;> simp [unicodeEscape]
    simp only [quoted, List.flatMap_cons, List.length_append, List.length_cons,
      List.length_nil] at ih ⊢
    omega

/-- A quoted text is read back with the replacement character for what is not a character. -/
theorem readText_whole (text : List (Option Char)) :
    readText ((quoted text ++ rest).length + 1) (quoted text ++ rest) =
      some (text.map (Option.getD · replacement), rest) := by
  refine readText_quoted rest text ?_
  have longer := length_quoted text
  rw [List.length_append]
  omega

/-- A written value is read back, with a text as it was written. -/
theorem readValue_write (datum : Datum) (ends : ∀ char ∈ rest.head?, char.isDigit = false) :
    readValue (datum.write ++ rest) = some (datum.read, rest) := by
  cases datum with
  | text chars =>
    have read := readText_whole rest chars
    have raw : (quoted chars ++ rest).take ((quoted chars ++ rest).length - rest.length - 1) =
        chars.flatMap escape := by
      have count : (quoted chars ++ rest).length - rest.length - 1 =
          (chars.flatMap escape).length := by
        simp only [quoted, List.length_append, List.length_singleton]
        omega
      rw [count, quoted, List.append_assoc, List.take_left]
    simp only [readValue, Datum.write, List.cons_append, List.head?_cons, List.tail_cons, if_true,
      read, Option.bind_eq_bind, Option.bind_some, raw]
    rfl
  | number value =>
    rw [readValue, Datum.write, if_neg (number_head rest value), readNumber_number rest value ends]
    rfl

/-- What may follow a member. -/
def Ends (char : Char) : Prop := char.isDigit = false ∧ isBlank char = false

/-- A member is read back up to the mark that ends it. -/
theorem readMember_member {mark : Char} (key : List Char) (datum : Datum) (ends : Ends mark) :
    readMember (member key datum ++ mark :: rest) =
      some ((key, datum.read), mark :: rest) := by
  have keyRead := readText_whole (':' :: (datum.write ++ mark :: rest)) (key.map some)
  have plain : (key.map some).map (Option.getD · replacement) = key := by
    rw [List.map_map]
    exact List.map_id _
  have valueRead := readValue_write (mark :: rest) datum
    (fun char begins => Option.some.inj begins ▸ ends.1)
  have split : member key datum ++ mark :: rest =
      quoteMark :: (quoted (key.map some) ++ ':' :: (datum.write ++ mark :: rest)) := by
    simp [member]
  rw [split, readMember, expect, if_pos rfl]
  simp only [Option.bind_eq_bind, Option.bind_some, keyRead, plain]
  rw [skipBlank_cons _ (by decide), expect, if_pos rfl]
  simp only [Option.bind_some, skipBlank_write, valueRead, skipBlank_cons rest ends.2]

/-- Members are written one after the other with commas between them. -/
theorem members_cons (key : List Char) (datum : Datum) (next : List Char × Datum)
    (others : List (List Char × Datum)) :
    members ((key, datum) :: next :: others) =
      member key datum ++ ',' :: members (next :: others) := rfl

/-- Members begin with the quote of the first key. -/
theorem members_begin {data : List (List Char × Datum)} (some_ : data ≠ []) :
    ∃ after, members data = quoteMark :: after := by
  obtain ⟨⟨key, datum⟩, others, rfl⟩ := List.exists_cons_of_ne_nil some_
  cases others <;> exact ⟨_, rfl⟩

/-- Every member takes at least one character, so the length bounds the number of members. -/
theorem length_members (data : List (List Char × Datum)) :
    data.length ≤ (members data).length := by
  induction data with
  | nil => exact Nat.zero_le _
  | cons head others ih =>
    obtain ⟨key, datum⟩ := head
    cases others with
    | nil => exact Nat.succ_le_succ (Nat.zero_le _)
    | cons next others =>
      simp only [members_cons, List.length_append, List.length_cons] at ih ⊢
      omega

/-- Written members are read back, in order. -/
theorem readMembers_members {fuel : Nat} {data : List (List Char × Datum)} (some_ : data ≠ [])
    (enough : data.length ≤ fuel) :
    readMembers fuel (members data ++ '\x7d' :: rest) =
      some (data.map fun (key, datum) => (key, datum.read), rest) := by
  induction data generalizing fuel with
  | nil => exact absurd rfl some_
  | cons head others ih =>
    obtain ⟨key, datum⟩ := head
    obtain ⟨fuel, rfl⟩ := Nat.exists_eq_succ_of_ne_zero (Nat.ne_zero_of_lt enough)
    cases others with
    | nil =>
      have read := @readMember_member rest '\x7d' key datum ⟨by decide, by decide⟩
      rw [members, readMembers, read]
      rfl
    | cons next others =>
      have read := @readMember_member (members (next :: others) ++ '\x7d' :: rest) ',' key datum
        ⟨by decide, by decide⟩
      have tail := @ih fuel (List.cons_ne_nil _ _) (by simpa using enough)
      obtain ⟨after, starts⟩ := members_begin (List.cons_ne_nil next others)
      have begins : skipBlank (members (next :: others) ++ '\x7d' :: rest) =
          members (next :: others) ++ '\x7d' :: rest := by
        rw [starts]
        exact skipBlank_cons _ (by decide)
      rw [members_cons, readMembers, List.append_assoc, List.cons_append, read]
      simp only [Option.bind_eq_bind, Option.bind_some, List.head?_cons, if_true, List.tail_cons,
        begins, tail]
      rfl

/-- A written object is read back. -/
theorem readObject_object {data : List (List Char × Datum)} (some_ : data ≠ []) :
    readObject (object data) = some (data.map fun (key, datum) => (key, datum.read)) := by
  have enough : data.length ≤ (members data ++ ['\x7d']).length := by
    have longer := length_members data
    rw [List.length_append]
    omega
  have read := readMembers_members [] some_ enough
  obtain ⟨after, starts⟩ := members_begin some_
  have begins : skipBlank (members data ++ ['\x7d']) = members data ++ ['\x7d'] := by
    rw [starts]
    exact skipBlank_cons _ (by decide)
  have filled : (members data ++ ['\x7d']).head? ≠ some '\x7d' := by
    rw [starts]
    exact fun same => absurd (Option.some.inj same) (by decide)
  rw [readObject, object, List.cons_append, skipBlank_cons _ (by decide), expect, if_pos rfl]
  simp only [Option.bind_eq_bind, Option.bind_some, begins, if_neg filled, read]
  rfl

end RoundTrip

end Akhira.Base.Json
