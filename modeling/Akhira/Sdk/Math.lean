import Akhira.Base.HalfEven
import Akhira.Sdk.Outcome

/-!
# SDK numbers

The limits are those of cosmos-sdk v0.43.0. `Uint` is a natural number and `SInt` an integer
of at most 256 bits; both carry their bound, and an operation that leaves it panics. `Dec` is a
fixed-point number with 18 decimals held as an integer count of its last digit.
`Mul` and `RoundInt` round to the nearest digit with ties to even. `Quo` truncates
at 36 decimals before it rounds the same way, and every operation panics past 315
bits. An integral `Dec` is exact under all of them, which is what the powers of ten
of the pool formulas rely on.
-/
namespace Akhira.Sdk

open Akhira.Base

/-- The decimal text of a natural number. -/
def natText (value : Nat) : String := String.ofList (Nat.toDigits 10 value)

/-- The decimal text of an integer. -/
def intText (value : Int) : String :=
  if value < 0 then "-" ++ natText value.natAbs else natText value.natAbs

/-- A natural number is written with its decimal digits. -/
theorem natText_toList (value : Nat) : (natText value).toList = Nat.toDigits 10 value :=
  String.toList_ofList

/-- Nothing but digits stands in the text of a natural number. -/
theorem isDigit_of_mem_natText {value : Nat} {char : Char} (listed : char ∈ (natText value).toList) :
    char.isDigit = true := by
  rw [natText_toList] at listed
  exact Nat.isDigit_of_mem_toDigits (by decide) (by decide) listed

/-- A natural number is told by its text. -/
theorem natText_injective {left right : Nat} (same : natText left = natText right) :
    left = right := by
  have digits : Nat.toDigits 10 left = Nat.toDigits 10 right := by
    rw [← natText_toList, ← natText_toList, same]
  have read := congrArg (fun digits => Nat.ofDigitChars 10 digits 0) digits
  simpa [Nat.ofDigitChars_toDigits] using read

/-- A decimal text has digits and at most a sign. -/
theorem mem_intText {value : Int} {char : Char} (listed : char ∈ (intText value).toList) :
    char = '-' ∨ char.isDigit = true := by
  unfold intText at listed
  split at listed
  · rw [String.toList_append, List.mem_append] at listed
    rcases listed with sign | digit
    · exact .inl (List.mem_singleton.mp sign)
    · exact .inr (isDigit_of_mem_natText digit)
  · exact .inr (isDigit_of_mem_natText listed)

/-- There is no sign in the text of a natural number. -/
theorem minus_not_mem_natText (value : Nat) : '-' ∉ (natText value).toList := by
  intro listed
  have digit := isDigit_of_mem_natText listed
  exact absurd digit (by decide)

/-- An integer is told by its text. -/
theorem intText_injective {left right : Int} (same : intText left = intText right) :
    left = right := by
  unfold intText at same
  split at same <;> split at same
  · have digits := natText_injective ((String.append_right_inj _).mp same)
    omega
  · have signed : '-' ∈ (natText right.natAbs).toList := by
      rw [← same, String.toList_append]
      exact List.mem_append_left _ (by decide)
    exact absurd signed (minus_not_mem_natText _)
  · have signed : '-' ∈ (natText left.natAbs).toList := by
      rw [same, String.toList_append]
      exact List.mem_append_left _ (by decide)
    exact absurd signed (minus_not_mem_natText _)
  · have digits := natText_injective same
    omega

/-- `sdk.Uint`: a natural number of at most 256 bits. -/
structure Uint where
  /-- The number. -/
  val : Nat
  /-- It has at most 256 bits. -/
  bounded : val < 2 ^ 256
deriving DecidableEq, Repr

namespace Uint

/-- `sdk.NewUintFromBigInt` on a natural number. -/
def ofNat (value : Nat) : Outcome Uint :=
  if bounded : value < 2 ^ 256 then .ok ⟨value, bounded⟩ else Outcome.crash "Uint overflow"

/-- `sdk.NewUintFromBigInt`: negative numbers panic. -/
def ofInt (value : Int) : Outcome Uint :=
  if value < 0 then Outcome.crash "Uint overflow" else ofNat value.toNat

/-- `sdk.ZeroUint`. -/
def zero : Uint := ⟨0, by decide⟩

/-- `Uint.Add`. -/
def add (left right : Uint) : Outcome Uint := ofNat (left.val + right.val)

/-- `Uint.Sub`: a negative difference panics. -/
def sub (left right : Uint) : Outcome Uint := ofInt (left.val - right.val)

/-- `Uint.Mul`. -/
def mul (left right : Uint) : Outcome Uint := ofNat (left.val * right.val)

/-- `Uint.Quo`: division by zero panics. -/
def quo (left right : Uint) : Outcome Uint :=
  if right.val = 0 then Outcome.crash "division by zero" else ofNat (left.val / right.val)

/-- `Uint.IsZero`. -/
def isZero (value : Uint) : Bool := value.val = 0

/-- `Uint.String`. -/
def text (value : Uint) : String := natText value.val

/-- `len(Uint.String())`: the number of decimal digits. -/
def textLength (value : Uint) : Nat := (Nat.toDigits 10 value.val).length

/-- The value of zero. -/
@[simp] theorem zero_val : zero.val = 0 := rfl

/-- Numbers with the same value are the same. -/
theorem ext_val {left right : Uint} (same : left.val = right.val) : left = right := by
  cases left
  cases right
  cases same
  rfl

/-- A natural number becomes the `Uint` of that value or panics. -/
@[simp] theorem ofNat_ok {value : Nat} {result : Uint} :
    ofNat value = .ok result ↔ result.val = value := by
  unfold ofNat
  split
  · simp only [Except.ok.injEq]
    constructor
    · rintro rfl
      rfl
    · exact fun same => ext_val same.symm
  · rename_i large
    simp only [Outcome.crash_ok, false_iff]
    rintro rfl
    exact large result.bounded

/-- An integer becomes the `Uint` of that value or panics. -/
@[simp] theorem ofInt_ok {value : Int} {result : Uint} :
    ofInt value = .ok result ↔ (result.val : Int) = value := by
  unfold ofInt
  split
  · simp only [Outcome.crash_ok, false_iff]
    omega
  · rw [ofNat_ok]
    omega

/-- A sum that does not panic is the sum. -/
@[simp] theorem add_ok {left right result : Uint} :
    left.add right = .ok result ↔ result.val = left.val + right.val := ofNat_ok

/-- A difference that does not panic is the difference. -/
@[simp] theorem sub_ok {left right result : Uint} :
    left.sub right = .ok result ↔ left.val = right.val + result.val := by
  rw [sub, ofInt_ok]
  omega

/-- An amount is subtracted from a larger one. -/
theorem sub_total {left right : Uint} (enough : right.val ≤ left.val) :
    ∃ rest, left.sub right = .ok rest := by
  have bounded := left.bounded
  refine ⟨⟨left.val - right.val, by omega⟩, sub_ok.mpr ?_⟩
  exact (Nat.add_sub_cancel' enough).symm

/-- A product that does not panic is the product. -/
@[simp] theorem mul_ok {left right result : Uint} :
    left.mul right = .ok result ↔ result.val = left.val * right.val := ofNat_ok

/-- Zero is recognised by its value. -/
@[simp] theorem isZero_iff {value : Uint} : value.isZero = true ↔ value.val = 0 := by
  simp [isZero]

end Uint

/-- `sdk.Int`: an integer of at most 256 bits. -/
structure SInt where
  /-- The number. -/
  val : Int
  /-- Its magnitude has at most 256 bits. -/
  bounded : val.natAbs < 2 ^ 256
deriving DecidableEq, Repr

namespace SInt

/-- Zero fits an `Int`. -/
theorem zero_bounded : (0 : Int).natAbs < 2 ^ 256 := by decide

/-- One fits an `Int`. -/
theorem one_bounded : (1 : Int).natAbs < 2 ^ 256 := by decide

/-- `sdk.NewIntFromString` on the decimal text of an integer: `ok` is false past 256 bits. -/
def ofText (value : Int) : Option SInt :=
  if bounded : value.natAbs < 2 ^ 256 then some ⟨value, bounded⟩ else none

/-- `sdk.NewIntFromBigInt`: panics past 256 bits. -/
def ofInt (value : Int) : Outcome SInt :=
  Outcome.present (ofText value) (.panic "NewIntFromBigInt() out of bound")

/-- `Int.Add`. -/
def add (left right : SInt) : Outcome SInt :=
  Outcome.present (ofText (left.val + right.val)) (.panic "Int overflow")

/-- `Int.String`. -/
def text (value : SInt) : String := intText value.val

/-- Parsing keeps the value. -/
@[simp] theorem ofText_some {value : Int} {result : SInt} :
    ofText value = some result ↔ result.val = value := by
  unfold ofText
  split
  · simp only [Option.some.injEq]
    constructor
    · rintro rfl
      rfl
    · intro same
      cases result
      cases same
      rfl
  · rename_i large
    simp only [reduceCtorEq, false_iff]
    rintro rfl
    exact large result.bounded

/-- Conversion keeps the value. -/
@[simp] theorem ofInt_ok {value : Int} {result : SInt} :
    ofInt value = .ok result ↔ result.val = value := by
  rw [ofInt, Outcome.present_ok, ofText_some]

/-- A sum has the value of the sum. -/
@[simp] theorem add_ok {left right result : SInt} :
    left.add right = .ok result ↔ result.val = left.val + right.val := by
  rw [add, Outcome.present_ok, ofText_some]

end SInt

/-- `sdk.Dec`: a fixed-point number counted in units of its eighteenth decimal. -/
structure Dec where
  /-- The number times 10 to the 18. -/
  raw : Int
deriving DecidableEq, Repr

namespace Dec

/-- One, in units of the last decimal. -/
def precision : Nat := 10 ^ 18

/-- `maxDecBitLen`. -/
def maxDecBitLen : Nat := 315

/-- Admit a result of at most `maxDecBitLen` bits. -/
def checked (raw : Int) : Outcome Dec :=
  if raw.natAbs < 2 ^ maxDecBitLen then .ok ⟨raw⟩ else Outcome.crash "Int overflow"

/-- `sdk.NewDec` and `sdk.NewDecFromBigInt`, which check no bound. -/
def ofInt (value : Int) : Dec := ⟨value * precision⟩

/-- `sdk.NewDecFromStr` on the decimal text of an integer, which has a limit of 256 bits. Its
callers turn the error past it into a panic. -/
def ofText (value : Int) : Outcome Dec :=
  if (value * precision).natAbs < 2 ^ 256 then .ok (ofInt value)
  else Outcome.crash "decimal out of range"

/-- `Dec.Add`. -/
def add (left right : Dec) : Outcome Dec := checked (left.raw + right.raw)

/-- `Dec.Sub`. -/
def sub (left right : Dec) : Outcome Dec := checked (left.raw - right.raw)

/-- `Dec.Mul`: the product rounded to 18 decimals. -/
def mul (left right : Dec) : Outcome Dec := checked (chop (left.raw * right.raw) precision)

/-- `Dec.MulTruncate`: the product cut to 18 decimals. -/
def mulTruncate (left right : Dec) : Outcome Dec := checked ((left.raw * right.raw).tdiv precision)

/-- `Dec.Quo`: the quotient truncated to 36 decimals, then rounded to 18. -/
def quo (left right : Dec) : Outcome Dec :=
  if right.raw = 0 then Outcome.crash "division by zero"
  else checked (chop ((left.raw * precision * precision).tdiv right.raw) precision)

/-- `Dec.Abs`. -/
def abs (value : Dec) : Dec := ⟨value.raw.natAbs⟩

/-- `Dec.GT`. -/
def gt (left right : Dec) : Bool := right.raw < left.raw

/-- The loop of `Dec.Power`: square the base and collect it where the exponent is odd. -/
def powerLoop : Nat → Nat → Dec → Dec → Outcome Dec
  | 0, _, base, collected => base.mul collected
  | fuel + 1, exponent, base, collected =>
    if exponent ≤ 1 then base.mul collected
    else do
      let collected ← (if exponent % 2 ≠ 0 then collected.mul base else pure collected)
      let base ← base.mul base
      powerLoop fuel (exponent / 2) base collected

/-- `Dec.Power`. -/
def power (base : Dec) (exponent : Nat) : Outcome Dec :=
  if exponent = 0 then .ok (ofInt 1) else powerLoop exponent exponent base (ofInt 1)

/-- `Dec.RoundInt`: the nearest integer, ties to even. -/
def roundInt (value : Dec) : Outcome SInt := SInt.ofInt (chop value.raw precision)

/-- `Dec.TruncateInt`. -/
def truncateInt (value : Dec) : Outcome SInt := SInt.ofInt (value.raw.tdiv precision)

/-- `sdk.NewUintFromBigInt(Dec.RoundInt().BigInt())`. -/
def roundUint (value : Dec) : Outcome Uint := do
  let rounded ← value.roundInt
  Uint.ofInt rounded.val

/-- The unit is positive. -/
theorem precision_pos : 0 < precision := by decide

/-- The unit as an integer. -/
theorem precision_cast : (precision : Int) = 10 ^ 18 := rfl

/-- An admitted result is the checked count. -/
theorem checked_ok {raw : Int} {result : Dec} (admitted : checked raw = .ok result) :
    result.raw = raw := by
  unfold checked at admitted
  split at admitted
  · cases admitted
    rfl
  · cases admitted

/-- A text that is read gives its integer. -/
theorem ofText_ok {value : Int} {result : Dec} (read : ofText value = .ok result) :
    result = ofInt value := by
  unfold ofText at read
  split at read
  · cases read
    rfl
  · cases read

/-- The product of integral numbers is exact. -/
theorem mul_integral {left right result : Dec} {a b : Int} (first : left.raw = a * precision)
    (second : right.raw = b * precision) (product : left.mul right = .ok result) :
    result.raw = a * b * precision := by
  have value := checked_ok product
  have whole : left.raw * right.raw = a * b * precision * precision := by rw [first, second]; ring
  rw [whole, chop_mul _ precision_pos] at value
  exact value

/-- Nothing is cut off a product of integral numbers. -/
theorem mulTruncate_integral {left right result : Dec} {a b : Int}
    (first : left.raw = a * precision) (second : right.raw = b * precision)
    (product : left.mulTruncate right = .ok result) : result.raw = a * b * precision := by
  have value := checked_ok product
  have whole : left.raw * right.raw = a * b * precision * precision := by rw [first, second]; ring
  have positive : (precision : Int) ≠ 0 := by decide
  rw [whole, Int.mul_tdiv_cancel _ positive] at value
  exact value

/-- A whole decimal is truncated to itself. -/
theorem truncateInt_integral {value : Dec} {result : SInt} {a : Int}
    (whole : value.raw = a * precision) (truncated : value.truncateInt = .ok result) :
    result.val = a := by
  have positive : (precision : Int) ≠ 0 := by decide
  rw [truncateInt, SInt.ofInt_ok, whole, Int.mul_tdiv_cancel _ positive] at truncated
  exact truncated

/-- Squaring and collecting computes the power of an integral number exactly. -/
theorem powerLoop_integral {fuel exponent : Nat} {base collected result : Dec} {a b : Int}
    (first : base.raw = a * precision) (second : collected.raw = b * precision)
    (positive : 1 ≤ exponent) (enough : exponent ≤ fuel + 1)
    (computed : powerLoop fuel exponent base collected = .ok result) :
    result.raw = a ^ exponent * b * precision := by
  induction fuel generalizing exponent base collected a b with
  | zero =>
    obtain rfl : exponent = 1 := by omega
    rw [pow_one]
    exact mul_integral first second computed
  | succ fuel ih =>
    simp only [powerLoop] at computed
    split at computed
    · obtain rfl : exponent = 1 := by omega
      rw [pow_one]
      exact mul_integral first second computed
    · rename_i large
      simp only [Result.bind_ok] at computed
      obtain ⟨next, collectedEq, square, squareEq, rest⟩ := computed
      have squared := mul_integral first first squareEq
      have half := Nat.div_add_mod exponent 2
      by_cases odd : exponent % 2 ≠ 0
      · rw [if_pos odd] at collectedEq
        have grown := mul_integral second first collectedEq
        rw [ih squared grown (by omega) (by omega) rest]
        have split : exponent = exponent / 2 + exponent / 2 + 1 := by omega
        conv_rhs => rw [split]
        ring
      · rw [if_neg odd, Result.pure_ok] at collectedEq
        subst collectedEq
        rw [ih squared second (by omega) (by omega) rest]
        have split : exponent = exponent / 2 + exponent / 2 := by omega
        conv_rhs => rw [split]
        ring

/-- A power of an integral number is exact. -/
theorem power_integral {exponent : Nat} {result : Dec} (base : Int)
    (computed : (ofInt base).power exponent = .ok result) :
    result.raw = base ^ exponent * precision := by
  unfold power at computed
  split at computed
  · rename_i none
    cases computed
    rw [none, pow_zero]
    rfl
  · have value := powerLoop_integral (a := base) (b := 1) rfl rfl (by omega) (by omega) computed
    rw [value, mul_one]

/-- A rounding that does not panic is the nearest integer. -/
theorem roundUint_ok {value : Dec} {result : Uint} (rounded : value.roundUint = .ok result) :
    (result.val : Int) = chop value.raw precision := by
  simp only [roundUint, roundInt, Result.bind_ok, SInt.ofInt_ok, Uint.ofInt_ok] at rounded
  obtain ⟨whole, wholeEq, same⟩ := rounded
  rw [same, wholeEq]

end Dec

end Akhira.Sdk
