import Akhira.Base.BigEndian

/-!
# Arguments of contract calls as bytes

Every argument has a head of one word: a number stands there itself, and bytes of any length are
represented by the place of their tail. The tails follow the heads in order, each with the length
of its bytes and the bytes filled up to whole words.
-/
namespace Akhira.Base.Abi

/-- A number in one word. -/
def word (value : Nat) : List UInt8 := bigEndian 32 value

/-- The zeros that fill up a number of bytes to whole words. -/
def padding (length : Nat) : List UInt8 := List.replicate ((32 - length % 32) % 32) 0

/-- An argument of a call or of a log: one word, or bytes of any length. -/
inductive Argument where
  | static (value : Nat)
  | dynamic (bytes : List UInt8)
deriving DecidableEq, Repr

/-- What an argument has after the heads. -/
def tail : Argument → List UInt8
  | .static _ => []
  | .dynamic bytes => word bytes.length ++ bytes ++ padding bytes.length

/-- The heads, when the next tail has the given place. -/
def heads : Nat → List Argument → List UInt8
  | _, [] => []
  | place, .static value :: rest => word value ++ heads place rest
  | place, .dynamic bytes :: rest => word place ++ heads (place + (tail (.dynamic bytes)).length) rest

/-- The bytes of a list of arguments. -/
def encode (arguments : List Argument) : List UInt8 :=
  heads (32 * arguments.length) arguments ++ arguments.flatMap tail

/-- `data[start:stop]`. -/
def slice (start stop : Nat) (data : List UInt8) : List UInt8 := (data.drop start).take (stop - start)

/-- A word takes 32 bytes. -/
@[simp] theorem length_word (value : Nat) : (word value).length = 32 := length_bigEndian 32 value

/-- There is one word of head for each argument. -/
@[simp] theorem length_heads (place : Nat) (arguments : List Argument) :
    (heads place arguments).length = 32 * arguments.length := by
  induction arguments generalizing place with
  | nil => rfl
  | cons argument rest ih =>
    cases argument <;> simp only [heads, List.length_append, length_word, ih, List.length_cons] <;>
      omega

/-- The head of a number is the number. -/
theorem heads_static (before after : List Argument) (value place : Nat) :
    ∃ first last, heads place (before ++ .static value :: after) = first ++ word value ++ last ∧
      first.length = 32 * before.length := by
  induction before generalizing place with
  | nil =>
    refine ⟨[], heads place after, ?_, rfl⟩
    rw [List.nil_append, heads, List.nil_append]
  | cons argument rest ih =>
    cases argument with
    | static own =>
      obtain ⟨first, last, split, length⟩ := ih place
      refine ⟨word own ++ first, last, ?_, ?_⟩
      · rw [List.cons_append, heads, split]
        simp only [List.append_assoc]
      · rw [List.length_append, length_word, length, List.length_cons]
        omega
    | dynamic bytes =>
      obtain ⟨first, last, split, length⟩ := ih (place + (tail (.dynamic bytes)).length)
      refine ⟨word place ++ first, last, ?_, ?_⟩
      · rw [List.cons_append, heads, split]
        simp only [List.append_assoc]
      · rw [List.length_append, length_word, length, List.length_cons]
        omega

/-- A number is read at its place. -/
theorem slice_static (before after : List Argument) (value : Nat) :
    slice (32 * before.length) (32 * before.length + 32)
      (encode (before ++ .static value :: after)) = word value := by
  obtain ⟨first, last, split, length⟩ := heads_static before after value
    (32 * (before ++ .static value :: after).length)
  have wide : 32 * before.length + 32 - 32 * before.length = (word value).length := by
    rw [length_word]
    omega
  rw [slice, encode, split, wide]
  simp only [List.append_assoc]
  rw [← length, List.drop_left, List.take_left]

/-- The bytes of the first argument with a tail follow the heads and their length. -/
theorem encode_tail (before after : List Argument) (bytes : List UInt8)
    (numbers : ∀ argument ∈ before, tail argument = []) :
    ∃ first, encode (before ++ .dynamic bytes :: after) =
        first ++ (bytes ++ padding bytes.length ++ after.flatMap tail) ∧
      first.length = 32 * (before.length + after.length + 1) + 32 := by
  have nothing : before.flatMap tail = [] := List.flatMap_eq_nil_iff.mpr numbers
  refine ⟨heads (32 * (before ++ .dynamic bytes :: after).length) (before ++ .dynamic bytes :: after) ++
    word bytes.length, ?_, ?_⟩
  · rw [encode, List.flatMap_append, nothing, List.flatMap_cons, tail]
    simp only [List.nil_append, List.append_assoc]
  · rw [List.length_append, length_heads, length_word, List.length_append, List.length_cons]
    omega

end Akhira.Base.Abi
