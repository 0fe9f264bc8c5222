import Akhira.Base.Result
import Akhira.Base.BigEndian

/-!
# Contract calls

Machine words, byte strings and the results of contract calls. A call returns or
reverts with a text; a reverted call leaves no trace. `SafeMath` reverts where a word
would overflow.
-/
namespace Akhira.Contracts

open Akhira.Base

/-- `bytes` and `string`. -/
abbrev Bytes := List UInt8

/-- `address`. -/
abbrev Address := BitVec 160

/-- `uint256`. -/
abbrev Word := BitVec 256

/-- The bytes of a text of the source. -/
def ascii (text : String) : Bytes := text.toList.map fun char => UInt8.ofNat char.toNat

/-- A result, or the text a call reverts with. -/
abbrev Revertible (α : Type) := Except String α

namespace Revertible

variable {α : Type}

/-- `revert`. -/
def revert (reason : String) : Revertible α := .error reason

/-- `require`. -/
def require (condition : Prop) [Decidable condition] (reason : String) : Revertible Unit :=
  if condition then .ok () else revert reason

/-- A revert is no result. -/
@[simp] theorem revert_ok {reason : String} {result : α} :
    (revert reason : Revertible α) = .ok result ↔ False := by
  simp [revert]

/-- A requirement passes when its condition holds. -/
@[simp] theorem require_ok {condition : Prop} [Decidable condition] {reason : String}
    {done : Unit} : require condition reason = .ok done ↔ condition := by
  by_cases holds : condition <;> simp [require, holds]

end Revertible

namespace SafeMath

/-- `add`. -/
def add (left right : Word) : Revertible Word :=
  if left.toNat + right.toNat < 2 ^ 256 then .ok (left + right)
  else Revertible.revert "SafeMath: addition overflow"

/-- `sub`. -/
def sub (left right : Word) : Revertible Word :=
  if right.toNat ≤ left.toNat then .ok (left - right)
  else Revertible.revert "SafeMath: subtraction overflow"

/-- `mul`. -/
def mul (left right : Word) : Revertible Word :=
  if left.toNat * right.toNat < 2 ^ 256 then .ok (left * right)
  else Revertible.revert "SafeMath: multiplication overflow"

/-- An addition that returns is exact. -/
theorem add_ok {left right result : Word} (added : add left right = .ok result) :
    result.toNat = left.toNat + right.toNat := by
  unfold add at added
  split at added
  · next fits =>
    cases added
    rw [BitVec.toNat_add, Nat.mod_eq_of_lt fits]
  · cases added

/-- A subtraction that returns is exact. -/
theorem sub_ok {left right result : Word} (subtracted : sub left right = .ok result) :
    left.toNat = right.toNat + result.toNat := by
  unfold sub at subtracted
  split at subtracted
  · next fits =>
    cases subtracted
    rw [BitVec.toNat_sub_of_le fits]
    omega
  · cases subtracted

/-- A multiplication that returns is exact. -/
theorem mul_ok {left right result : Word} (multiplied : mul left right = .ok result) :
    result.toNat = left.toNat * right.toNat := by
  unfold mul at multiplied
  split at multiplied
  · next fits =>
    cases multiplied
    rw [BitVec.toNat_mul, Nat.mod_eq_of_lt fits]
  · cases multiplied

end SafeMath

/-- `abi.encodePacked` of a word: 32 bytes. -/
def packWord (word : Word) : Bytes := bigEndian 32 word.toNat

/-- `abi.encodePacked` of an address: 20 bytes. -/
def packAddress (address : Address) : Bytes := bigEndian 20 address.toNat

section Mapping

variable {κ ι α : Type} [DecidableEq κ] [DecidableEq ι]

/-- A write to a mapping. -/
def write (mapping : κ → α) (key : κ) (value : α) : κ → α :=
  fun other => if other = key then value else mapping other

/-- A write to a mapping of mappings. -/
def writeAt (mapping : κ → ι → α) (first : κ) (second : ι) (value : α) : κ → ι → α :=
  write mapping first (write (mapping first) second value)

/-- The written entry is the new value. -/
@[simp] theorem write_same (mapping : κ → α) (key : κ) (value : α) :
    write mapping key value key = value := if_pos rfl

/-- The other entries stay. -/
theorem write_other (mapping : κ → α) {key other : κ} (value : α) (different : other ≠ key) :
    write mapping key value other = mapping other := if_neg different

/-- The written entry of a mapping of mappings is the new value. -/
@[simp] theorem writeAt_same (mapping : κ → ι → α) (first : κ) (second : ι) (value : α) :
    writeAt mapping first second value first second = value := by
  rw [writeAt, write_same, write_same]

/-- Entries of other first keys stay. -/
theorem writeAt_first (mapping : κ → ι → α) {first other : κ} (second : ι) (value : α)
    (different : other ≠ first) : writeAt mapping first second value other = mapping other :=
  write_other mapping _ different

/-- Entries of other second keys stay. -/
theorem writeAt_second (mapping : κ → ι → α) (first : κ) {second other : ι} (value : α)
    (different : other ≠ second) (key : κ) :
    writeAt mapping first second value key other = mapping key other := by
  by_cases same : key = first
  · rw [same, writeAt, write_same, write_other _ _ different]
  · rw [writeAt_first mapping second value same]

/-- Writing what is there changes nothing. -/
theorem writeAt_eq_self {mapping : κ → ι → α} {first : κ} {second : ι} {value : α}
    (stored : mapping first second = value) : writeAt mapping first second value = mapping := by
  funext key other
  by_cases sameFirst : key = first
  · by_cases sameSecond : other = second
    · rw [sameFirst, sameSecond, writeAt_same, stored]
    · rw [writeAt_second _ _ _ sameSecond]
  · rw [writeAt_first _ _ _ sameFirst]

end Mapping

end Akhira.Contracts
