import Mathlib

/-!
# Texts made of parts

When two parts are joined by a separator that does not occur in the first, the joined
text determines both.
-/
namespace Akhira.Base

variable {α : Type}

/-- The first separator of a text ends its first part. -/
theorem separated_injective {separator : α} {left right leftRest rightRest : List α}
    (leftClean : separator ∉ left) (rightClean : separator ∉ right)
    (same : left ++ separator :: leftRest = right ++ separator :: rightRest) :
    left = right ∧ leftRest = rightRest := by
  induction left generalizing right with
  | nil =>
    cases right with
    | nil => exact ⟨rfl, (List.cons.inj same).2⟩
    | cons head tail =>
      have clash : separator = head := (List.cons.inj same).1
      exact absurd (clash ▸ List.mem_cons_self) rightClean
  | cons head tail ih =>
    cases right with
    | nil =>
      have clash : head = separator := (List.cons.inj same).1
      exact absurd (clash ▸ List.mem_cons_self) leftClean
    | cons other others =>
      obtain ⟨sameHead, sameTail⟩ := List.cons.inj same
      have tails := ih (fun member => leftClean (List.mem_cons_of_mem _ member))
        (fun member => rightClean (List.mem_cons_of_mem _ member)) sameTail
      exact ⟨by rw [sameHead, tails.1], tails.2⟩

end Akhira.Base
