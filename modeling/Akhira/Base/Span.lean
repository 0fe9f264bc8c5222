import Mathlib

/-!
# Items of consecutive places

A stream has items at every place. What lies between two places is what lies before and after
any place between them, so a reader that delivers what lies between its mark and a later place,
and then marks that place, delivers every item once.
-/
namespace Akhira.Base

variable {α β : Type} {stream : Nat → List α} {start middle stop : Nat}

/-- The items from one place up to another, whose own are left out. -/
def between (stream : Nat → List α) (start stop : Nat) : List α :=
  (List.range' start (stop - start)).flatMap stream

/-- Nothing lies between two places in the wrong order. -/
theorem between_empty (reached : stop ≤ start) : between stream start stop = [] := by
  have none_left : stop - start = 0 := by omega
  rw [between, none_left]
  rfl

/-- A span is cut at any place inside it. -/
theorem between_append (first : start ≤ middle) (second : middle ≤ stop) :
    between stream start stop = between stream start middle ++ between stream middle stop := by
  have whole : stop - start = (middle - start) + (stop - middle) := by omega
  have reached : start + (middle - start) = middle := by omega
  rw [between, whole, ← List.range'_append_1, reached, List.flatMap_append]
  rfl

/-- Selecting from a span selects at each of its places. -/
theorem filterMap_between (select : α → Option β) :
    (between stream start stop).filterMap select =
      between (fun place => (stream place).filterMap select) start stop :=
  List.filterMap_flatMap

/-- After what lies before the mark, a delivery is complete when it is what lies from the mark on. -/
theorem delivered_iff {delivered out : List α} (before : delivered = between stream start middle)
    (first : start ≤ middle) (second : middle ≤ stop) :
    delivered ++ out = between stream start stop ↔ out = between stream middle stop := by
  rw [between_append first second, before]
  exact List.append_right_inj _

end Akhira.Base
