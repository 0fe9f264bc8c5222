import Mathlib

/-!
# Lists with an index

A list without duplicates next to a map that gives the position of each of its entries. What the map
says of other items is not fixed, so an item is listed when it stands where the map says. An item is
taken off by moving the last entry into its place.
-/
namespace Akhira.Base

variable {α : Type} {list : List α} {index : α → Nat}

/-- Every entry stands at its own index. -/
def Indexed (list : List α) (index : α → Nat) : Prop :=
  ∀ position item, list[position]? = some item → index item = position

/-- The last entry takes the place of the one at a row. -/
def swapRemove (list : List α) (row : Nat) (last : α) : List α := (list.set row last).dropLast

/-- Nothing is indexed by any index. -/
theorem Indexed.nil : Indexed ([] : List α) index := by
  intro position item found
  simp at found

/-- An index gives each item one place, so no item is listed twice. -/
theorem Indexed.nodup (indexed : Indexed list index) : list.Nodup := by
  rw [List.nodup_iff_injective_getElem]
  intro left right same
  apply Fin.ext
  have first := indexed left.val list[left] (List.getElem?_eq_getElem left.isLt)
  have second := indexed right.val list[right] (List.getElem?_eq_getElem right.isLt)
  dsimp only at same
  rw [← first, ← second, Fin.getElem_fin, same, Fin.getElem_fin]

/-- An item is listed when it stands where the index says. -/
theorem Indexed.mem_iff (indexed : Indexed list index) {item : α} :
    item ∈ list ↔ list[index item]? = some item := by
  constructor
  · intro listed
    obtain ⟨position, found⟩ := List.mem_iff_getElem?.mp listed
    rw [indexed position item found]
    exact found
  · exact List.mem_of_getElem?

section Removal

variable {item last : α}

/-- What stands at a position after the removal. -/
theorem swapRemove_getElem? {row position : Nat} (filled : list ≠ []) :
    (swapRemove list row last)[position]? =
      if position < list.length - 1 then if row = position then some last else list[position]?
      else none := by
  have long : 0 < list.length := List.length_pos_iff.mpr filled
  rw [swapRemove, List.getElem?_dropLast, List.length_set, List.getElem?_set]
  by_cases inside : position < list.length - 1
  · rw [if_pos inside, if_pos inside]
    by_cases same : row = position
    · rw [if_pos same, if_pos same, if_pos (by omega)]
    · rw [if_neg same, if_neg same]
  · rw [if_neg inside, if_neg inside]

/-- After a removal exactly the other entries are listed. -/
theorem Indexed.mem_swapRemove (indexed : Indexed list index) (listed : item ∈ list)
    (final : list.getLast? = some last) {other : α} :
    other ∈ swapRemove list (index item) last ↔ other ∈ list ∧ other ≠ item := by
  have filled : list ≠ [] := List.ne_nil_of_mem listed
  have own : list[index item]? = some item := indexed.mem_iff.mp listed
  have inside : index item < list.length := (List.getElem?_eq_some_iff.mp own).1
  rw [List.getLast?_eq_getElem?] at final
  have lastRow : index last = list.length - 1 := indexed _ _ final
  rw [List.mem_iff_getElem?]
  constructor
  · rintro ⟨position, found⟩
    rw [swapRemove_getElem? filled] at found
    split at found
    · split at found
      · rename_i before here
        cases found
        refine ⟨List.mem_of_getElem? final, ?_⟩
        rintro rfl
        omega
      · rename_i before elsewhere
        refine ⟨List.mem_of_getElem? found, ?_⟩
        rintro rfl
        exact elsewhere (indexed position _ found)
    · cases found
  · rintro ⟨held, different⟩
    have place : list[index other]? = some other := indexed.mem_iff.mp held
    have apart : index item ≠ index other := by
      intro same
      rw [← same, own] at place
      exact different (Option.some.inj place).symm
    have bound : index other < list.length := (List.getElem?_eq_some_iff.mp place).1
    by_cases moved : index other = list.length - 1
    · refine ⟨index item, ?_⟩
      rw [moved, final] at place
      rw [swapRemove_getElem? filled, if_pos (by omega), if_pos rfl, place]
    · refine ⟨index other, ?_⟩
      rw [swapRemove_getElem? filled, if_pos (by omega), if_neg apart, place]

end Removal

section Updates

variable [DecidableEq α] {item last : α}

/-- A new item goes to the end, and its index is the old length. -/
theorem Indexed.concat (indexed : Indexed list index) (absent : item ∉ list) :
    Indexed (list ++ [item]) (Function.update index item list.length) := by
  intro position other found
  by_cases inside : position < list.length
  · rw [List.getElem?_append_left inside] at found
    have different : other ≠ item := by
      rintro rfl
      exact absent (List.mem_of_getElem? found)
    rw [Function.update_of_ne different]
    exact indexed position other found
  · rw [List.getElem?_append_right (by omega), List.getElem?_singleton] at found
    split at found
    · cases found
      rw [Function.update_self]
      omega
    · cases found

/-- The item in the last place takes the place of the removed one. -/
theorem Indexed.remove (indexed : Indexed list index) (listed : item ∈ list)
    (final : list.getLast? = some last) :
    Indexed (swapRemove list (index item) last) (Function.update index last (index item)) := by
  rw [List.getLast?_eq_getElem?] at final
  have lastRow : index last = list.length - 1 := indexed _ _ final
  intro position other found
  rw [swapRemove_getElem? (List.ne_nil_of_mem listed)] at found
  split at found
  · split at found
    · rename_i before here
      cases found
      rw [Function.update_self]
      exact here
    · rename_i before elsewhere
      have own : index other = position := indexed position other found
      have different : other ≠ last := by
        rintro rfl
        omega
      rw [Function.update_of_ne different]
      exact own
  · cases found

end Updates

end Akhira.Base
