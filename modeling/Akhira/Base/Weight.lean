import Mathlib

/-!
# Weighted membership

The total weight of the members among finitely many parties. When one party's
membership or weight changes, the total changes by what that party contributes. The same holds of a
sum over a list without repetitions. Costs that are covered one by one are covered together.
-/
namespace Akhira.Base

variable {ι : Type} [Fintype ι]

/-- What a party contributes: its weight if it is a member. -/
def contribution (member : ι → Bool) (power : ι → Nat) (party : ι) : Nat :=
  if member party then power party else 0

/-- The total weight of the members. -/
def weight (member : ι → Bool) (power : ι → Nat) : Nat := ∑ party, contribution member power party

variable {member member' : ι → Bool} {power power' : ι → Nat}

/-- Without members there is no weight. -/
theorem weight_eq_zero (none : ∀ party, member party = false) : weight member power = 0 := by
  apply Finset.sum_eq_zero
  intro party _
  rw [contribution, none party]
  rfl

/-- A change of one party moves the weight by the two contributions of that party. -/
theorem weight_replace [DecidableEq ι] (changed : ι)
    (others : ∀ party, party ≠ changed →
      contribution member' power' party = contribution member power party) :
    weight member' power' + contribution member power changed =
      weight member power + contribution member' power' changed := by
  have before := Finset.add_sum_erase _ (contribution member power) (Finset.mem_univ changed)
  have after := Finset.add_sum_erase _ (contribution member' power') (Finset.mem_univ changed)
  have rest : ∑ party ∈ Finset.univ.erase changed, contribution member' power' party =
      ∑ party ∈ Finset.univ.erase changed, contribution member power party :=
    Finset.sum_congr rfl fun party inside => others party (Finset.ne_of_mem_erase inside)
  unfold weight
  omega

/-- Distinct parties contribute at most the weight. -/
theorem sum_contribution_le_weight (parties : Finset ι) :
    ∑ party ∈ parties, contribution member power party ≤ weight member power :=
  Finset.sum_le_sum_of_subset (Finset.subset_univ parties)

omit [Fintype ι] in
/-- A party that stays a member contributes no less. -/
theorem contribution_mono {party : ι} (inside : member party = true → member' party = true) :
    contribution member power party ≤ contribution member' power party := by
  unfold contribution
  split
  · next present => rw [if_pos (inside present)]
  · exact Nat.zero_le _

/-- More members weigh no less. -/
theorem weight_mono (inside : ∀ party, member party = true → member' party = true) :
    weight member power ≤ weight member' power :=
  Finset.sum_le_sum fun party _ => contribution_mono (inside party)

/-- One more member weighs that much more. -/
theorem weight_add_le [DecidableEq ι] {added : ι}
    (inside : ∀ party, member party = true → member' party = true)
    (present : member' added = true) (absent : member added = false) :
    weight member power + power added ≤ weight member' power := by
  have before := Finset.add_sum_erase _ (contribution member power) (Finset.mem_univ added)
  have after := Finset.add_sum_erase _ (contribution member' power) (Finset.mem_univ added)
  have rest : ∑ party ∈ Finset.univ.erase added, contribution member power party ≤
      ∑ party ∈ Finset.univ.erase added, contribution member' power party :=
    Finset.sum_le_sum fun party _ => contribution_mono (inside party)
  have nothing : contribution member power added = 0 := by
    rw [contribution, absent]
    rfl
  have all : contribution member' power added = power added := if_pos present
  unfold weight
  omega

/-- The members are among some parties: these contribute the weight. -/
theorem weight_eq_sum (parties : Finset ι)
    (inside : ∀ party, member party = true → party ∈ parties) :
    weight member power = ∑ party ∈ parties, contribution member power party := by
  symm
  apply Finset.sum_subset (Finset.subset_univ parties)
  intro party _ outside
  have absent : member party = false := by
    cases present : member party with
    | false => rfl
    | true => exact absurd (inside party present) outside
  rw [contribution, absent]
  rfl

/-- A change of one item of a list without repetitions moves the sum by the two values of it. -/
theorem sum_replace {α : Type} {items : List α} {before after : α → Nat} {changed : α}
    (once : items.Nodup) (listed : changed ∈ items)
    (others : ∀ item ∈ items, item ≠ changed → after item = before item) :
    (items.map after).sum + before changed = (items.map before).sum + after changed := by
  classical
  have earlier := List.sum_map_erase before listed
  have later := List.sum_map_erase after listed
  have rest : (items.erase changed).map after = (items.erase changed).map before := by
    apply List.map_congr_left
    intro item kept
    exact others item (List.mem_of_mem_erase kept) (once.mem_erase_iff.mp kept).1
  rw [rest] at later
  omega

/-- Items without repetitions cost no more than funds of which none covers two of them and one
covers each that costs anything. -/
theorem sum_le_of_covered {α β : Type} {items : List α} {funds : List β} {covers : β → α → Prop}
    {cost : α → Nat} {worth : β → Nat} (once : items.Nodup)
    (single : ∀ fund, ∀ left ∈ items, ∀ right ∈ items, covers fund left → covers fund right →
      left = right)
    (covered : ∀ item ∈ items, cost item ≠ 0 → ∃ fund ∈ funds, covers fund item ∧
      cost item ≤ worth fund) :
    (items.map cost).sum ≤ (funds.map worth).sum := by
  induction items generalizing funds with
  | nil => exact Nat.zero_le _
  | cons item rest ih =>
    obtain ⟨new, once⟩ := List.nodup_cons.mp once
    have singleLater : ∀ fund, ∀ left ∈ rest, ∀ right ∈ rest, covers fund left →
        covers fund right → left = right := fun fund left first right second =>
      single fund left (List.mem_cons_of_mem _ first) right (List.mem_cons_of_mem _ second)
    have later : ∀ other ∈ rest, cost other ≠ 0 → ∃ fund ∈ funds, covers fund other ∧
        cost other ≤ worth fund := fun other listed =>
      covered other (List.mem_cons_of_mem _ listed)
    rw [List.map_cons, List.sum_cons]
    by_cases free : cost item = 0
    · rw [free, Nat.zero_add]
      exact ih once singleLater later
    · obtain ⟨fund, listed, covers_item, enough⟩ := covered item List.mem_cons_self free
      obtain ⟨before, after, rfl⟩ := List.append_of_mem listed
      -- the fund is spent, and it covers none of the other items
      have remaining : ∀ other ∈ rest, cost other ≠ 0 → ∃ fund ∈ before ++ after,
          covers fund other ∧ cost other ≤ worth fund := by
        intro other kept costs
        obtain ⟨source, found, covers_other, sufficient⟩ := later other kept costs
        refine ⟨source, ?_, covers_other, sufficient⟩
        rw [List.mem_append, List.mem_cons] at found
        rw [List.mem_append]
        rcases found with earlier | rfl | further
        · exact .inl earlier
        · have same := single source item List.mem_cons_self other (List.mem_cons_of_mem _ kept)
            covers_item covers_other
          exact absurd (same ▸ kept) new
        · exact .inr further
      have others := ih once singleLater remaining
      simp only [List.map_append, List.sum_append, List.map_cons, List.sum_cons] at others ⊢
      omega

end Akhira.Base
