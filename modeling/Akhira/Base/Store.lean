import Mathlib

/-!
# Ordered key-value stores

A store holds at most one value for each key and lists its entries in increasing
key order, which is the order an iterator over it follows. The order is a field of
the store, so two stores that answer every lookup alike are the same store. Updates
are described once, by the entry they put in front of the entries of the other keys;
lookups, membership and totals over all entries follow from that description.
-/
namespace Akhira.Base

variable {κ ν : Type} [LinearOrder κ]

/-- Put an entry at its key's place, over the entry of the same key if there is one. -/
def insertEntry (key : κ) (value : ν) : List (κ × ν) → List (κ × ν)
  | [] => [(key, value)]
  | (other, held) :: rest =>
    if key = other then (key, value) :: rest
    else if key < other then (key, value) :: (other, held) :: rest
    else (other, held) :: insertEntry key value rest

/-- Every entry after an insertion is the inserted one or an earlier one. -/
theorem mem_insertEntry {key : κ} {value : ν} {entries : List (κ × ν)} {entry : κ × ν}
    (member : entry ∈ insertEntry key value entries) :
    entry = (key, value) ∨ entry ∈ entries := by
  induction entries with
  | nil => exact .inl (List.mem_singleton.mp member)
  | cons head rest ih =>
    obtain ⟨other, held⟩ := head
    simp only [insertEntry] at member
    split at member
    · rcases List.mem_cons.mp member with same | later
      · exact .inl same
      · exact .inr (List.mem_cons_of_mem _ later)
    · split at member
      · exact List.mem_cons.mp member
      · rcases List.mem_cons.mp member with same | later
        · exact .inr (same ▸ List.mem_cons_self)
        · exact (ih later).imp_right (List.mem_cons_of_mem _)

/-- A second insertion at a key replaces the first. -/
theorem insertEntry_twice (key : κ) (first second : ν) (entries : List (κ × ν)) :
    insertEntry key second (insertEntry key first entries) = insertEntry key second entries := by
  induction entries with
  | nil => simp [insertEntry]
  | cons head rest ih =>
    obtain ⟨other, held⟩ := head
    by_cases same : key = other
    · simp [insertEntry, same]
    · by_cases below : key < other
      · simp [insertEntry, same, below]
      · simp [insertEntry, same, below, ih]

/-- Insertion keeps strictly increasing keys strictly increasing. -/
theorem insertEntry_sorted (key : κ) (value : ν) {entries : List (κ × ν)}
    (sorted : entries.Pairwise fun left right => left.1 < right.1) :
    (insertEntry key value entries).Pairwise fun left right => left.1 < right.1 := by
  induction entries with
  | nil => exact List.pairwise_singleton _ _
  | cons head rest ih =>
    obtain ⟨other, held⟩ := head
    have above := (List.pairwise_cons.mp sorted).1
    have tail := (List.pairwise_cons.mp sorted).2
    simp only [insertEntry]
    split
    · rename_i same
      subst same
      exact List.pairwise_cons.mpr ⟨above, tail⟩
    · split
      · rename_i below
        refine List.pairwise_cons.mpr ⟨fun entry member => ?_, sorted⟩
        rcases List.mem_cons.mp member with rfl | later
        · exact below
        · exact lt_trans below (above entry later)
      · rename_i different notBelow
        refine List.pairwise_cons.mpr ⟨fun entry member => ?_, ih tail⟩
        rcases mem_insertEntry member with rfl | earlier
        · exact lt_of_le_of_ne (not_lt.mp notBelow) (Ne.symm different)
        · exact above entry earlier

/-- At most one value for each key, listed in increasing key order. -/
structure Store (κ ν : Type) [LinearOrder κ] where
  /-- The entries in iterator order. -/
  entries : List (κ × ν)
  /-- Keys strictly increase, so no key occurs twice. -/
  sorted : entries.Pairwise fun left right => left.1 < right.1

namespace Store

/-- The store without entries. -/
def empty : Store κ ν := ⟨[], List.Pairwise.nil⟩

/-- The value held at a key. -/
def get (store : Store κ ν) (key : κ) : Option ν :=
  (store.entries.find? fun entry => decide (entry.1 = key)).map Prod.snd

/-- Whether a key holds a value. -/
def has (store : Store κ ν) (key : κ) : Bool := (store.get key).isSome

/-- Hold a value at a key, over the value held before. -/
def set (store : Store κ ν) (key : κ) (value : ν) : Store κ ν :=
  ⟨insertEntry key value store.entries, insertEntry_sorted key value store.sorted⟩

/-- Hold nothing at a key. -/
def delete (store : Store κ ν) (key : κ) : Store κ ν :=
  ⟨store.entries.filter fun entry => decide (entry.1 ≠ key), store.sorted.filter _⟩

/-- All values in iterator order. -/
def values (store : Store κ ν) : List ν := store.entries.map Prod.snd

/-- All keys in iterator order. -/
def keys (store : Store κ ν) : List κ := store.entries.map Prod.fst

/-- A measure summed over all entries. -/
def total (store : Store κ ν) (measure : κ → ν → Nat) : Nat :=
  (store.entries.map fun entry => measure entry.1 entry.2).sum

/-- Apply a function to every value. -/
def mapValues {ω : Type} (store : Store κ ν) (change : ν → ω) : Store κ ω where
  entries := store.entries.map fun entry => (entry.1, change entry.2)
  sorted := List.pairwise_map.mpr store.sorted

/-- Decode every value; one that does not decode fails the store. -/
def decodeValues {ω : Type} (store : Store κ ν) (decode : ν → Option ω) : Option (Store κ ω) :=
  if store.values.all fun value => (decode value).isSome then
    some {
      entries := store.entries.filterMap fun entry => (decode entry.2).map (entry.1, ·)
      sorted := by
        apply List.pairwise_filterMap.mpr
        refine store.sorted.imp fun {left right} below => ?_
        rintro first held second other
        obtain ⟨-, -, rfl⟩ := Option.map_eq_some_iff.mp held
        obtain ⟨-, -, rfl⟩ := Option.map_eq_some_iff.mp other
        exact below }
  else none

variable (store : Store κ ν)

/-- Stores with the same entries are the same store. -/
theorem ext_entries {left right : Store κ ν} (same : left.entries = right.entries) :
    left = right := by
  cases left
  cases right
  cases same
  rfl

/-- Strict order leaves one entry for each key. -/
theorem entry_unique {key : κ} {left right : ν} (first : (key, left) ∈ store.entries)
    (second : (key, right) ∈ store.entries) : left = right := by
  by_contra different
  have symmetric : Std.Symm fun left right : κ × ν => left.1 ≠ right.1 := ⟨fun _ _ => Ne.symm⟩
  have distinct : store.entries.Pairwise fun left right => left.1 ≠ right.1 :=
    store.sorted.imp fun less => ne_of_lt less
  exact distinct.forall first second (fun same => different (congrArg Prod.snd same)) rfl

/-- Lookup reads exactly the stored entries. -/
theorem get_eq_some {key : κ} {value : ν} :
    store.get key = some value ↔ (key, value) ∈ store.entries := by
  constructor
  · intro found
    obtain ⟨entry, search, rfl⟩ := Option.map_eq_some_iff.mp found
    have same : entry.1 = key := by simpa using List.find?_some search
    rw [← same]
    exact List.mem_of_find?_eq_some search
  · intro member
    cases search : store.entries.find? (fun entry => decide (entry.1 = key)) with
    | none => simpa using List.find?_eq_none.mp search _ member
    | some entry =>
      have same : entry.1 = key := by simpa using List.find?_some search
      have stored : (key, entry.2) ∈ store.entries := same ▸ List.mem_of_find?_eq_some search
      simp [get, search, store.entry_unique stored member]

/-- A key without a value occurs in no entry. -/
theorem get_eq_none {key : κ} :
    store.get key = none ↔ ∀ value, (key, value) ∉ store.entries := by
  constructor
  · intro missing value member
    rw [(store.get_eq_some).mpr member] at missing
    cases missing
  · intro absent
    cases found : store.get key with
    | none => rfl
    | some value => exact absurd ((store.get_eq_some).mp found) (absent value)

/-- Looking up in the empty store finds nothing. -/
@[simp] theorem get_empty (key : κ) : (empty : Store κ ν).get key = none := rfl

/-- A second write at a key replaces the first. -/
theorem set_set (store : Store κ ν) (key : κ) (first second : ν) :
    (store.set key first).set key second = store.set key second :=
  ext_entries (insertEntry_twice key first second store.entries)

/-- Membership after an update: the new entry, or an old entry of another key. -/
theorem mem_set {key : κ} {value : ν} {entry : κ × ν} :
    entry ∈ (store.set key value).entries ↔
      entry = (key, value) ∨ (entry.1 ≠ key ∧ entry ∈ store.entries) := by
  obtain ⟨entries, sorted⟩ := store
  change entry ∈ insertEntry key value entries ↔ _
  induction entries with
  | nil => simp [insertEntry]
  | cons head rest ih =>
    obtain ⟨other, held⟩ := head
    have above := (List.pairwise_cons.mp sorted).1
    have later := ih (List.pairwise_cons.mp sorted).2
    simp only [insertEntry]
    split
    · rename_i same
      subst same
      have apart : ∀ item ∈ rest, item.1 ≠ key := fun item member =>
        ne_of_gt (above item member)
      rw [List.mem_cons, List.mem_cons]
      refine or_congr_right ⟨fun member => ⟨apart entry member, .inr member⟩, ?_⟩
      rintro ⟨different, rfl | member⟩
      · exact absurd rfl different
      · exact member
    · split
      · rename_i below
        have apart : ∀ item ∈ (other, held) :: rest, item.1 ≠ key := by
          intro item member
          rcases List.mem_cons.mp member with rfl | tail
          · exact ne_of_gt below
          · exact ne_of_gt (lt_trans below (above item tail))
        rw [List.mem_cons]
        exact or_congr_right ⟨fun member => ⟨apart entry member, member⟩, And.right⟩
      · rename_i different _
        rw [List.mem_cons, List.mem_cons, later]
        constructor
        · rintro (rfl | rfl | ⟨apart, member⟩)
          · exact .inr ⟨Ne.symm different, .inl rfl⟩
          · exact .inl rfl
          · exact .inr ⟨apart, .inr member⟩
        · rintro (rfl | ⟨apart, rfl | member⟩)
          · exact .inr (.inl rfl)
          · exact .inl rfl
          · exact .inr (.inr ⟨apart, member⟩)

/-- Membership after a deletion: the old entries of the other keys. -/
theorem mem_delete {key : κ} {entry : κ × ν} :
    entry ∈ (store.delete key).entries ↔ entry.1 ≠ key ∧ entry ∈ store.entries := by
  simp only [delete, List.mem_filter, decide_eq_true_eq]
  exact and_comm

/-- An updated key holds the new value. -/
@[simp] theorem get_set_same (key : κ) (value : ν) :
    (store.set key value).get key = some value := by
  rw [get_eq_some, mem_set]
  exact .inl rfl

/-- An update changes no other key. -/
theorem get_set_other {key other : κ} (value : ν) (different : other ≠ key) :
    (store.set key value).get other = store.get other := by
  apply Option.ext
  intro held
  rw [get_eq_some, get_eq_some, mem_set]
  constructor
  · rintro (same | ⟨_, member⟩)
    · exact absurd (congrArg Prod.fst same) different
    · exact member
  · exact fun member => .inr ⟨different, member⟩

/-- A deleted key holds nothing. -/
@[simp] theorem get_delete_same (key : κ) : (store.delete key).get key = none := by
  rw [get_eq_none]
  intro value member
  exact (store.mem_delete.mp member).1 rfl

/-- A deletion changes no other key. -/
theorem get_delete_other {key other : κ} (different : other ≠ key) :
    (store.delete key).get other = store.get other := by
  apply Option.ext
  intro held
  rw [get_eq_some, get_eq_some, mem_delete]
  exact ⟨And.right, fun member => ⟨different, member⟩⟩

/-- Values that were encoded decode to the store they were encoded from. -/
theorem decodeValues_mapValues {ω : Type} (encode : ν → ω) {decode : ω → Option ν}
    (roundTrip : ∀ value, decode (encode value) = some value) :
    (store.mapValues encode).decodeValues decode = some store := by
  have decoded : ((store.mapValues encode).values.all fun value => (decode value).isSome) = true := by
    rw [List.all_eq_true]
    intro value member
    simp only [values, mapValues, List.map_map, List.mem_map] at member
    obtain ⟨entry, -, rfl⟩ := member
    rw [Function.comp_apply, roundTrip]
    rfl
  unfold decodeValues
  rw [if_pos decoded, Option.some.injEq]
  apply ext_entries
  calc (store.entries.map fun entry => (entry.1, encode entry.2)).filterMap
        (fun entry => (decode entry.2).map (entry.1, ·))
      = store.entries.filterMap some := by
        rw [List.filterMap_map]
        congr 1
        funext entry
        rw [Function.comp_apply, roundTrip]
        rfl
    _ = store.entries := List.filterMap_some

/-- Every entry has a property. -/
def All (property : κ → ν → Prop) (store : Store κ ν) : Prop :=
  ∀ key value, store.get key = some value → property key value

/-- A store without entries has every property. -/
theorem All.empty {property : κ → ν → Prop} : All property (Store.empty : Store κ ν) := by
  intro key value found
  rw [get_empty] at found
  cases found

/-- A property of all entries is kept by writing an entry that has it. -/
theorem All.set {property : κ → ν → Prop} {store : Store κ ν} (all : All property store) {key : κ}
    {value : ν} (new : property key value) : All property (store.set key value) := by
  intro other held found
  by_cases same : other = key
  · rw [same, get_set_same, Option.some.injEq] at found
    rw [same, ← found]
    exact new
  · rw [get_set_other _ _ same] at found
    exact all other held found

/-- A property of all entries is kept by deleting one. -/
theorem All.delete {property : κ → ν → Prop} {store : Store κ ν} (all : All property store)
    (key : κ) : All property (store.delete key) := by
  intro other held found
  by_cases same : other = key
  · rw [same, get_delete_same] at found
    cases found
  · rw [get_delete_other _ same] at found
    exact all other held found

/-- A key with a value keeps one when a value is written. -/
theorem isSome_set {key other : κ} {value : ν} (held : (store.get other).isSome = true) :
    ((store.set key value).get other).isSome = true := by
  by_cases same : other = key
  · rw [same, get_set_same]
    rfl
  · rw [get_set_other _ _ same]
    exact held

/-- Applying a function to every value changes what is read. -/
theorem get_mapValues {ω : Type} (change : ν → ω) (key : κ) :
    (store.mapValues change).get key = (store.get key).map change := by
  apply Option.ext
  intro value
  rw [get_eq_some, Option.map_eq_some_iff]
  constructor
  · intro member
    obtain ⟨entry, listed, same⟩ := List.mem_map.mp member
    cases same
    exact ⟨entry.2, store.get_eq_some.mpr listed, rfl⟩
  · rintro ⟨held, found, rfl⟩
    exact List.mem_map.mpr ⟨(key, held), store.get_eq_some.mp found, rfl⟩

/-- An entry behind all others is put last. -/
theorem insertEntry_last {key : κ} {value : ν} {entries : List (κ × ν)}
    (behind : ∀ entry ∈ entries, entry.1 < key) :
    insertEntry key value entries = entries ++ [(key, value)] := by
  induction entries with
  | nil => rfl
  | cons entry rest ih =>
    have above := behind entry List.mem_cons_self
    rw [insertEntry, if_neg (not_lt_of_gt above), if_neg (ne_of_gt above),
      ih fun other later => behind other (List.mem_cons_of_mem _ later)]
    rfl

/-- Writing the values of a store into an empty one, each at its own key, gives the store. -/
theorem foldl_set_values {keyOf : ν → κ} (own : store.All fun key value => key = keyOf value) :
    store.values.foldl (fun built value => built.set (keyOf value) value) empty = store := by
  have built : ∀ (rest : List (κ × ν)) (done : Store κ ν),
      ((done.entries ++ rest).Pairwise fun left right => left.1 < right.1) →
      (∀ entry ∈ rest, entry.1 = keyOf entry.2) →
      ((rest.map Prod.snd).foldl (fun built value => built.set (keyOf value) value) done).entries =
        done.entries ++ rest := by
    intro rest
    induction rest with
    | nil => exact fun done _ _ => (List.append_nil _).symm
    | cons entry rest ih =>
      intro done sorted keyed
      have behind : ∀ other ∈ done.entries, other.1 < keyOf entry.2 := by
        intro other earlier
        rw [← keyed entry List.mem_cons_self]
        exact (List.pairwise_append.mp sorted).2.2 other earlier entry List.mem_cons_self
      have placed : (done.set (keyOf entry.2) entry.2).entries = done.entries ++ [entry] := by
        change insertEntry _ _ _ = _
        rw [insertEntry_last behind, ← keyed entry List.mem_cons_self]
      rw [List.map_cons, List.foldl_cons, ih, placed, List.append_assoc, List.singleton_append]
      · rwa [placed, List.append_assoc, List.singleton_append]
      · exact fun other later => keyed other (List.mem_cons_of_mem _ later)
  apply ext_entries
  exact built store.entries empty store.sorted fun entry listed =>
    own entry.1 entry.2 (store.get_eq_some.mpr listed)

/-- Writing the values of a store into an empty part of a larger state gives that part. -/
theorem foldlM_set_values {σ ε : Type} {step : σ → ν → Except ε σ} {put : Store κ ν → σ}
    {keyOf : ν → κ} (writes : store.All fun key value => key = keyOf value ∧
      ∀ built, step (put built) value = .ok (put (built.set key value))) :
    store.values.foldlM step (put empty) = .ok (put store) := by
  have all : ∀ (values : List ν), (∀ value ∈ values, value ∈ store.values) → ∀ built,
      values.foldlM step (put built) =
        .ok (put (values.foldl (fun built value => built.set (keyOf value) value) built)) := by
    intro values
    induction values with
    | nil => exact fun _ _ => rfl
    | cons value rest ih =>
      intro listed built
      obtain ⟨entry, held, rfl⟩ := List.mem_map.mp (listed value List.mem_cons_self)
      obtain ⟨own, written⟩ := writes entry.1 entry.2 (store.get_eq_some.mpr held)
      rw [List.foldlM_cons, written, own]
      exact ih (fun other later => listed other (List.mem_cons_of_mem _ later)) _
  rw [all store.values (fun _ listed => listed),
    store.foldl_set_values fun key value found => (writes key value found).1]

/-- Entries never repeat. -/
theorem entries_nodup : store.entries.Nodup :=
  store.sorted.imp fun less same => (ne_of_lt less) (congrArg Prod.fst same)

/-- A key is listed once. -/
theorem keys_nodup : store.keys.Nodup :=
  List.pairwise_map.mpr (store.sorted.imp ne_of_lt)

/-- The keys that are listed are those that are stored. -/
theorem mem_keys {key : κ} : key ∈ store.keys ↔ store.has key = true := by
  rw [has, Option.isSome_iff_exists]
  simp only [keys, get_eq_some, List.mem_map, Prod.exists, exists_and_right, exists_eq_right]

/-- Deletions in turn leave the other keys. -/
theorem get_foldl_delete {α : Type} (keyOf : α → κ) (items : List α) (key : κ) :
    (items.foldl (fun store item => store.delete (keyOf item)) store).get key =
      if key ∈ items.map keyOf then none else store.get key := by
  induction items generalizing store with
  | nil => rfl
  | cons item rest ih =>
    rw [List.foldl_cons, ih, List.map_cons]
    by_cases same : key = keyOf item
    · simp [same]
    · simp [same, get_delete_other]

/-- Writes of one value in turn leave the other keys. -/
theorem get_foldl_set {α : Type} (keyOf : α → κ) (value : ν) (items : List α) (key : κ) :
    (items.foldl (fun store item => store.set (keyOf item) value) store).get key =
      if key ∈ items.map keyOf then some value else store.get key := by
  induction items generalizing store with
  | nil => rfl
  | cons item rest ih =>
    rw [List.foldl_cons, ih, List.map_cons]
    by_cases same : key = keyOf item
    · simp [same]
    · simp [same, get_set_other]

/-- An update puts its entry in front of the entries of the other keys, up to order. -/
theorem set_perm (key : κ) (value : ν) :
    (store.set key value).entries.Perm ((key, value) :: (store.delete key).entries) := by
  apply (List.perm_ext_iff_of_nodup (entries_nodup _) ?_).mpr
  · intro entry
    rw [mem_set, List.mem_cons, mem_delete]
  · refine List.nodup_cons.mpr ⟨fun member => ?_, entries_nodup _⟩
    exact (store.mem_delete.mp member).1 rfl

/-- A held entry stands in front of the entries of the other keys, up to order. -/
theorem get_perm {key : κ} {value : ν} (found : store.get key = some value) :
    store.entries.Perm ((key, value) :: (store.delete key).entries) := by
  apply (List.perm_ext_iff_of_nodup (entries_nodup _) ?_).mpr
  · intro entry
    rw [List.mem_cons, mem_delete]
    constructor
    · intro member
      by_cases same : entry.1 = key
      · left
        have stored : (key, entry.2) ∈ store.entries := same ▸ member
        have equal := store.entry_unique stored (store.get_eq_some.mp found)
        exact Prod.ext same equal
      · exact .inr ⟨same, member⟩
    · rintro (rfl | ⟨_, member⟩)
      · exact store.get_eq_some.mp found
      · exact member
  · refine List.nodup_cons.mpr ⟨fun member => ?_, entries_nodup _⟩
    exact (store.mem_delete.mp member).1 rfl

/-- Deleting a key without a value changes nothing. -/
theorem delete_of_get_none {key : κ} (missing : store.get key = none) :
    store.delete key = store := by
  apply ext_entries
  apply List.filter_eq_self.mpr
  intro entry member
  rw [decide_eq_true_eq]
  intro same
  exact store.get_eq_none.mp missing entry.2 (same ▸ member)

/-- A total after an update counts the new entry and the entries of the other keys. -/
theorem total_set (measure : κ → ν → Nat) (key : κ) (value : ν) :
    (store.set key value).total measure =
      measure key value + (store.delete key).total measure := by
  have summed := ((store.set_perm key value).map fun entry => measure entry.1 entry.2).sum_eq
  simpa only [total, List.map_cons, List.sum_cons] using summed

/-- A total counts a held entry and the entries of the other keys. -/
theorem total_of_get (measure : κ → ν → Nat) {key : κ} {value : ν}
    (found : store.get key = some value) :
    store.total measure = measure key value + (store.delete key).total measure := by
  have summed := ((store.get_perm found).map fun entry => measure entry.1 entry.2).sum_eq
  simpa only [total, List.map_cons, List.sum_cons] using summed

/-- Replacing a held value moves a total by the two measures of that key alone. -/
theorem total_replace (measure : κ → ν → Nat) {key : κ} {old : ν} (new : ν)
    (found : store.get key = some old) :
    (store.set key new).total measure + measure key old =
      store.total measure + measure key new := by
  rw [total_set, store.total_of_get measure found]
  omega

/-- The first value of a key adds its measure to a total. -/
theorem total_insert (measure : κ → ν → Nat) {key : κ} (new : ν)
    (missing : store.get key = none) :
    (store.set key new).total measure = measure key new + store.total measure := by
  rw [total_set, store.delete_of_get_none missing]

/-- An update moves a total by the measures of that key alone, the old one being zero when the key
held nothing. -/
theorem total_change (measure : κ → ν → Nat) (key : κ) (new : ν) :
    (store.set key new).total measure + ((store.get key).map (measure key)).getD 0 =
      store.total measure + measure key new := by
  cases found : store.get key with
  | none =>
    rw [store.total_insert measure new found, Option.map_none, Option.getD_none]
    omega
  | some old => exact store.total_replace measure new found

end Store

end Akhira.Base
