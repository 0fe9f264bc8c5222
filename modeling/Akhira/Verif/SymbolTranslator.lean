import Akhira.Relayer.SymbolTranslator

/-!
# Which names the table gives back

A name without an entry is passed on as it is in both directions. So a denomination comes back
when it has an entry and no other denomination has its symbol, or when it has none and is the
symbol of no denomination. For any other some order of the entries gives another name.
-/
namespace Akhira.Verif.Relayer

open Akhira.Base Akhira.Relayer

section Tables

variable {entries order : List (String × String)} {key value : String}

/-- A new pair is found under its first part. -/
theorem forward_concat (order : List (String × String)) (entry : String × String) :
    (insertAll (order ++ [entry])).forward =
      Function.update (insertAll order).forward entry.1 (some entry.2) := by
  rw [insertAll, List.foldl_append]
  rfl

/-- A new pair is found under its second part. -/
theorem inverse_concat (order : List (String × String)) (entry : String × String) :
    (insertAll (order ++ [entry])).inverse =
      Function.update (insertAll order).inverse entry.2 (some entry.1) := by
  rw [insertAll, List.foldl_append]
  rfl

/-- The table forward is the map. -/
theorem forward_iff (distinct : (order.map Prod.fst).Nodup) :
    (insertAll order).forward key = some value ↔ (key, value) ∈ order := by
  induction order using List.reverseRecOn with
  | nil => simp [insertAll, newSymbolTranslator]
  | append_singleton order entry ih =>
    rw [List.map_append, List.nodup_append] at distinct
    obtain ⟨earlier, -, apart⟩ := distinct
    rw [forward_concat, List.mem_append, List.mem_singleton]
    by_cases same : key = entry.1
    · have fresh : (key, value) ∉ order := by
        intro listed
        exact apart key (List.mem_map.mpr ⟨_, listed, rfl⟩) entry.1 (by simp) same
      rw [same, Function.update_self]
      rw [same] at fresh
      constructor
      · rintro ⟨⟩
        exact .inr rfl
      · rintro (listed | last)
        · exact absurd listed fresh
        · rw [← last]
    · rw [Function.update_of_ne same, ih earlier]
      refine ⟨.inl, fun listed => listed.resolve_right ?_⟩
      rintro rfl
      exact same rfl

/-- Backward the table gives a key of the symbol. -/
theorem mem_of_inverse (found : (insertAll order).inverse value = some key) :
    (key, value) ∈ order := by
  induction order using List.reverseRecOn with
  | nil => cases found
  | append_singleton order entry ih =>
    rw [inverse_concat] at found
    by_cases same : value = entry.2
    · subst same
      rw [Function.update_self, Option.some.injEq] at found
      rw [← found]
      exact List.mem_append_right _ (List.mem_singleton.mpr rfl)
    · rw [Function.update_of_ne same] at found
      exact List.mem_append_left _ (ih found)

/-- Every second part that is listed has some first part. -/
theorem inverse_of_mem (listed : (key, value) ∈ order) :
    ∃ found, (insertAll order).inverse value = some found := by
  induction order using List.reverseRecOn with
  | nil => cases listed
  | append_singleton order entry ih =>
    rw [inverse_concat]
    by_cases same : value = entry.2
    · exact ⟨entry.1, by rw [same, Function.update_self]⟩
    · rw [Function.update_of_ne same]
      refine ih ((List.mem_append.mp listed).resolve_right fun last => ?_)
      exact same (congrArg Prod.snd (List.mem_singleton.mp last))

/-- The entry inserted last is found backward. -/
theorem inverse_last (order : List (String × String)) (entry : String × String) :
    (insertAll (order ++ [entry])).inverse entry.2 = some entry.1 := by
  rw [inverse_concat, Function.update_self]

/-- The keys of a map are distinct. -/
theorem symbolMap_distinct {jsonContents : String} (read : symbolMap jsonContents = some entries) :
    (entries.map Prod.fst).Nodup := by
  have kept : ∀ members : List (String × String),
      ((members.foldl setEntry []).map Prod.fst).Nodup := by
    intro members
    induction members using List.reverseRecOn with
    | nil => exact List.nodup_nil
    | append_singleton members entry ih =>
      rw [List.foldl_append, List.foldl_cons, List.foldl_nil, setEntry, List.map_append]
      refine List.Nodup.append (ih.sublist (List.filter_sublist.map _)) (List.nodup_singleton _) ?_
      intro key listed last
      obtain ⟨other, kept, rfl⟩ := List.mem_map.mp listed
      have differs := (List.mem_filter.mp kept).2
      rw [List.map_singleton, List.mem_singleton] at last
      simp [last] at differs
  simp only [symbolMap, Option.bind_eq_bind, Option.bind_eq_some_iff, Option.some.injEq] at read
  obtain ⟨_, _, members, _, rfl⟩ := read
  exact kept members

end Tables

/-- No other name is mixed up with a denomination. -/
structure Unmixed (entries : List (String × String)) (denom : String) : Prop where
  /-- No other denomination has its symbol. -/
  symbol : ∀ symbol, (denom, symbol) ∈ entries → ∀ other, (other, symbol) ∈ entries → other = denom
  /-- Without an entry it is no symbol. -/
  name : (∀ symbol, (denom, symbol) ∉ entries) → ∀ other, (other, denom) ∉ entries

/-- A denomination comes back from every table that an object may give exactly when it is not
mixed up with another name. -/
theorem translation_reversible_iff (jsonContents : String) (entries : List (String × String))
    (read : symbolMap jsonContents = some entries) (denom : String) :
    (∀ table, NewSymbolTranslatorFromJSONBytes jsonContents table →
      table.ethereumToSifchain (table.sifchainToEthereum denom) = denom) ↔
    Unmixed entries denom := by
  have distinct := symbolMap_distinct read
  constructor
  · intro reversible
    constructor
    · intro symbol own other listed
      -- the other entry is inserted last
      let order := entries.erase (other, symbol) ++ [(other, symbol)]
      have permuted : order.Perm entries :=
        (List.perm_append_singleton _ _).trans (List.perm_cons_erase listed).symm
      have back := reversible (insertAll order) ⟨entries, order, read, permuted, rfl⟩
      have forward : (insertAll order).forward denom = some symbol :=
        (forward_iff ((permuted.map _).nodup_iff.mpr distinct)).mpr (permuted.mem_iff.mpr own)
      rw [SymbolTranslator.sifchainToEthereum, forward, Option.getD_some,
        SymbolTranslator.ethereumToSifchain, inverse_last _ (other, symbol), Option.getD_some] at back
      exact back
    · intro unlisted other listed
      have back := reversible (insertAll entries) ⟨entries, entries, read, .refl _, rfl⟩
      have forward : (insertAll entries).forward denom = none := by
        rw [Option.eq_none_iff_forall_ne_some]
        exact fun symbol found => unlisted symbol ((forward_iff distinct).mp found)
      obtain ⟨found, inverse⟩ := inverse_of_mem listed
      rw [SymbolTranslator.sifchainToEthereum, forward, Option.getD_none,
        SymbolTranslator.ethereumToSifchain, inverse, Option.getD_some] at back
      rw [back] at inverse
      exact unlisted denom (mem_of_inverse inverse)
  · rintro unmixed table ⟨others, order, again, permuted, rfl⟩
    obtain rfl : others = entries := Option.some.inj (again.symm.trans read)
    have keys := (permuted.map Prod.fst).nodup_iff.mpr distinct
    cases forward : (insertAll order).forward denom with
    | some symbol =>
      have own := (forward_iff keys).mp forward
      obtain ⟨found, inverse⟩ := inverse_of_mem own
      rw [SymbolTranslator.sifchainToEthereum, forward, Option.getD_some,
        SymbolTranslator.ethereumToSifchain, inverse, Option.getD_some]
      exact unmixed.symbol symbol (permuted.mem_iff.mp own) found
        (permuted.mem_iff.mp (mem_of_inverse inverse))
    | none =>
      rw [SymbolTranslator.sifchainToEthereum, forward, Option.getD_none,
        SymbolTranslator.ethereumToSifchain]
      cases inverse : (insertAll order).inverse denom with
      | none => rfl
      | some other =>
        refine absurd (permuted.mem_iff.mp (mem_of_inverse inverse)) (unmixed.name ?_ other)
        intro symbol listed
        rw [(forward_iff keys).mpr (permuted.mem_iff.mpr listed)] at forward
        cases forward

section Sample

/-- An object with one entry. -/
def faceObject : String := " \x7b\"ibc/FEEDFACE\": \"Face\"\x7d "

/-- The sample object is read as one pair. -/
theorem faceObject_read : symbolMap faceObject = some [("ibc/FEEDFACE", "Face")] := by
  decide +kernel

/-- In the table of the sample object the symbol comes back. -/
theorem face_comes_back : ∃ table, NewSymbolTranslatorFromJSONBytes faceObject table ∧
    table.ethereumToSifchain (table.sifchainToEthereum "ibc/FEEDFACE") = "ibc/FEEDFACE" := by
  have built : NewSymbolTranslatorFromJSONBytes faceObject (insertAll [("ibc/FEEDFACE", "Face")]) :=
    ⟨_, _, faceObject_read, .refl _, rfl⟩
  refine ⟨_, built, (translation_reversible_iff faceObject _ faceObject_read _).mpr ?_ _ built⟩
  constructor
  · intro symbol _ other listed
    exact congrArg Prod.fst (List.mem_singleton.mp listed)
  · intro unlisted
    exact absurd (List.mem_singleton.mpr rfl) (unlisted "Face")

/-- The name of a symbol is passed on, and comes back as the denomination of the symbol. -/
theorem symbol_comes_back_as_denom :
    ∃ table, NewSymbolTranslatorFromJSONBytes faceObject table ∧
      table.sifchainToEthereum "Face" = "Face" ∧
      table.ethereumToSifchain (table.sifchainToEthereum "Face") = "ibc/FEEDFACE" :=
  ⟨insertAll [("ibc/FEEDFACE", "Face")], ⟨_, _, faceObject_read, .refl _, rfl⟩, by decide +kernel,
    by decide +kernel⟩

end Sample

end Akhira.Verif.Relayer
