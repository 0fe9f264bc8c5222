import Akhira.Base.Run
import Akhira.TokenRegistry.MsgServer

/-!
# The registry is a map

A lookup finds the first entry whose denomination agrees up to letter case, so the list stands for a
map from folded denominations to entries. Every message changes the list as it changes the map, also
when the list has several entries for one denomination.
-/
namespace Akhira.Verif.TokenRegistry

open Akhira.Base Akhira.Sdk Akhira.TokenRegistry Akhira.TokenRegistry.Server

/-- A denomination up to letter case. -/
def folded (denom : String) : List Char := denom.toList.map foldChar

/-- Two texts are alike exactly when they fold to the same. -/
theorem equalFold_iff {left right : String} :
    equalFold left right = true ↔ folded left = folded right := by
  rw [equalFold, decide_eq_true_eq, folded, folded]

/-- The map from folded denominations to entries. -/
abbrev Directory := List Char → Option RegistryEntry

/-- The map that a list stands for: the first entry counts. -/
def directory (registry : Registry) : Directory :=
  fun key => registry.find? fun entry => folded entry.denom = key

/-- What a lookup in the map returns. -/
def Directory.getEntry (entries : Directory) (denom : String) : Outcome RegistryEntry :=
  Outcome.present (entries (folded denom))
    (.error (errKeyNotFound.wrap "registry entry not found"))

section Lookups

variable {registry : Registry} {entry : RegistryEntry} {denom other : String}

/-- A lookup in the list is one in the map. -/
theorem getEntry_eq (registry : Registry) (denom : String) :
    getEntry registry denom = (directory registry).getEntry denom := by
  have same : (fun entry : RegistryEntry => equalFold entry.denom denom) =
      fun entry => decide (folded entry.denom = folded denom) := by
    funext entry
    rw [Bool.eq_iff_iff, equalFold_iff, decide_eq_true_eq]
  rw [getEntry, same, Directory.getEntry, directory]

/-- An entry is found under the folded denomination. -/
theorem getEntry_ok : getEntry registry denom = .ok entry ↔
    directory registry (folded denom) = some entry := by
  rw [getEntry_eq, Directory.getEntry, Outcome.present_ok]

/-- What is found is an entry for the denomination. -/
theorem getEntry_folded (found : getEntry registry denom = .ok entry) :
    folded entry.denom = folded denom := by
  have holds := List.find?_some (getEntry_ok.mp found)
  rwa [decide_eq_true_eq] at holds

/-- What is found depends on the folded denomination only. -/
theorem getEntry_congr (same : folded denom = folded other) :
    getEntry registry denom = getEntry registry other := by
  rw [getEntry_eq, getEntry_eq, Directory.getEntry, Directory.getEntry, same]

/-- The first entry of a folded denomination is the one that counts. -/
theorem directory_cons (entry : RegistryEntry) (registry : Registry) (key : List Char) :
    directory (entry :: registry) key =
      if folded entry.denom = key then some entry else directory registry key := by
  rw [directory, List.find?_cons]
  by_cases own : folded entry.denom = key
  · simp [own]
  · simp [own, directory]

/-- `SetToken` is an update of the map. -/
theorem directory_setToken (registry : Registry) (entry : RegistryEntry) :
    directory (setToken registry entry) =
      Function.update (directory registry) (folded entry.denom) (some entry) := by
  funext key
  induction registry with
  | nil =>
    rw [setToken, directory_cons, Function.update_apply]
    simp only [eq_comm]
  | cons first rest ih =>
    rw [setToken]
    by_cases same : folded first.denom = folded entry.denom
    · rw [if_pos (equalFold_iff.mpr same), directory_cons, Function.update_apply, directory_cons,
        same]
      by_cases own : folded entry.denom = key
      · simp [own]
      · simp [own, Ne.symm own]
    · rw [if_neg (mt equalFold_iff.mp same), directory_cons, ih, Function.update_apply,
        Function.update_apply, directory_cons]
      by_cases own : key = folded entry.denom
      · rw [if_pos own, if_pos own, if_neg (own ▸ same)]
      · rw [if_neg own, if_neg own]

/-- `RemoveToken` takes a denomination out of the map. -/
theorem directory_removeToken (registry : Registry) (denom : String) :
    directory (removeToken registry denom) =
      Function.update (directory registry) (folded denom) none := by
  funext key
  induction registry with
  | nil =>
    rw [Function.update_apply]
    simp [removeToken, directory]
  | cons first rest ih =>
    rw [removeToken, List.filter_cons]
    by_cases same : folded first.denom = folded denom
    · rw [if_neg (by simp [equalFold_iff.mpr same])]
      rw [removeToken] at ih
      rw [ih, Function.update_apply, Function.update_apply, directory_cons]
      by_cases own : key = folded denom
      · rw [if_pos own, if_pos own]
      · rw [if_neg own, if_neg own, if_neg (fun key_eq => own (key_eq.symm.trans same))]
    · have kept : (!equalFold first.denom denom) = true := by
        rw [Bool.not_eq_true', ← Bool.not_eq_true]
        exact mt equalFold_iff.mp same
      rw [removeToken] at ih
      rw [if_pos kept, directory_cons, ih, Function.update_apply, Function.update_apply,
        directory_cons]
      by_cases own : key = folded denom
      · rw [if_pos own, if_pos own, if_neg (own ▸ same)]
      · rw [if_neg own, if_neg own]

end Lookups

section Messages

/-- The map with the account that may change it. -/
structure Catalogue where
  entries : Directory
  adminAccount : AccAddress

/-- What a message does to the map. -/
def Directory.change (entries : Directory) : Msg → Directory
  | .register _ (some entry) => Function.update entries (folded entry.denom) (some entry)
  | .setRegistry _ (some registry) => directory registry
  | .deregister _ denom => Function.update entries (folded denom) none
  | _ => entries

/-- Deliver a message to the map, under the checks of the messages. -/
def Catalogue.deliver (chain : Chain) (catalogue : Catalogue) (msg : Msg) : Outcome Catalogue := do
  msg.validateBasic chain
  requireAdmin chain catalogue.adminAccount msg.fromAddress
  pure { catalogue with entries := catalogue.entries.change msg }

/-- The map that the store stands for. -/
def view (state : State) : Catalogue := ⟨directory state.registry, state.adminAccount⟩

variable {chain : Chain}

/-- A message that passes its checks has the field it is about. -/
theorem handle_ok {state : State} {msg : Msg} (checked : msg.validateBasic chain = .ok ())
    (allowed : requireAdmin chain state.adminAccount msg.fromAddress = .ok ()) :
    ∃ next, handle chain state msg = .ok next ∧ next.adminAccount = state.adminAccount ∧
      directory next.registry = (directory state.registry).change msg := by
  unfold handle
  rw [allowed]
  cases msg with
  | register fromAddress entry =>
    cases entry with
    | none => cases checked
    | some entry => exact ⟨_, rfl, rfl, directory_setToken state.registry entry⟩
  | setRegistry fromAddress registry =>
    cases registry with
    | none => cases checked
    | some registry => exact ⟨_, rfl, rfl, rfl⟩
  | deregister fromAddress denom => exact ⟨_, rfl, rfl, directory_removeToken state.registry denom⟩

/-- A message changes the list as it changes the map. -/
theorem deliver_view (state : State) (msg : Msg) :
    view (attempt (deliver chain) state msg) =
      attempt (Catalogue.deliver chain) (view state) msg := by
  cases checked : msg.validateBasic chain with
  | error fault =>
    have list : deliver chain state msg = .error fault := by rw [deliver, checked]; rfl
    have map : (view state).deliver chain msg = .error fault := by
      rw [Catalogue.deliver, checked]
      rfl
    rw [attempt_error list, attempt_error map]
  | ok =>
    cases allowed : requireAdmin chain state.adminAccount msg.fromAddress with
    | error fault =>
      have list : deliver chain state msg = .error fault := by
        rw [deliver, checked]
        change handle chain state msg = _
        unfold handle
        rw [allowed]
        rfl
      have map : (view state).deliver chain msg = .error fault := by
        rw [Catalogue.deliver, checked, view, allowed]
        rfl
      rw [attempt_error list, attempt_error map]
    | ok =>
      obtain ⟨next, handled, admin, changed⟩ := handle_ok checked allowed
      have list : deliver chain state msg = .ok next := by
        rw [deliver, checked]
        exact handled
      have map : (view state).deliver chain msg = .ok (view next) := by
        rw [Catalogue.deliver, checked, view, allowed, view, changed, admin]
        rfl
      rw [attempt_ok list, attempt_ok map]

/-- After any messages every lookup returns what it returns in the map that they are delivered to.
In particular an entry is set for its denomination only, and a removed denomination is no longer
found while the others stay. -/
theorem registry_is_map (chain : Chain) (state : State) (msgs : List Msg) :
    (∀ denom, getEntry (run (deliver chain) state msgs).registry denom =
      (run (Catalogue.deliver chain) (view state) msgs).entries.getEntry denom) ∧
    (∀ registry entry denom, getEntry (setToken registry entry) denom =
      if equalFold entry.denom denom then .ok entry else getEntry registry denom) ∧
    ∀ registry removed denom, getEntry (removeToken registry removed) denom =
      if equalFold removed denom then
        .error (.error (errKeyNotFound.wrap "registry entry not found"))
      else getEntry registry denom := by
  refine ⟨fun denom => ?_, fun registry entry denom => ?_, fun registry removed denom => ?_⟩
  · rw [getEntry_eq, ← run_simulates deliver_view]
    rfl
  · rw [getEntry_eq, Directory.getEntry, directory_setToken]
    by_cases same : folded entry.denom = folded denom
    · rw [if_pos (equalFold_iff.mpr same), same, Function.update_self]
      rfl
    · rw [if_neg (mt equalFold_iff.mp same), Function.update_of_ne (Ne.symm same), getEntry_eq]
      rfl
  · rw [getEntry_eq, Directory.getEntry, directory_removeToken]
    by_cases same : folded removed = folded denom
    · rw [if_pos (equalFold_iff.mpr same), same, Function.update_self]
      rfl
    · rw [if_neg (mt equalFold_iff.mp same), Function.update_of_ne (Ne.symm same), getEntry_eq]
      rfl

/-- The first of two entries counts until it is replaced, and a removal takes out both. -/
example :
    let upper : RegistryEntry := ⟨"CDAI", 18, [], "CDAI"⟩
    let lower : RegistryEntry := ⟨"cdai", 6, [], "cdai"⟩
    getEntry [upper, lower] "cDai" = .ok upper ∧
      getEntry (setToken [upper, lower] ⟨"cDAI", 9, [], ""⟩) "cdai" = .ok ⟨"cDAI", 9, [], ""⟩ ∧
      removeToken [upper, lower] "cdai" = [] := by
  decide +kernel

end Messages

end Akhira.Verif.TokenRegistry
