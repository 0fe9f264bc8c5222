import Mathlib

/-!
# Sequenced results

When a sequence of calls that may fail succeeds. A proof about such a sequence names
the results of its calls and never evaluates its failures.
-/
namespace Akhira.Base.Result

variable {ε α β : Type}

/-- A sequence succeeds when each of its calls does. -/
@[simp] theorem bind_ok {call : Except ε α} {next : α → Except ε β} {result : β} :
    (call >>= next) = .ok result ↔ ∃ value, call = .ok value ∧ next value = .ok result := by
  cases call <;> simp [bind, Except.bind]

/-- A pure value is its own result. -/
@[simp] theorem pure_ok {value result : α} :
    (pure value : Except ε α) = .ok result ↔ value = result := by
  simp [pure, Except.pure]

/-- A call that succeeds has a result. -/
theorem exists_of_isOk {call : Except ε α} (succeeds : call.isOk = true) :
    ∃ value, call = .ok value := by
  cases call with
  | error fault => cases succeeds
  | ok value => exact ⟨value, rfl⟩

/-- A loop succeeds when each round does and leaves the state fit for the rest. -/
theorem foldlM_succeeds {step : β → α → Except ε β} {fits : β → List α → Prop}
    (first : ∀ state head rest, fits state (head :: rest) →
      ∃ next, step state head = .ok next ∧ fits next rest)
    {state : β} {items : List α} (start : fits state items) :
    ∃ final, items.foldlM step state = .ok final := by
  induction items generalizing state with
  | nil => exact ⟨state, rfl⟩
  | cons head rest ih =>
    obtain ⟨next, stepped, stillFits⟩ := first state head rest start
    obtain ⟨final, later⟩ := ih stillFits
    refine ⟨final, ?_⟩
    rw [List.foldlM_cons, stepped]
    exact later

/-- Whatever a call returns has a property. -/
def Ensures (property : α → Prop) (call : Except ε α) : Prop :=
  ∀ result, call = .ok result → property result

namespace Ensures

variable {property : β → Prop} {call : Except ε α} {rest : α → Except ε β}

/-- What the first call ensures may be used by what comes after it. -/
theorem bind {middle : α → Prop} (first : Ensures middle call)
    (later : ∀ value, middle value → Ensures property (rest value)) :
    Ensures property (call >>= rest) := by
  intro result returned
  obtain ⟨value, called, finished⟩ := bind_ok.mp returned
  exact later value (first value called) result finished

/-- A call whose result does not matter. -/
theorem pass (later : ∀ value, Ensures property (rest value)) : Ensures property (call >>= rest) :=
  bind (fun _ _ => trivial) fun value (_ : True) => later value

/-- A result that is returned has the property when it holds of it. -/
theorem pure {result : β} (holds : property result) :
    Ensures property (Pure.pure result : Except ε β) := by
  intro other same
  rw [← pure_ok.mp same]
  exact holds

/-- A loop whose rounds keep a property keeps it. -/
theorem foldlM {step : β → α → Except ε β} {items : List α}
    (kept : ∀ state, ∀ item ∈ items, property state → Ensures property (step state item)) {start : β}
    (holds : property start) : Ensures property (items.foldlM step start) := by
  induction items generalizing start with
  | nil => exact pure holds
  | cons item others ih =>
    rw [List.foldlM_cons]
    exact bind (kept start item List.mem_cons_self holds) fun state still =>
      ih (fun state other later => kept state other (List.mem_cons_of_mem _ later)) still

end Ensures

/-- Whatever a call fails with has a property. -/
def Blames (property : ε → Prop) (call : Except ε α) : Prop :=
  ∀ fault, call = .error fault → property fault

namespace Blames

variable {property : ε → Prop} {call : Except ε α} {rest : α → Except ε β}

/-- A success blames nobody. -/
theorem ok {value : α} : Blames property (.ok value : Except ε α) := by
  intro fault failed
  cases failed

/-- A returned value blames nobody. -/
theorem pure {value : α} : Blames property (Pure.pure value : Except ε α) := ok

/-- A failure has the property when its fault has it. -/
theorem error {fault : ε} (holds : property fault) : Blames property (.error fault : Except ε α) := by
  intro other same
  cases same
  exact holds

/-- A sequence blames what its parts blame. -/
theorem bind (first : Blames property call)
    (later : ∀ value, call = .ok value → Blames property (rest value)) :
    Blames property (call >>= rest) := by
  cases called : call with
  | error fault =>
    intro other failed
    cases failed
    exact first fault called
  | ok value => exact later value called

/-- A loop fails only as its rounds do. -/
theorem foldlM {step : β → α → Except ε β} {items : List α}
    (each : ∀ state, ∀ item ∈ items, Blames property (step state item)) (start : β) :
    Blames property (items.foldlM step start) := by
  induction items generalizing start with
  | nil => exact ok
  | cons item others ih =>
    rw [List.foldlM_cons]
    apply bind (each start item List.mem_cons_self)
    intro next _
    exact ih (fun state other later => each state other (List.mem_cons_of_mem _ later)) next

/-- Calls over a list fail only as the calls do. -/
theorem mapM {read : α → Except ε β} {list : List α}
    (each : ∀ item ∈ list, Blames property (read item)) : Blames property (list.mapM read) := by
  induction list with
  | nil => exact ok
  | cons item others ih =>
    rw [List.mapM_cons]
    apply bind (each item List.mem_cons_self)
    intro first _
    apply bind (ih fun other later => each other (List.mem_cons_of_mem _ later))
    intro results _
    exact ok

end Blames

/-- Calls that each give an entry back give the list back. -/
theorem mapM_map_ok {write : β → α} {read : α → Except ε β} {list : List β}
    (inverse : ∀ item ∈ list, read (write item) = .ok item) :
    (list.map write).mapM read = .ok list := by
  induction list with
  | nil => rfl
  | cons item rest ih =>
    rw [List.map_cons, List.mapM_cons, inverse item List.mem_cons_self,
      ih fun other later => inverse other (List.mem_cons_of_mem _ later)]
    rfl

/-- What calls over a list return comes from its entries. -/
theorem mapM_ok_forall {read : α → Except ε β} {property : β → Prop} {list : List α}
    {results : List β} (holds : ∀ item ∈ list, Ensures property (read item))
    (returned : list.mapM read = .ok results) : ∀ result ∈ results, property result := by
  induction list generalizing results with
  | nil =>
    cases returned
    exact fun result absent => absurd absent List.not_mem_nil
  | cons item rest ih =>
    simp only [List.mapM_cons, bind_ok, pure_ok] at returned
    obtain ⟨first, read, others, later, rfl⟩ := returned
    intro result listed
    rcases List.mem_cons.mp listed with rfl | inside
    · exact holds item List.mem_cons_self _ read
    · exact ih (fun other inside => holds other (List.mem_cons_of_mem _ inside)) later result inside

/-- Calls over a list that succeed succeed on every entry. -/
theorem mapM_ok {read : α → Except ε β} {list : List α} {results : List β}
    (returned : list.mapM read = .ok results) :
    ∀ item ∈ list, ∃ result ∈ results, read item = .ok result := by
  induction list generalizing results with
  | nil => exact fun item absent => absurd absent List.not_mem_nil
  | cons first rest ih =>
    simp only [List.mapM_cons, bind_ok, pure_ok] at returned
    obtain ⟨own, readOwn, others, later, rfl⟩ := returned
    intro item listed
    rcases List.mem_cons.mp listed with rfl | inside
    · exact ⟨own, List.mem_cons_self, readOwn⟩
    · obtain ⟨result, member, read⟩ := ih later item inside
      exact ⟨result, List.mem_cons_of_mem _ member, read⟩

/-- Checks over a list that pass pass on every entry. -/
theorem forM_ok {check : α → Except ε Unit} {list : List α} (passed : list.forM check = .ok ()) :
    ∀ item ∈ list, check item = .ok () := by
  induction list with
  | nil => exact fun item absent => absurd absent List.not_mem_nil
  | cons first rest ih =>
    simp only [List.forM, bind_ok] at passed
    obtain ⟨done, own, others⟩ := passed
    intro item listed
    rcases List.mem_cons.mp listed with rfl | inside
    · exact own
    · exact ih others item inside

end Akhira.Base.Result
