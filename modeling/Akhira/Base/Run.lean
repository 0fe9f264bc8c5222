import Mathlib

/-!
# Runs of a reverting state machine

A message is delivered to a partial step function. When the step fails, the state is
the one before the message, as a reverted transaction leaves it. A run delivers a
list of messages in order; every state a machine reaches is the end of some run. One
induction carries every invariant: it holds at the start, and each step that succeeds
from a state and a message in an admitted class keeps it.
-/
namespace Akhira.Base

variable {σ μ ε : Type}

/-- Deliver one message; a failed one leaves the state as it was. -/
def attempt (step : σ → μ → Except ε σ) (state : σ) (message : μ) : σ :=
  match step state message with
  | .ok next => next
  | .error _ => state

/-- Deliver a list of messages in order. -/
def run (step : σ → μ → Except ε σ) : σ → List μ → σ
  | state, [] => state
  | state, message :: rest => run step (attempt step state message) rest

/-- Every message of a run is of the admitted class in the state it is delivered to. -/
def Meets (step : σ → μ → Except ε σ) (admitted : σ → μ → Prop) : σ → List μ → Prop
  | _, [] => True
  | state, message :: rest =>
    admitted state message ∧ Meets step admitted (attempt step state message) rest

/-- A decidable class is decidable along a run. -/
instance Meets.decidable (step : σ → μ → Except ε σ) (admitted : σ → μ → Prop)
    [∀ state message, Decidable (admitted state message)] :
    ∀ state messages, Decidable (Meets step admitted state messages)
  | _, [] => inferInstanceAs (Decidable True)
  | state, message :: rest =>
    have := Meets.decidable step admitted (attempt step state message) rest
    inferInstanceAs (Decidable (admitted state message ∧
      Meets step admitted (attempt step state message) rest))

variable {step : σ → μ → Except ε σ} {admitted : σ → μ → Prop}

/-- A successful step is what delivery leaves. -/
theorem attempt_ok {state next : σ} {message : μ} (stepped : step state message = .ok next) :
    attempt step state message = next := by
  simp only [attempt, stepped]

/-- A failed step leaves the state. -/
theorem attempt_error {state : σ} {message : μ} {fault : ε}
    (stepped : step state message = .error fault) : attempt step state message = state := by
  simp only [attempt, stepped]

/-- A step that succeeds leads to what delivery leaves. -/
theorem step_of_isOk {state : σ} {message : μ} (accepted : (step state message).isOk = true) :
    step state message = .ok (attempt step state message) := by
  cases stepped : step state message with
  | error fault =>
    rw [stepped] at accepted
    cases accepted
  | ok next => rw [attempt_ok stepped]

/-- Delivery either reverts or takes the step. -/
theorem attempt_cases (state : σ) (message : μ) :
    attempt step state message = state ∨
      ∃ next, step state message = .ok next ∧ attempt step state message = next := by
  cases stepped : step state message with
  | error fault => exact .inl (attempt_error stepped)
  | ok next => exact .inr ⟨next, rfl, attempt_ok stepped⟩

/-- Two runs in sequence are one run. -/
theorem run_append (state : σ) (first second : List μ) :
    run step state (first ++ second) = run step (run step state first) second := by
  induction first generalizing state with
  | nil => rfl
  | cons message rest ih => exact ih (attempt step state message)

/-- A class that admits everything admits every run. -/
theorem meets_of_forall (all : ∀ state message, admitted state message) (state : σ)
    (messages : List μ) : Meets step admitted state messages := by
  induction messages generalizing state with
  | nil => trivial
  | cons message rest ih => exact ⟨all state message, ih _⟩

/-- A property kept by every admitted delivery holds at the end of every admitted run. -/
theorem attempt_invariant {invariant : σ → Prop}
    (kept : ∀ state message, invariant state → admitted state message →
      invariant (attempt step state message))
    {state : σ} (start : invariant state) {messages : List μ}
    (meets : Meets step admitted state messages) : invariant (run step state messages) := by
  induction messages generalizing state with
  | nil => exact start
  | cons message rest ih => exact ih (kept state message start meets.1) meets.2

/-- A property kept by every admitted successful step holds at the end of every admitted run. -/
theorem run_invariant {invariant : σ → Prop}
    (kept : ∀ state message next, invariant state → admitted state message →
      step state message = .ok next → invariant next)
    {state : σ} (start : invariant state) {messages : List μ}
    (meets : Meets step admitted state messages) : invariant (run step state messages) := by
  apply attempt_invariant _ start meets
  intro before message holds allowed
  rcases attempt_cases before message with same | ⟨next, stepped, same⟩
  · rw [same]
    exact holds
  · rw [same]
    exact kept before message next holds allowed stepped

/-- Where every delivery is seen by a second machine as its own, every run is. -/
theorem run_simulates {τ δ : Type} {other : τ → μ → Except δ τ} {view : σ → τ}
    (each : ∀ state message, view (attempt step state message) =
      attempt other (view state) message)
    (state : σ) (messages : List μ) :
    view (run step state messages) = run other (view state) messages := by
  induction messages generalizing state with
  | nil => rfl
  | cons message rest ih => rw [run, run, ih, each]

/-- One delivery of a run, with the states around it. -/
structure Transition (σ μ : Type) where
  before : σ
  message : μ
  after : σ

/-- The deliveries of a run in order. -/
def transitions (step : σ → μ → Except ε σ) : σ → List μ → List (Transition σ μ)
  | _, [] => []
  | state, message :: rest =>
    ⟨state, message, attempt step state message⟩ ::
      transitions step (attempt step state message) rest

/-- An invariant of admitted runs holds before every delivery, which is an admitted one and leads
to the state after it. -/
theorem transitions_meets {invariant : σ → Prop}
    (kept : ∀ state message, invariant state → admitted state message →
      invariant (attempt step state message))
    {state : σ} (start : invariant state) {messages : List μ}
    (meets : Meets step admitted state messages) :
    ∀ transition ∈ transitions step state messages, invariant transition.before ∧
      admitted transition.before transition.message ∧
      transition.after = attempt step transition.before transition.message := by
  induction messages generalizing state with
  | nil =>
    intro transition absent
    cases absent
  | cons message rest ih =>
    intro transition member
    rcases List.mem_cons.mp member with rfl | later
    · exact ⟨start, meets.1, rfl⟩
    · exact ih (kept state message start meets.1) meets.2 transition later

/-- What in every state of an invariant is true of a delivery just when it is admitted is true of
all deliveries of a run just when all are admitted. -/
theorem transitions_iff_meets {invariant : σ → Prop} {good : Transition σ μ → Prop}
    (kept : ∀ state message, invariant state → admitted state message →
      invariant (attempt step state message))
    (exactly : ∀ state message, invariant state →
      (good ⟨state, message, attempt step state message⟩ ↔ admitted state message))
    {state : σ} (start : invariant state) (messages : List μ) :
    (∀ transition ∈ transitions step state messages, good transition) ↔
      Meets step admitted state messages := by
  induction messages generalizing state with
  | nil => simp [transitions, Meets]
  | cons message rest ih =>
    rw [transitions, List.forall_mem_cons, Meets, exactly state message start]
    exact and_congr_right fun allowed => ih (kept state message start allowed)

/-- What only happens on the way to a state that is never left happens at most once. -/
theorem happens_at_most_once {invariant done : σ → Prop} {happens : Transition σ μ → Prop}
    (kept : ∀ state message, invariant state → invariant (attempt step state message))
    (stays : ∀ state message, invariant state → done state → done (attempt step state message))
    (finishes : ∀ transition : Transition σ μ, invariant transition.before →
      transition.after = attempt step transition.before transition.message →
      happens transition → ¬ done transition.before ∧ done transition.after)
    {state : σ} (start : invariant state) (messages : List μ) :
    (transitions step state messages).Pairwise fun earlier later =>
      ¬ (happens earlier ∧ happens later) := by
  induction messages generalizing state with
  | nil => exact List.Pairwise.nil
  | cons message rest ih =>
    refine List.Pairwise.cons ?_ (ih (kept state message start))
    rintro later member ⟨first, second⟩
    have reached := (finishes _ start rfl first).2
    have both : ∀ state message, invariant state ∧ done state →
        invariant (attempt step state message) ∧ done (attempt step state message) :=
      fun state message holds => ⟨kept state message holds.1, stays state message holds.1 holds.2⟩
    obtain ⟨before, -, stepped⟩ := transitions_meets (fun state message holds _ =>
      both state message holds) ⟨kept state message start, reached⟩
      (meets_of_forall (fun _ _ => trivial) _ rest) later member
    exact (finishes later before.1 stepped second).1 before.2

/-- A level that in every delivery rises by at most what is gained less what is lost does so over a
run. -/
theorem run_le {invariant : σ → Prop} {level : σ → Int} {gain loss : Transition σ μ → Int}
    (kept : ∀ state message, invariant state → admitted state message →
      invariant (attempt step state message))
    (bounded : ∀ state message, invariant state → admitted state message →
      level (attempt step state message) + loss ⟨state, message, attempt step state message⟩ ≤
        level state + gain ⟨state, message, attempt step state message⟩)
    {state : σ} (start : invariant state) {messages : List μ}
    (meets : Meets step admitted state messages) :
    level (run step state messages) + ((transitions step state messages).map loss).sum ≤
      level state + ((transitions step state messages).map gain).sum := by
  induction messages generalizing state with
  | nil => simp [run, transitions]
  | cons message rest ih =>
    have first := bounded state message start meets.1
    have later := ih (kept state message start meets.1) meets.2
    rw [run, transitions, List.map_cons, List.sum_cons, List.map_cons, List.sum_cons]
    omega

/-- A level that every delivery moves by what is gained less what is lost is moved so by a run. -/
theorem run_eq {invariant : σ → Prop} {level : σ → Int} {gain loss : Transition σ μ → Int}
    (kept : ∀ state message, invariant state → admitted state message →
      invariant (attempt step state message))
    (balanced : ∀ state message, invariant state → admitted state message →
      level (attempt step state message) + loss ⟨state, message, attempt step state message⟩ =
        level state + gain ⟨state, message, attempt step state message⟩)
    {state : σ} (start : invariant state) {messages : List μ}
    (meets : Meets step admitted state messages) :
    level (run step state messages) + ((transitions step state messages).map loss).sum =
      level state + ((transitions step state messages).map gain).sum := by
  have above := run_le kept (fun state message holds allowed =>
    (balanced state message holds allowed).le) start meets
  -- the opposite bound is the bound for the negated level, with gain and loss exchanged
  have below := @run_le _ _ _ step admitted invariant (fun state => -level state) loss gain kept
    (fun state message holds allowed => by
      have moved := balanced state message holds allowed
      omega) state start messages meets
  omega

/-- A property that some deliveries establish and others end, while the rest leave it, holds after a
run when it was established and not ended since, or held from the start and was not ended. -/
theorem run_holds_iff {invariant holds : σ → Prop} {begins ends : Transition σ μ → Prop}
    (kept : ∀ state message, invariant state → invariant (attempt step state message))
    (turns : ∀ state message, invariant state → (holds (attempt step state message) ↔
      begins ⟨state, message, attempt step state message⟩ ∨
        holds state ∧ ¬ ends ⟨state, message, attempt step state message⟩))
    {state : σ} (start : invariant state) (messages : List μ) :
    holds (run step state messages) ↔
      (∃ earlier transition later, transitions step state messages = earlier ++ transition :: later ∧
        begins transition ∧ ∀ other ∈ later, ¬ ends other) ∨
      holds state ∧ ∀ other ∈ transitions step state messages, ¬ ends other := by
  induction messages generalizing state with
  | nil => simp [run, transitions]
  | cons message rest ih =>
    rw [run, ih (kept state message start), turns state message start, transitions,
      List.forall_mem_cons]
    constructor
    · rintro (⟨earlier, transition, later, split, began, lasts⟩ | ⟨began | ⟨held, stayed⟩, lasts⟩)
      · refine .inl ⟨⟨state, message, attempt step state message⟩ :: earlier, transition, later,
          ?_, began, lasts⟩
        rw [split, List.cons_append]
      · exact .inl ⟨[], _, _, rfl, began, lasts⟩
      · exact .inr ⟨held, stayed, lasts⟩
    · rintro (⟨earlier, transition, later, split, began, lasts⟩ | ⟨held, stayed, lasts⟩)
      · cases earlier with
        | nil =>
          obtain ⟨rfl, rfl⟩ := List.cons.inj split
          exact .inr ⟨.inl began, lasts⟩
        | cons first others =>
          exact .inl ⟨others, transition, later, (List.cons.inj split).2, began, lasts⟩
      · exact .inr ⟨.inr ⟨held, stayed⟩, lasts⟩

/-- Outputs of a run are pairwise related when those of one delivery are, and when each output
leaves a lasting trace in the state that relates it to every later one. -/
theorem outputs_pairwise {β : Type} {out : σ → μ → List β} {related : β → β → Prop}
    {trace : β → σ → Prop}
    (within : ∀ state message, admitted state message → (out state message).Pairwise related)
    (leaves : ∀ state message, admitted state message → ∀ output ∈ out state message,
      trace output (attempt step state message))
    (lasts : ∀ output state message, trace output state → admitted state message →
      trace output (attempt step state message))
    (relates : ∀ earlier state message, trace earlier state → admitted state message →
      ∀ later ∈ out state message, related earlier later)
    {state : σ} {messages : List μ} (meets : Meets step admitted state messages) :
    ((transitions step state messages).flatMap fun transition =>
      out transition.before transition.message).Pairwise related := by
  induction messages generalizing state with
  | nil => exact List.Pairwise.nil
  | cons message rest ih =>
    rw [transitions, List.flatMap_cons, List.pairwise_append]
    refine ⟨within state message meets.1, ih meets.2, ?_⟩
    intro earlier first later second
    obtain ⟨transition, member, listed⟩ := List.mem_flatMap.mp second
    have traced := leaves state message meets.1 earlier first
    obtain ⟨remains, allowed, -⟩ :=
      transitions_meets (lasts earlier) traced meets.2 transition member
    exact relates earlier _ _ remains allowed later listed

end Akhira.Base
