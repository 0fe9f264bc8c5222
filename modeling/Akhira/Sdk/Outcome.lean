import Akhira.Base.Result

/-!
# Outcomes of SDK calls

A keeper call returns a value, returns an error, or panics. The SDK reverts the
transaction on an error and recovers a panic into one, so both are faults of one
outcome, kept apart because an error can be wrapped and a panic cannot.
-/
namespace Akhira.Sdk

/-- An error registered by a module, with the texts wrapped around it, outermost first. -/
structure SdkError where
  /-- The module that registered the error. -/
  codespace : String
  /-- The registered number. -/
  code : Nat
  /-- The registered description. -/
  description : String
  /-- Texts added by wrapping. -/
  wrapped : List String
deriving DecidableEq, Repr

/-- `sdkerrors.Register` and `errors.New`: an error without wrapped text. -/
def SdkError.register (codespace : String) (code : Nat) (description : String) : SdkError :=
  ⟨codespace, code, description, []⟩

/-- The error that a plain `errors.New` is reported as. -/
def SdkError.plain (text : String) : SdkError := .register "undefined" 1 text

/-- `sdkerrors.Wrap`: add a text in front of an error. -/
def SdkError.wrap (error : SdkError) (text : String) : SdkError :=
  { error with wrapped := text :: error.wrapped }

/-- `Error()`: the wrapped texts, outermost first, then the description. -/
def SdkError.text (error : SdkError) : String :=
  ": ".intercalate (error.wrapped ++ [error.description])

/-- What stops a call. -/
inductive Fault where
  /-- An error returned to the caller. -/
  | error (error : SdkError)
  /-- A panic, recovered at the transaction boundary. -/
  | panic (reason : String)
deriving DecidableEq, Repr

/-- The result of a call. -/
abbrev Outcome (α : Type) := Except Fault α

namespace Outcome

open Akhira.Base.Result (Blames Ensures)

variable {α : Type}

/-- Return an error. -/
def fail (error : SdkError) : Outcome α := .error (.error error)

/-- Panic. -/
def crash (reason : String) : Outcome α := .error (.panic reason)

/-- Continue only when a condition holds. -/
def require (condition : Prop) [Decidable condition] (error : SdkError) : Outcome Unit :=
  if condition then .ok () else fail error

/-- Continue with a present value; its absence is the given fault. -/
def present (value : Option α) (fault : Fault) : Outcome α :=
  match value with
  | some found => .ok found
  | none => .error fault

/-- The reason of a panic. -/
def panicReason (call : Outcome α) : Option String :=
  match call with
  | .error (.panic reason) => some reason
  | _ => none

/-- Wrap a returned error; a panic passes. -/
def wrapping (call : Outcome α) (around : SdkError) : Outcome α :=
  match call with
  | .ok value => .ok value
  | .error (.error error) => fail (around.wrap error.text)
  | .error (.panic reason) => crash reason

/-- `sdkerrors.Wrap` of a returned error; a panic passes. -/
def noting (call : Outcome α) (text : String) : Outcome α :=
  match call with
  | .ok value => .ok value
  | .error (.error error) => fail (error.wrap text)
  | .error (.panic reason) => crash reason

/-- Replace a returned error; a panic passes. -/
def replacing (call : Outcome α) (instead : SdkError) : Outcome α :=
  match call with
  | .ok value => .ok value
  | .error (.error _) => fail instead
  | .error (.panic reason) => crash reason

/-- An error is no result. -/
@[simp] theorem fail_ok {error : SdkError} {result : α} :
    (fail error : Outcome α) = .ok result ↔ False := by
  simp [fail]

/-- A panic is no result. -/
@[simp] theorem crash_ok {reason : String} {result : α} :
    (crash reason : Outcome α) = .ok result ↔ False := by
  simp [crash]

/-- A guard passes when its condition holds. -/
@[simp] theorem require_ok {condition : Prop} [Decidable condition] {error : SdkError}
    {done : Unit} : require condition error = .ok done ↔ condition := by
  by_cases holds : condition <;> simp [require, holds]

/-- A value passes when it is present. -/
@[simp] theorem present_ok {value : Option α} {fault : Fault} {result : α} :
    present value fault = .ok result ↔ value = some result := by
  cases value <;> simp [present]

/-- Wrapping changes no success. -/
@[simp] theorem wrapping_ok {call : Outcome α} {around : SdkError} {result : α} :
    wrapping call around = .ok result ↔ call = .ok result := by
  match call with
  | .ok value => simp [wrapping]
  | .error (.error error) => simp [wrapping]
  | .error (.panic reason) => simp [wrapping]

/-- A note changes no success. -/
@[simp] theorem noting_ok {call : Outcome α} {text : String} {result : α} :
    noting call text = .ok result ↔ call = .ok result := by
  match call with
  | .ok value => simp [noting]
  | .error (.error error) => simp [noting]
  | .error (.panic reason) => simp [noting]

/-- Replacing an error changes no success. -/
@[simp] theorem replacing_ok {call : Outcome α} {instead : SdkError} {result : α} :
    replacing call instead = .ok result ↔ call = .ok result := by
  match call with
  | .ok value => simp [replacing]
  | .error (.error error) => simp [replacing]
  | .error (.panic reason) => simp [replacing]

/-- Wrapping the error of a call changes nothing of what its success ensures. -/
theorem ensures_wrapping {property : α → Prop} {call : Outcome α} {around : SdkError}
    (holds : Ensures property call) : Ensures property (call.wrapping around) :=
  fun result returned => holds result (wrapping_ok.mp returned)

/-- Replacing the error of a call changes nothing of what its success ensures. -/
theorem ensures_replacing {property : α → Prop} {call : Outcome α} {instead : SdkError}
    (holds : Ensures property call) : Ensures property (call.replacing instead) :=
  fun result returned => holds result (replacing_ok.mp returned)

section Faults

variable {property : Fault → Prop}

/-- A check is to blame when its condition fails. -/
theorem blames_require {condition : Prop} [Decidable condition] {error : SdkError}
    (holds : ¬condition → property (.error error)) : Blames property (require condition error) := by
  unfold require
  split
  · exact Blames.ok
  · rename_i fails
    exact Blames.error (holds fails)

/-- A missing value is to blame when there is none. -/
theorem blames_present {value : Option α} {fault : Fault} (holds : value = none → property fault) :
    Blames property (present value fault) := by
  cases value with
  | none => exact Blames.error (holds rfl)
  | some found => exact Blames.ok

/-- A call that may return an error but does not panic. -/
def NeverPanics (call : Outcome α) : Prop :=
  Blames (fun fault => ∃ error, fault = Fault.error error) call

/-- A check returns its error. -/
theorem neverPanics_require {condition : Prop} [Decidable condition] {error : SdkError} :
    NeverPanics (require condition error) :=
  blames_require fun _ => ⟨error, rfl⟩

/-- Failing is returning an error. -/
theorem neverPanics_fail {error : SdkError} : NeverPanics (fail error : Outcome α) :=
  Blames.error ⟨error, rfl⟩

/-- A crash is a panic. -/
theorem not_neverPanics_crash {reason : String} : ¬NeverPanics (crash reason : Outcome α) := by
  intro clean
  obtain ⟨error, same⟩ := clean _ rfl
  cases same

/-- A panic is the only fault that has a reason. -/
theorem neverPanics_iff {call : Outcome α} : NeverPanics call ↔ call.panicReason = none := by
  match call with
  | .ok value => exact iff_of_true Blames.ok rfl
  | .error (.error error) => exact iff_of_true neverPanics_fail rfl
  | .error (.panic reason) => exact iff_of_false not_neverPanics_crash (by simp [panicReason])

/-- A sequence panics in its first call or after it. -/
theorem neverPanics_bind {β : Type} {call : Outcome α} {rest : α → Outcome β} :
    NeverPanics (call >>= rest) ↔
      NeverPanics call ∧ ∀ value, call = .ok value → NeverPanics (rest value) := by
  constructor
  · intro clean
    match call with
    | .ok value =>
      refine ⟨Blames.ok, fun other same => ?_⟩
      cases same
      exact clean
    | .error fault =>
      refine ⟨fun other same => ?_, fun _ same => by cases same⟩
      cases same
      exact clean fault rfl
  · rintro ⟨first, later⟩
    exact Blames.bind first later

/-- What a call returns is passed on without a panic. -/
theorem neverPanics_bind_pure {β : Type} {call : Outcome α} {result : α → β} :
    NeverPanics (call >>= fun value => pure (result value)) ↔ NeverPanics call := by
  rw [neverPanics_bind]
  exact and_iff_left fun _ _ => Blames.ok

/-- Wrapping an error neither adds nor hides a panic. -/
theorem neverPanics_wrapping {call : Outcome α} {around : SdkError} :
    NeverPanics (call.wrapping around) ↔ NeverPanics call := by
  match call with
  | .ok value => exact Iff.rfl
  | .error (.error error) => exact iff_of_true neverPanics_fail neverPanics_fail
  | .error (.panic reason) => exact Iff.rfl

/-- Replacing an error neither adds nor hides a panic. -/
theorem neverPanics_replacing {call : Outcome α} {instead : SdkError} :
    NeverPanics (call.replacing instead) ↔ NeverPanics call := by
  match call with
  | .ok value => exact Iff.rfl
  | .error (.error error) => exact iff_of_true neverPanics_fail neverPanics_fail
  | .error (.panic reason) => exact Iff.rfl

/-- A call that returns no error but may panic. -/
def OnlyPanics (call : Outcome α) : Prop :=
  Blames (fun fault => ∃ reason, fault = Fault.panic reason) call

/-- Such a call succeeds or panics. -/
theorem OnlyPanics.neverPanics_iff {call : Outcome α} (only : OnlyPanics call) :
    NeverPanics call ↔ ∃ value, call = .ok value := by
  match call with
  | .ok value => exact iff_of_true Blames.ok ⟨value, rfl⟩
  | .error (.error error) =>
    obtain ⟨reason, same⟩ := only _ rfl
    cases same
  | .error (.panic reason) => exact iff_of_false not_neverPanics_crash (by simp)

/-- A missing value with an error for it is no panic. -/
theorem neverPanics_present {value : Option α} {error : SdkError} :
    NeverPanics (present value (.error error)) :=
  blames_present fun _ => ⟨error, rfl⟩

end Faults

end Outcome

end Akhira.Sdk
