import Mathlib

/-!
# Polls with weighted ballots

Voters cast ballots for choices; a choice is accepted when its ballots weigh a required
share of the whole weight, and the poll is rejected when no choice can get there with
the weight that has not been cast. Both verdicts survive further ballots as long as the
ballots cast do not outweigh the whole, and a share of more than one half is reached by
one choice at most. So counting ballots one by one and stopping at the first verdict
gives the verdict of all ballots together, in whatever order they come.
-/
namespace Akhira.Base

variable {ι κ : Type} [DecidableEq κ]

/-- The weight of a list of ballots. -/
def castWeight (power : ι → Nat) (ballots : List (ι × κ)) : Nat :=
  (ballots.map fun ballot => power ballot.1).sum

/-- The ballots for a choice. -/
def ballotsFor (ballots : List (ι × κ)) (choice : κ) : List (ι × κ) :=
  ballots.filter fun ballot => ballot.2 = choice

/-- The weight of the ballots for a choice. -/
def tally (power : ι → Nat) (ballots : List (ι × κ)) (choice : κ) : Nat :=
  castWeight power (ballotsFor ballots choice)

/-- What a poll requires: a share of a whole weight. -/
structure Poll (ι : Type) where
  power : ι → Nat
  total : Nat
  numerator : Nat
  denominator : Nat
  /-- The share is more than one half. -/
  majority : denominator < 2 * numerator
  /-- There is weight to require a share of. -/
  weighty : 0 < total

/-- What a poll says of its ballots. -/
inductive Verdict (κ : Type) where
  | undecided
  | rejected
  | accepted (choice : κ)
deriving DecidableEq, Repr

/-- A new ballot counts for its own choice only. -/
theorem ballotsFor_concat (ballots : List (ι × κ)) (ballot : ι × κ) (choice : κ) :
    ballotsFor (ballots ++ [ballot]) choice =
      ballotsFor ballots choice ++ if ballot.2 = choice then [ballot] else [] := by
  rw [ballotsFor, List.filter_append, List.filter_singleton]
  by_cases chosen : ballot.2 = choice <;> simp [chosen, ballotsFor]

/-- A choice without ballots. -/
theorem ballotsFor_eq_nil {ballots : List (ι × κ)} {choice : κ}
    (absent : choice ∉ ballots.map Prod.snd) : ballotsFor ballots choice = [] := by
  rw [ballotsFor, List.filter_eq_nil_iff]
  intro ballot cast chosen
  rw [decide_eq_true_eq] at chosen
  exact absent (List.mem_map.mpr ⟨ballot, cast, chosen⟩)

section Weights

variable (power : ι → Nat)

omit [DecidableEq κ] in
/-- Ballots weigh what their parts weigh together. -/
theorem castWeight_append (left right : List (ι × κ)) :
    castWeight power (left ++ right) = castWeight power left + castWeight power right := by
  rw [castWeight, List.map_append, List.sum_append]
  rfl

/-- The weight of a choice adds up over two lists of ballots. -/
theorem tally_append (left right : List (ι × κ)) (choice : κ) :
    tally power (left ++ right) choice = tally power left choice + tally power right choice := by
  rw [tally, ballotsFor, List.filter_append, castWeight_append]
  rfl

omit [DecidableEq κ] in
/-- The order of the ballots does not change what they weigh. -/
theorem castWeight_perm {left right : List (ι × κ)} (same : left.Perm right) :
    castWeight power left = castWeight power right :=
  (same.map _).sum_eq

/-- The weight of a choice does not depend on the order of the ballots. -/
theorem tally_perm {left right : List (ι × κ)} (same : left.Perm right) (choice : κ) :
    tally power left choice = tally power right choice :=
  castWeight_perm power (same.filter _)

/-- The ballots for two choices are different ballots. -/
theorem tally_add_tally_le {first second : κ} (different : first ≠ second)
    (ballots : List (ι × κ)) :
    tally power ballots first + tally power ballots second ≤ castWeight power ballots := by
  induction ballots with
  | nil => exact Nat.le_refl 0
  | cons ballot ballots ih =>
    have head := tally_append power [ballot] ballots
    have cast : castWeight power (ballot :: ballots) =
        power ballot.1 + castWeight power ballots := rfl
    have one : ∀ choice, tally power [ballot] choice =
        if ballot.2 = choice then power ballot.1 else 0 := by
      intro choice
      by_cases chosen : ballot.2 = choice <;>
        simp [tally, ballotsFor, castWeight, chosen]
    rw [List.singleton_append] at head
    rw [head, head, one, one, cast]
    by_cases chosen : ballot.2 = first
    · rw [if_pos chosen, if_neg (fun other => different (chosen.symm.trans other))]
      omega
    · rw [if_neg chosen]
      split <;> omega

/-- A choice has no more weight than all ballots together. -/
theorem tally_le_castWeight (ballots : List (ι × κ)) (choice : κ) :
    tally power ballots choice ≤ castWeight power ballots :=
  (List.filter_sublist.map _).sum_le_sum (fun _ _ => Nat.zero_le _)

/-- A choice without ballots has no weight. -/
theorem tally_eq_zero {ballots : List (ι × κ)} {choice : κ}
    (absent : choice ∉ ballots.map Prod.snd) : tally power ballots choice = 0 := by
  rw [tally, ballotsFor_eq_nil absent]
  rfl

end Weights

namespace Poll

variable (poll : Poll ι)

/-- The ballots for a choice weigh the required share. -/
def Accepts (ballots : List (ι × κ)) (choice : κ) : Prop :=
  poll.numerator * poll.total ≤ tally poll.power ballots choice * poll.denominator

/-- No choice reaches the required share even with all the weight that has not been cast. -/
def Rejects (ballots : List (ι × κ)) : Prop :=
  ballots ≠ [] ∧ ∀ choice, (tally poll.power ballots choice +
    (poll.total - castWeight poll.power ballots)) * poll.denominator <
      poll.numerator * poll.total

/-- The ballots do not outweigh the whole. -/
def Fits (ballots : List (ι × κ)) : Prop := castWeight poll.power ballots ≤ poll.total

/-- Acceptance is decided by comparing weights. -/
instance (ballots : List (ι × κ)) (choice : κ) : Decidable (poll.Accepts ballots choice) :=
  inferInstanceAs (Decidable (_ ≤ _))

/-- The verdict on a list of ballots. -/
def verdict (ballots : List (ι × κ)) : Verdict κ :=
  match (ballots.map Prod.snd).find? fun choice => poll.Accepts ballots choice with
  | some choice => .accepted choice
  | none =>
    if ballots ≠ [] ∧ ∀ choice ∈ ballots.map Prod.snd, (tally poll.power ballots choice +
        (poll.total - castWeight poll.power ballots)) * poll.denominator <
          poll.numerator * poll.total then .rejected
    else .undecided

/-- The ballots that are counted when counting stops at the first verdict. -/
def counted (ballots : List (ι × κ)) : List (ι × κ) → List (ι × κ)
  | [] => ballots
  | ballot :: rest =>
    if poll.verdict ballots = .undecided then counted (ballots ++ [ballot]) rest
    else counted ballots rest

variable {poll} {ballots more : List (ι × κ)} {choice other : κ}

/-- An accepted choice has ballots. -/
theorem Accepts.mem (accepted : poll.Accepts ballots choice) : choice ∈ ballots.map Prod.snd := by
  by_contra absent
  have nothing := tally_eq_zero poll.power absent
  have weighty := poll.weighty
  have majority := poll.majority
  unfold Accepts at accepted
  rw [nothing, Nat.zero_mul, Nat.le_zero, Nat.mul_eq_zero] at accepted
  omega

/-- One choice at most is accepted. -/
theorem Accepts.unique (fits : poll.Fits ballots) (first : poll.Accepts ballots choice)
    (second : poll.Accepts ballots other) : choice = other := by
  by_contra different
  have apart := tally_add_tally_le poll.power different ballots
  have weighty := poll.weighty
  have majority := poll.majority
  unfold Accepts at first second
  unfold Fits at fits
  -- twice the share of the whole is at most the whole, although the share is over one half
  have both : 2 * poll.numerator * poll.total ≤ poll.total * poll.denominator :=
    calc 2 * poll.numerator * poll.total
        = poll.numerator * poll.total + poll.numerator * poll.total := by ring
      _ ≤ (tally poll.power ballots choice + tally poll.power ballots other) *
            poll.denominator := by rw [Nat.add_mul]; exact Nat.add_le_add first second
      _ ≤ poll.total * poll.denominator := Nat.mul_le_mul_right _ (apart.trans fits)
  have half : poll.total * poll.denominator < poll.total * (2 * poll.numerator) :=
    Nat.mul_lt_mul_of_pos_left majority weighty
  rw [Nat.mul_comm (2 * poll.numerator)] at both
  omega

/-- A rejected poll accepts no choice. -/
theorem Rejects.not_accepts (rejected : poll.Rejects ballots) : ¬ poll.Accepts ballots choice := by
  intro accepted
  have short := rejected.2 choice
  have less := Nat.mul_le_mul_right poll.denominator
    (Nat.le_add_right (tally poll.power ballots choice)
      (poll.total - castWeight poll.power ballots))
  unfold Accepts at accepted
  omega

/-- Further ballots leave an accepted choice accepted. -/
theorem Accepts.append (accepted : poll.Accepts ballots choice) :
    poll.Accepts (ballots ++ more) choice := by
  unfold Accepts at accepted ⊢
  rw [tally_append]
  exact accepted.trans (Nat.mul_le_mul_right _ (Nat.le_add_right _ _))

/-- Further ballots leave a rejected poll rejected: what a choice can reach never grows. -/
theorem Rejects.append (fits : poll.Fits (ballots ++ more)) (rejected : poll.Rejects ballots) :
    poll.Rejects (ballots ++ more) := by
  refine ⟨List.append_ne_nil_of_left_ne_nil rejected.1 _, fun choice => ?_⟩
  have before := rejected.2 choice
  have gained := tally_le_castWeight poll.power more choice
  unfold Fits at fits
  rw [castWeight_append] at fits ⊢
  rw [tally_append]
  have reach : tally poll.power ballots choice + tally poll.power more choice +
      (poll.total - (castWeight poll.power ballots + castWeight poll.power more)) ≤
        tally poll.power ballots choice + (poll.total - castWeight poll.power ballots) := by
    omega
  exact (Nat.mul_le_mul_right _ reach).trans_lt before

/-- Among ballots that fit the poll, the verdict accepts exactly the choice that reaches the bar. -/
theorem verdict_accepted_iff (fits : poll.Fits ballots) :
    poll.verdict ballots = .accepted choice ↔ poll.Accepts ballots choice := by
  unfold verdict
  cases found : (ballots.map Prod.snd).find? fun choice => poll.Accepts ballots choice with
  | some winner =>
    have wins := List.find?_some found
    rw [decide_eq_true_eq] at wins
    constructor
    · intro same
      cases same
      exact wins
    · intro accepted
      rw [wins.unique fits accepted]
  | none =>
    have noneWins := List.find?_eq_none.mp found
    constructor
    · intro same
      dsimp only at same
      split at same <;> cases same
    · intro accepted
      exact absurd (decide_eq_true accepted) (noneWins choice accepted.mem)

/-- It is enough to look at the choices that have ballots. -/
theorem rejects_iff : poll.Rejects ballots ↔ ballots ≠ [] ∧ ∀ choice ∈ ballots.map Prod.snd,
    (tally poll.power ballots choice + (poll.total - castWeight poll.power ballots)) *
      poll.denominator < poll.numerator * poll.total := by
  refine ⟨fun rejected => ⟨rejected.1, fun choice _ => rejected.2 choice⟩, fun rejected => ?_⟩
  refine ⟨rejected.1, fun choice => ?_⟩
  by_cases cast : choice ∈ ballots.map Prod.snd
  · exact rejected.2 choice cast
  · obtain ⟨ballot, present⟩ := List.exists_mem_of_ne_nil ballots rejected.1
    have short := rejected.2 ballot.2 (List.mem_map_of_mem present)
    rw [tally_eq_zero poll.power cast]
    exact (Nat.mul_le_mul_right _ (by omega)).trans_lt short

/-- The verdict rejects exactly when no choice can reach the bar any more. -/
theorem verdict_rejected_iff : poll.verdict ballots = .rejected ↔ poll.Rejects ballots := by
  unfold verdict
  rw [rejects_iff]
  cases found : (ballots.map Prod.snd).find? fun choice => poll.Accepts ballots choice with
  | some winner =>
    have wins := List.find?_some found
    rw [decide_eq_true_eq] at wins
    constructor
    · intro same
      cases same
    · intro rejected
      exact absurd wins (Rejects.not_accepts (rejects_iff.mpr rejected))
  | none =>
    dsimp only
    split
    · next rejected => exact ⟨fun _ => rejected, fun _ => rfl⟩
    · next short =>
      constructor
      · intro same
        cases same
      · intro rejected
        exact absurd rejected short

/-- The verdict depends on what is accepted and rejected only. -/
theorem verdict_eq {left right : List (ι × κ)} (leftFits : poll.Fits left)
    (rightFits : poll.Fits right)
    (accepts : ∀ choice, poll.Accepts left choice ↔ poll.Accepts right choice)
    (rejects : poll.Rejects left ↔ poll.Rejects right) :
    poll.verdict left = poll.verdict right := by
  cases reached : poll.verdict right with
  | accepted choice =>
    rw [verdict_accepted_iff leftFits, accepts, ← verdict_accepted_iff rightFits, reached]
  | rejected => rw [verdict_rejected_iff, rejects, ← verdict_rejected_iff, reached]
  | undecided =>
    cases before : poll.verdict left with
    | accepted choice =>
      rw [verdict_accepted_iff leftFits, accepts, ← verdict_accepted_iff rightFits, reached]
        at before
      cases before
    | rejected =>
      rw [verdict_rejected_iff, rejects, ← verdict_rejected_iff, reached] at before
      cases before
    | undecided => rfl

/-- The order of the ballots does not matter. -/
theorem verdict_perm {left right : List (ι × κ)} (fits : poll.Fits left)
    (same : left.Perm right) : poll.verdict left = poll.verdict right := by
  have cast := castWeight_perm poll.power same
  have counts := tally_perm poll.power same
  have empty : left ≠ [] ↔ right ≠ [] := by
    rw [← List.length_pos_iff, ← List.length_pos_iff, same.length_eq]
  have rightFits : poll.Fits right := by
    unfold Fits at fits ⊢
    omega
  apply verdict_eq fits rightFits
  · intro choice
    unfold Accepts
    rw [counts]
  · unfold Rejects
    rw [empty, cast]
    simp only [counts]

omit [DecidableEq κ] in
/-- Earlier ballots fit when all of them do. -/
theorem Fits.of_append (fits : poll.Fits (ballots ++ more)) : poll.Fits ballots := by
  unfold Fits at fits ⊢
  rw [castWeight_append] at fits
  omega

/-- Further ballots do not change a verdict. -/
theorem verdict_append (fits : poll.Fits (ballots ++ more))
    (decided : poll.verdict ballots ≠ .undecided) :
    poll.verdict (ballots ++ more) = poll.verdict ballots := by
  cases reached : poll.verdict ballots with
  | undecided => exact absurd reached decided
  | accepted choice =>
    rw [verdict_accepted_iff fits.of_append] at reached
    exact (verdict_accepted_iff fits).mpr reached.append
  | rejected =>
    rw [verdict_rejected_iff] at reached
    exact verdict_rejected_iff.mpr (reached.append fits)

/-- Counting does not go on after a verdict. -/
theorem counted_of_decided (decided : poll.verdict ballots ≠ .undecided) :
    poll.counted ballots more = ballots := by
  induction more with
  | nil => rfl
  | cons ballot rest ih => rw [counted, if_neg decided, ih]

/-- Stopping at the first verdict gives the verdict of all ballots. -/
theorem verdict_counted (fits : poll.Fits (ballots ++ more)) :
    poll.verdict (poll.counted ballots more) = poll.verdict (ballots ++ more) := by
  induction more generalizing ballots with
  | nil => rw [counted, List.append_nil]
  | cons ballot rest ih =>
    by_cases reached : poll.verdict ballots = .undecided
    · have regrouped : ballots ++ [ballot] ++ rest = ballots ++ ballot :: rest := by
        rw [List.append_assoc, List.singleton_append]
      rw [counted, if_pos reached, ih (by rw [regrouped]; exact fits), regrouped]
    · rw [counted_of_decided reached, verdict_append fits reached]

/-- The ballots of voters who agree. -/
def unanimous (voters : List ι) (choice : κ) : List (ι × κ) := voters.map fun voter => (voter, choice)

omit [DecidableEq κ] in
/-- The voters of unanimous ballots are those that were given. -/
theorem voters_unanimous (voters : List ι) (choice : κ) :
    (unanimous voters choice).map Prod.fst = voters := by
  rw [unanimous, List.map_map]
  exact List.map_id voters

omit [DecidableEq κ] in
/-- Unanimous ballots cast the power of all their voters. -/
theorem castWeight_unanimous (power : ι → Nat) (voters : List ι) (choice : κ) :
    castWeight power (unanimous voters choice) = (voters.map power).sum := by
  unfold castWeight unanimous
  rw [List.map_map]
  rfl

/-- The one choice of unanimous ballots has the power of all their voters. -/
theorem tally_unanimous (power : ι → Nat) (voters : List ι) (choice : κ) :
    tally power (unanimous voters choice) choice = (voters.map power).sum := by
  have all : ballotsFor (unanimous voters choice) choice = unanimous voters choice := by
    unfold ballotsFor unanimous
    exact List.filter_eq_self.mpr (by simp)
  rw [tally, all, castWeight_unanimous]

/-- Voters who agree are never rejected, when the required share is at most the whole. -/
theorem verdict_unanimous {voters : List ι} (share : poll.numerator ≤ poll.denominator)
    (fits : poll.Fits (unanimous voters choice)) :
    poll.verdict (unanimous voters choice) = .accepted choice ∨
      poll.verdict (unanimous voters choice) = .undecided := by
  cases reached : poll.verdict (unanimous voters choice) with
  | undecided => exact .inr rfl
  | accepted other =>
    have listed := ((verdict_accepted_iff fits).mp reached).mem
    rw [unanimous, List.map_map, List.mem_map] at listed
    obtain ⟨voter, -, same⟩ := listed
    rw [← same]
    exact .inl rfl
  | rejected =>
    have short := (verdict_rejected_iff.mp reached).2 choice
    unfold Fits at fits
    rw [castWeight_unanimous] at short fits
    rw [tally_unanimous, Nat.add_sub_cancel' fits, Nat.mul_comm] at short
    exact absurd (Nat.mul_le_mul_right poll.total share) (Nat.not_le.mpr short)

/-- The voters weigh the required share. -/
def Carries (poll : Poll ι) (voters : List ι) : Prop :=
  poll.numerator * poll.total ≤ (voters.map poll.power).sum * poll.denominator

/-- Whether voters carry a poll is decided by comparing powers. -/
instance (voters : List ι) : Decidable (poll.Carries voters) := inferInstanceAs (Decidable (_ ≤ _))

/-- Voters who agree are accepted when they weigh the required share, and undecided before. -/
theorem verdict_unanimous_eq {voters : List ι} (share : poll.numerator ≤ poll.denominator)
    (fits : poll.Fits (unanimous voters choice)) :
    poll.verdict (unanimous voters choice) =
      if poll.Carries voters then .accepted choice else .undecided := by
  have accepts : poll.verdict (unanimous voters choice) = .accepted choice ↔
      poll.Carries voters := by
    rw [verdict_accepted_iff fits, Accepts, tally_unanimous, Carries]
  by_cases carried : poll.Carries voters
  · rw [if_pos carried]
    exact accepts.mpr carried
  · rw [if_neg carried]
    rcases verdict_unanimous share fits with accepted | undecided
    · exact absurd (accepts.mp accepted) carried
    · exact undecided

/-- Voters who agree and have all the weight are accepted. -/
theorem verdict_everybody {voters : List ι} (share : poll.numerator ≤ poll.denominator)
    (fits : poll.Fits (unanimous voters choice))
    (everybody : poll.total ≤ (voters.map poll.power).sum) :
    poll.verdict (unanimous voters choice) = .accepted choice := by
  apply (verdict_accepted_iff fits).mpr
  unfold Accepts
  rw [tally_unanimous]
  calc
    poll.numerator * poll.total ≤ poll.denominator * poll.total := Nat.mul_le_mul_right _ share
    _ = poll.total * poll.denominator := Nat.mul_comm ..
    _ ≤ (voters.map poll.power).sum * poll.denominator := Nat.mul_le_mul_right _ everybody

end Poll

end Akhira.Base
