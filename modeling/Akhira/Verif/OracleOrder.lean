import Akhira.Verif.OracleSafety

/-!
# The order in which claims arrive

With the white list and the powers fixed, a prophecy is a poll of the white-listed bonded
validators: its status is the verdict on the claims that were counted, and counting stops at the
first verdict. The status at the end is therefore the verdict on all claims together.
-/
namespace Akhira.Verif.Oracle

open Akhira.Base Akhira.Sdk Akhira.Oracle

/-- The poll a prophecy is when the white list and the powers stay. -/
def prophecyPoll (env : Environment) (staking : Staking) (whiteList : List ValAddress)
    (majority : env.consensusNeeded.denominator < 2 * env.consensusNeeded.numerator)
    (powered : 0 < eligiblePower staking whiteList) : Poll ValAddress where
  power := powerOf staking
  total := eligiblePower staking whiteList
  numerator := env.consensusNeeded.numerator
  denominator := env.consensusNeeded.denominator
  majority := majority
  weighty := powered

/-- The status that stands for a verdict. -/
def statusOf : Verdict String → Status
  | .undecided => ⟨.pending, ""⟩
  | .rejected => ⟨.failed, ""⟩
  | .accepted content => ⟨.success, content⟩

/-- A status is pending only where the poll is undecided. -/
theorem statusOf_pending {verdict : Verdict String}
    (pending : (statusOf verdict).text = .pending) : verdict = .undecided := by
  cases verdict with
  | undecided => rfl
  | rejected => cases pending
  | accepted content => cases pending

/-- A status succeeds with a content exactly where the poll accepts it. -/
theorem statusOf_success {verdict : Verdict String} {content : String} :
    statusOf verdict = ⟨.success, content⟩ ↔ verdict = .accepted content := by
  cases verdict <;> simp [statusOf]

/-- A claim as one node processes it: the order it enumerates maps in, the validator and the
content. -/
abbrev Submission := MapOrder × ValAddress × String

/-- A validator sends its claim, with the order in which the map is read then. -/
def submit (codec : ValCodec) (staking : Staking) (id : String) (submission : Submission) :
    Delivery :=
  ⟨⟨staking, submission.1⟩, .claim ⟨id, codec.text submission.2.1, submission.2.2⟩⟩

section Run

variable {env : Environment} {staking : Staking} {whiteList : List ValAddress}
  {majority : env.consensusNeeded.denominator < 2 * env.consensusNeeded.numerator}
  {powered : 0 < eligiblePower staking whiteList} {id : String} {state : State}
  {ballots more : List (ValAddress × String)}

/-- The ballots of distinct white-listed validators do not outweigh the white list. -/
theorem fits_of_whiteListed (distinct : (ballots.map Prod.fst).Nodup)
    (whiteListed : ∀ ballot ∈ ballots, ballot.1 ∈ whiteList) :
    (prophecyPoll env staking whiteList majority powered).Fits ballots := by
  have bounded := @listedPower_le_eligible staking whiteList _ distinct (by
    intro address voted _
    obtain ⟨ballot, cast, rfl⟩ := List.mem_map.mp voted
    exact whiteListed ballot cast)
  rw [listedPower, List.map_map] at bounded
  exact bounded

/-- The ratio is reached exactly when the products compare so. -/
theorem reachedBy_iff {power : Nat} {needed : Consensus} {total : Nat} (positive : 0 < total) :
    needed.reachedBy power total = true ↔
      needed.numerator * total ≤ power * needed.denominator := by
  have nonzero : (total : Int) ≠ 0 := by omega
  rw [Consensus.reachedBy, if_neg nonzero, decide_eq_true_eq]
  exact_mod_cast Iff.rfl

/-- The ratio is out of reach exactly when the products compare so. -/
theorem outOfReachOf_iff {power : Nat} {needed : Consensus} {total : Nat} (positive : 0 < total) :
    needed.outOfReachOf power total = true ↔
      power * needed.denominator < needed.numerator * total := by
  have nonzero : (total : Int) ≠ 0 := by omega
  rw [Consensus.outOfReachOf, if_neg nonzero, decide_eq_true_eq]
  exact_mod_cast Iff.rfl

/-- Completion gives a pending prophecy the status of the verdict. -/
theorem completedStatus_verdict {content : String}
    (fits : (prophecyPoll env staking whiteList majority powered).Fits ballots)
    (cast : ballots ≠ [])
    (highest : ∀ other, tally (powerOf staking) ballots other ≤
      tally (powerOf staking) ballots content) :
    completedStatus env (eligiblePower staking whiteList) (castWeight (powerOf staking) ballots)
        (tally (powerOf staking) ballots content) content ⟨.pending, ""⟩ =
      statusOf ((prophecyPoll env staking whiteList majority powered).verdict ballots) := by
  set poll := prophecyPoll env staking whiteList majority powered with poll_eq
  have accepts : poll.Accepts ballots content ↔ env.consensusNeeded.reachedBy
      (tally (powerOf staking) ballots content) (eligiblePower staking whiteList) = true :=
    (reachedBy_iff powered).symm
  have remaining : (tally (powerOf staking) ballots content : Int) +
      (eligiblePower staking whiteList - castWeight (powerOf staking) ballots) =
        ((tally (powerOf staking) ballots content + (eligiblePower staking whiteList -
          castWeight (powerOf staking) ballots) : Nat) : Int) := by
    have bounded : castWeight (powerOf staking) ballots ≤ eligiblePower staking whiteList := fits
    omega
  have rejects : poll.Rejects ballots ↔ env.consensusNeeded.outOfReachOf
      (tally (powerOf staking) ballots content +
        (eligiblePower staking whiteList - castWeight (powerOf staking) ballots))
      (eligiblePower staking whiteList) = true := by
    rw [remaining, outOfReachOf_iff powered]
    refine ⟨fun rejected => rejected.2 content, fun short => ⟨cast, fun other => ?_⟩⟩
    exact (Nat.mul_le_mul_right _ (Nat.add_le_add_right (highest other) _)).trans_lt short
  unfold completedStatus
  split
  · next reached =>
    rw [(Poll.verdict_accepted_iff fits).mpr (accepts.mpr reached)]
    rfl
  · next short =>
    split
    · next out =>
      rw [Poll.verdict_rejected_iff.mpr (rejects.mpr out)]
      rfl
    · next possible =>
      cases reached : poll.verdict ballots with
      | undecided => rfl
      | rejected => exact absurd (rejects.mp (Poll.verdict_rejected_iff.mp reached)) possible
      | accepted other =>
        -- a content that is accepted would make the highest one accepted
        have accepted := (Poll.verdict_accepted_iff fits).mp reached
        have top : poll.Accepts ballots content :=
          accepted.trans (Nat.mul_le_mul_right _ (highest other))
        exact absurd (accepts.mp top) short

/-- The stored prophecy holds the counted ballots and has the status of their verdict. -/
structure Counting (env : Environment) (poll : Poll ValAddress) (whiteList : List ValAddress)
    (id : String) (state : State) (ballots : List (ValAddress × String)) : Prop where
  whiteList_eq : state.whiteList = whiteList
  id_eq : (state.prophecyOrNew env.codec id).id = id
  recorded : Ballots env.codec (state.prophecyOrNew env.codec id) ballots
  status : (state.prophecyOrNew env.codec id).status = statusOf (poll.verdict ballots)

/-- A prophecy that is not stored has no ballot. -/
theorem Counting.start {poll : Poll ValAddress} (fresh : state.getProphecy env.codec id = none) :
    Counting env poll state.whiteList id state [] := by
  have new : state.prophecyOrNew env.codec id = newProphecy id := by
    rw [State.prophecyOrNew, fresh]
    rfl
  have undecided : poll.verdict ([] : List (ValAddress × String)) = .undecided := rfl
  refine ⟨rfl, ?_, ?_, ?_⟩
  · rw [new]
    rfl
  · rw [new]
    exact Ballots.start id
  · rw [new, undecided]
    rfl

/-- A claim that may be counted. -/
structure Admissible (staking : Staking) (whiteList : List ValAddress)
    (ballot : ValAddress × String) : Prop where
  whiteListed : ballot.1 ∈ whiteList
  active : checkActiveValidator staking ballot.1 = true

/-- A pending prophecy processes the claim of a validator that has not claimed, and counts it. -/
theorem Counting.processed {order : MapOrder} {ballot : ValAddress × String}
    (counting : Counting env (prophecyPoll env staking whiteList majority powered) whiteList id
      state ballots)
    (undecided : (prophecyPoll env staking whiteList majority powered).verdict ballots = .undecided)
    (id_ne : id ≠ "") (content_ne : ballot.2 ≠ "")
    (admissible : Admissible staking whiteList ballot) (unvoted : ballot.1 ∉ ballots.map Prod.fst)
    (fits : (prophecyPoll env staking whiteList majority powered).Fits (ballots ++ [ballot])) :
    ∃ next, processClaim env ⟨staking, order⟩ state ⟨id, env.codec.text ballot.1, ballot.2⟩ =
        .ok (next, (next.prophecyOrNew env.codec id).status) ∧
      Counting env (prophecyPoll env staking whiteList majority powered) whiteList id next
        (ballots ++ [ballot]) := by
  have before := counting.status
  rw [undecided] at before
  have free : (state.prophecyOrNew env.codec id).contentOf (env.codec.text ballot.1) = "" := by
    unfold Prophecy.contentOf
    cases held : (state.prophecyOrNew env.codec id).validatorClaims.get
        (env.codec.text ballot.1) with
    | none => rfl
    | some content =>
      have cast := (counting.recorded.contents ballot.1 content).mp held
      exact absurd (List.mem_map.mpr ⟨_, cast, rfl⟩) unvoted
  have added := counting.recorded.addClaim unvoted content_ne
  set after := processCompletion env ⟨staking, order⟩ state.whiteList
    ((state.prophecyOrNew env.codec id).addClaim env.codec ballot.1 ballot.2) with after_eq
  have id_eq : after.id = id := by
    rw [after_eq, processCompletion_eq]
    exact counting.id_eq
  have stored : (state.setProphecy env.codec after).prophecyOrNew env.codec id = after := by
    have same := @prophecyOrNew_set_same env.codec state after
    rw [id_eq] at same
    exact same
  refine ⟨state.setProphecy env.codec after, ?_, counting.whiteList_eq, ?_, ?_, ?_⟩
  · rw [stored]
    exact processClaim_ok.mpr ⟨ballot.1, _, rfl, counting.whiteList_eq ▸ admissible.whiteListed,
      admissible.active, id_ne, content_ne, rfl, by rw [before]; rfl, free, rfl⟩
  · rw [stored, id_eq]
  · rw [stored, after_eq, processCompletion_eq]
    exact added.with_status _
  · obtain ⟨content, -, highest, completed⟩ :=
      @processCompletion_status env ⟨staking, order⟩ _ _ added (by simp) state.whiteList
    have status : ((state.prophecyOrNew env.codec id).addClaim env.codec ballot.1
        ballot.2).status = ⟨.pending, ""⟩ := before
    rw [stored, completed, status, counting.whiteList_eq]
    exact completedStatus_verdict fits (by simp) highest

/-- An admissible new claim is counted. -/
theorem Counting.count {order : MapOrder} {ballot : ValAddress × String}
    (counting : Counting env (prophecyPoll env staking whiteList majority powered) whiteList id
      state ballots)
    (undecided : (prophecyPoll env staking whiteList majority powered).verdict ballots = .undecided)
    (id_ne : id ≠ "") (content_ne : ballot.2 ≠ "")
    (admissible : Admissible staking whiteList ballot) (unvoted : ballot.1 ∉ ballots.map Prod.fst)
    (fits : (prophecyPoll env staking whiteList majority powered).Fits (ballots ++ [ballot])) :
    Counting env (prophecyPoll env staking whiteList majority powered) whiteList id
      (attempt (deliver env) state (submit env.codec staking id (order, ballot)))
      (ballots ++ [ballot]) := by
  obtain ⟨next, processed, counted⟩ := @Counting.processed env staking whiteList majority powered id
    state ballots order ballot counting undecided id_ne content_ne admissible unvoted fits
  have delivered : deliver env state (submit env.codec staking id (order, ballot)) = .ok next := by
    simp only [deliver, submit, processed, Result.bind_ok, Result.pure_ok]
    exact ⟨_, rfl, rfl⟩
  rw [attempt_ok delivered]
  exact counted

/-- A claim that is refused leaves what was counted. -/
theorem Counting.refuse {poll : Poll ValAddress} {submission : Submission}
    (counting : Counting env poll whiteList id state ballots)
    (refused : poll.verdict ballots ≠ .undecided ∨ id = "" ∨ submission.2.2 = "") :
    Counting env poll whiteList id
      (attempt (deliver env) state (submit env.codec staking id submission)) ballots := by
  rcases @attempt_cases _ _ _ (deliver env) state (submit env.codec staking id submission) with
    same | ⟨next, delivered, -⟩
  · rw [same]
    exact counting
  · exfalso
    simp only [deliver, submit, Result.bind_ok] at delivered
    obtain ⟨result, accepted, -⟩ := delivered
    obtain ⟨address, before, processed⟩ := processClaim_ok.mp accepted
    rcases refused with decided | no_id | no_content
    · have pending := processed.pending
      rw [processed.found, counting.status] at pending
      exact decided (statusOf_pending pending)
    · exact processed.id_ne no_id
    · exact processed.content_ne no_content

/-- The ballots that are not refused for an empty id or content. -/
def wellFormed (id : String) (ballots : List (ValAddress × String)) :
    List (ValAddress × String) :=
  ballots.filter fun ballot => id ≠ "" ∧ ballot.2 ≠ ""

/-- A run counts the well-formed claims until there is a verdict. -/
theorem Counting.run {submissions : List Submission}
    (counting : Counting env (prophecyPoll env staking whiteList majority powered) whiteList id
      state ballots)
    (oneEach : ((ballots ++ submissions.map Prod.snd).map Prod.fst).Nodup)
    (whiteListed : ∀ ballot ∈ ballots, ballot.1 ∈ whiteList)
    (admissible : ∀ submission ∈ submissions, Admissible staking whiteList submission.2) :
    Counting env (prophecyPoll env staking whiteList majority powered) whiteList id
      (Base.run (deliver env) state (submissions.map (submit env.codec staking id)))
      ((prophecyPoll env staking whiteList majority powered).counted ballots
        (wellFormed id (submissions.map Prod.snd))) := by
  induction submissions generalizing state ballots with
  | nil => exact counting
  | cons submission rest ih =>
    have laterAdmissible : ∀ later ∈ rest, Admissible staking whiteList later.2 :=
      fun later member => admissible later (List.mem_cons_of_mem _ member)
    have shifted : ballots ++ (submission :: rest).map Prod.snd =
        (ballots ++ [submission.2]) ++ rest.map Prod.snd := by simp
    -- a claim that is not counted leaves the ballots, and the rest is still of other validators
    have skipped : ((ballots ++ rest.map Prod.snd).map Prod.fst).Nodup :=
      oneEach.sublist (((List.sublist_cons_self ..).append_left ballots).map _)
    have skip := fun refused => ih (@Counting.refuse env staking whiteList id state ballots _ submission counting refused) skipped
      whiteListed laterAdmissible
    by_cases formed : id ≠ "" ∧ submission.2.2 ≠ ""
    · have head : wellFormed id ((submission :: rest).map Prod.snd) =
          submission.2 :: wellFormed id (rest.map Prod.snd) :=
        List.filter_cons_of_pos (decide_eq_true formed)
      rw [head, Poll.counted]
      by_cases undecided :
          (prophecyPoll env staking whiteList majority powered).verdict ballots = .undecided
      · rw [if_pos undecided]
        rw [shifted] at oneEach
        have own := admissible submission List.mem_cons_self
        have counted : ∀ ballot ∈ ballots ++ [submission.2], ballot.1 ∈ whiteList := by
          intro ballot cast
          rcases List.mem_append.mp cast with earlier | added
          · exact whiteListed ballot earlier
          · rw [List.mem_singleton.mp added]
            exact own.whiteListed
        have distinct : ((ballots ++ [submission.2]).map Prod.fst).Nodup :=
          oneEach.sublist ((List.sublist_append_left ..).map _)
        have unvoted : submission.2.1 ∉ ballots.map Prod.fst := by
          rw [List.map_append, List.nodup_append] at distinct
          exact fun voted => distinct.2.2 _ voted _ (List.mem_singleton_self _) rfl
        exact ih (counting.count undecided formed.1 formed.2 own unvoted
          (fits_of_whiteListed distinct counted)) oneEach counted laterAdmissible
      · rw [if_neg undecided]
        exact skip (.inl undecided)
    · have head : wellFormed id ((submission :: rest).map Prod.snd) =
          wellFormed id (rest.map Prod.snd) :=
        List.filter_cons_of_neg (fun formed' => formed (of_decide_eq_true formed'))
      rw [head]
      rw [not_and_or, not_not, not_not] at formed
      exact skip (.inr formed)

/-- The status at the end of a run is the verdict on its well-formed claims. -/
theorem status_run {start : State} {submissions : List Submission}
    {powered : 0 < eligiblePower staking start.whiteList}
    (fresh : start.getProphecy env.codec id = none)
    (oneEach : ((submissions.map Prod.snd).map Prod.fst).Nodup)
    (admissible : ∀ submission ∈ submissions, Admissible staking start.whiteList submission.2) :
    let ballots := wellFormed id (submissions.map Prod.snd)
    (prophecyPoll env staking start.whiteList majority powered).Fits ballots ∧
      ((Base.run (deliver env) start (submissions.map (submit env.codec staking
        id))).prophecyOrNew env.codec id).status =
          statusOf ((prophecyPoll env staking start.whiteList majority powered).verdict
            ballots) := by
  have counted := (@Counting.start env id start
    (prophecyPoll env staking start.whiteList majority powered) fresh).run oneEach (by simp) admissible
  have fits : (prophecyPoll env staking start.whiteList majority powered).Fits
      (wellFormed id (submissions.map Prod.snd)) := by
    apply fits_of_whiteListed
    · exact oneEach.sublist (List.filter_sublist.map _)
    · intro ballot cast
      obtain ⟨submission, submitted, rfl⟩ := List.mem_map.mp (List.mem_of_mem_filter cast)
      exact (admissible submission submitted).whiteListed
  exact ⟨fits, by rw [counted.status, Poll.verdict_counted fits]; rfl⟩

/-- Ill-formed claims are for no content that can succeed. -/
theorem tally_wellFormed {power : ValAddress → Nat} {content : String} (id_ne : id ≠ "")
    (content_ne : content ≠ "") :
    tally power (wellFormed id ballots) content = tally power ballots content := by
  unfold tally wellFormed ballotsFor
  rw [List.filter_filter]
  congr 1
  apply List.filter_congr
  intro ballot _
  by_cases same : ballot.2 = content
  · simp [same, id_ne, content_ne]
  · simp [same]

end Run

/-- For distinct white-listed bonded validators, the status at the end does not depend on the order
of the claims, and a content succeeds exactly when its claimants hold the required share. -/
theorem status_order_independent (env : Environment)
    (majority : env.consensusNeeded.denominator < 2 * env.consensusNeeded.numerator)
    (staking : Staking) (start : State) (powered : 0 < eligiblePower staking start.whiteList)
    (id : String) (fresh : start.getProphecy env.codec id = none)
    (first second : List Submission)
    (same : (first.map Prod.snd).Perm (second.map Prod.snd))
    (oneEach : ((first.map Prod.snd).map Prod.fst).Nodup)
    (admissible : ∀ ballot ∈ first.map Prod.snd, Admissible staking start.whiteList ballot) :
    let statusAfter := fun submissions : List Submission =>
      ((run (deliver env) start (submissions.map (submit env.codec staking id))).prophecyOrNew
        env.codec id).status
    statusAfter first = statusAfter second ∧
      (id ≠ "" → ∀ content, content ≠ "" →
        (statusAfter first = ⟨.success, content⟩ ↔
          env.consensusNeeded.numerator * eligiblePower staking start.whiteList ≤
            tally (powerOf staking) (first.map Prod.snd) content *
              env.consensusNeeded.denominator)) := by
  intro statusAfter
  have firstAdmissible : ∀ submission ∈ first, Admissible staking start.whiteList submission.2 :=
    fun submission member => admissible _ (List.mem_map_of_mem member)
  have secondAdmissible : ∀ submission ∈ second, Admissible staking start.whiteList submission.2 :=
    fun submission member => admissible _ (same.mem_iff.mpr (List.mem_map_of_mem member))
  have secondOneEach := (same.map Prod.fst).nodup_iff.mp oneEach
  obtain ⟨fits, firstStatus⟩ := @status_run env staking majority id start first powered fresh
    oneEach firstAdmissible
  obtain ⟨-, secondStatus⟩ := @status_run env staking majority id start second powered fresh
    secondOneEach secondAdmissible
  constructor
  · change statusAfter first = _ at firstStatus
    change statusAfter second = _ at secondStatus
    have reordered : (wellFormed id (first.map Prod.snd)).Perm (wellFormed id (second.map Prod.snd)) :=
      same.filter _
    rw [firstStatus, secondStatus, Poll.verdict_perm fits reordered]
  · intro id_ne content content_ne
    change statusAfter first = _ at firstStatus
    rw [firstStatus, statusOf_success, Poll.verdict_accepted_iff fits, Poll.Accepts,
      tally_wellFormed id_ne content_ne]
    rfl

/-- Seven tenths of the power claim a lock and the rest a burn, in two orders. -/
theorem lock_succeeds_in_both_orders :
    let ballots := [(operator 1, "lock"), (operator 2, "burn"), (operator 3, "lock")]
    let first : List Submission := ballots.map fun ballot => (ascending, ballot)
    let second : List Submission := ballots.reverse.map fun ballot => (descending, ballot)
    let statusAfter := fun submissions : List Submission =>
      ((run (deliver appEnvironment) (oracleWith [operator 1, operator 2, operator 3])
        (submissions.map (submit operatorCodec unevenStaking "1"))).prophecyOrNew operatorCodec
          "1").status
    statusAfter first = statusAfter second ∧ (statusAfter first = ⟨.success, "lock"⟩ ↔
      7 * eligiblePower unevenStaking [operator 1, operator 2, operator 3] ≤
        tally (powerOf unevenStaking) ballots "lock" * 10) := by
  have settled := status_order_independent appEnvironment (by decide) unevenStaking
    (oracleWith [operator 1, operator 2, operator 3]) (by decide +kernel) "1" rfl
    ([(operator 1, "lock"), (operator 2, "burn"), (operator 3, "lock")].map
      fun ballot => (ascending, ballot))
    ([(operator 1, "lock"), (operator 2, "burn"), (operator 3, "lock")].reverse.map
      fun ballot => (descending, ballot))
    (by decide +kernel) (by decide +kernel) (by
      intro ballot cast
      have checked : ∀ ballot ∈ [(operator 1, "lock"), (operator 2, "burn"), (operator 3, "lock")],
          ballot.1 ∈ [operator 1, operator 2, operator 3] ∧
            checkActiveValidator unevenStaking ballot.1 = true := by
        decide +kernel
      have both := checked ballot cast
      exact ⟨both.1, both.2⟩)
  exact ⟨settled.1, settled.2 (by decide) "lock" (by decide)⟩

end Akhira.Verif.Oracle
