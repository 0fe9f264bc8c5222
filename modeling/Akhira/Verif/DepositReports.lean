import Akhira.Verif.DepositVotes

/-!
# Reports of deposits in batches

Every validator reports the same deposits, in batches of its own that are broadcast as one
transaction each. A claim for a prophecy that is no longer pending is refused and takes the other
claims of its batch with it. When no batch mixes pending and finished prophecies, a refused batch
brings nothing that was still needed: each prophecy collects all claims until it succeeds.
-/
namespace Akhira.Verif.EthBridge

open Akhira.Base Akhira.Sdk Akhira.EthBridge Akhira.Relayer

variable {env : Environment} {context : Context} {state next : State}

/-- The prophecies of a batch are all pending or all finished. -/
def unmixed (env : Environment) (state : State) (batch : Batch env) : Bool :=
  batch.deposits.all (finished env state) ||
    batch.deposits.all fun deposit => !finished env state deposit

/-- A batch that mixes nothing, with room for all it could pay. -/
def Timely (env : Environment) (state : State) (batch : Batch env) : Prop :=
  unmixed env state batch = true ∧
    ∀ deposit ∈ batch.deposits, Room env state.bank (amountsOf batch.deposits) deposit

/-- Whether a batch is timely is decided by its parts. -/
instance (state : State) (batch : Batch env) : Decidable (Timely env state batch) :=
  inferInstanceAs (Decidable (_ ∧ _))

namespace Setting

variable {setting : Setting env} {deposit other : Deposit env}

/-- Which validators have sent a claim for an id, once more ids have been reported by one. -/
def sent (voted : Oracle.ValAddress → String → Prop) (validator : Oracle.ValAddress)
    (ids : List String) : Oracle.ValAddress → String → Prop :=
  fun voter id => voted voter id ∨ voter = validator ∧ id ∈ ids

/-- Every pending prophecy holds the claims of exactly the validators that have sent one. -/
structure Tallied (setting : Setting env) (voted : Oracle.ValAddress → String → Prop)
    (state : State) : Prop where
  sound : Sound env state
  accounts : ∀ validator ∈ setting.validators, (state.accounts validator.bytes).isSome = true
  holds : ∀ deposit ∈ setting.deposits, ∃ voters, setting.Holds deposit state voters ∧
    (finished env state deposit = false → ∀ voter, voter ∈ voters ↔ voted voter deposit.id)

variable {voted : Oracle.ValAddress → String → Prop} {validator : Oracle.ValAddress}
  {deposits : List (Deposit env)}

/-- Only the prophecies and the existing accounts matter. -/
theorem Tallied.congr (tallied : setting.Tallied voted state) {after : Oracle.ValAddress → String → Prop}
    (oracle : next.oracle = state.oracle)
    (accounts : ∀ address, (next.accounts address).isSome = (state.accounts address).isSome)
    (same : ∀ deposit ∈ setting.deposits, finished env state deposit = false →
      ∀ voter, voted voter deposit.id ↔ after voter deposit.id) :
    setting.Tallied after next := by
  have prophecies : ∀ id, prophecyOf env next id = prophecyOf env state id := by
    intro id
    unfold prophecyOf
    rw [oracle]
  refine ⟨?_, fun validator reporting => ?_, fun deposit listed => ?_⟩
  · unfold Sound
    rw [oracle]
    exact tallied.sound
  · rw [accounts]
    exact tallied.accounts validator reporting
  · obtain ⟨voters, ⟨collected, reporting⟩, exactly⟩ := tallied.holds deposit listed
    refine ⟨voters, ⟨?_, reporting⟩, ?_⟩
    · unfold Collected
      rw [oracle]
      exact collected
    · unfold finished
      rw [prophecies]
      intro pending voter
      rw [exactly pending voter, same deposit listed pending]

/-- The report of a pending deposit that its validator has not sent before is counted. -/
theorem report_tallied (tallied : setting.Tallied voted state)
    (reporting : validator ∈ setting.validators) (listed : deposit ∈ setting.deposits)
    (unsent : ¬ voted validator deposit.id) (pending : finished env state deposit = false)
    (fixed : context.oracle.staking = setting.staking)
    (free : ∀ denom, context.locked (env.chain.moduleAddress moduleName) denom = 0)
    (room : Room env state.bank deposit.amount deposit) :
    ∃ next events, handle env context state
        (.createEthBridgeClaim (reportedBy env validator deposit.claim)) = .ok (next, events) ∧
      Beside env deposit state next ∧ setting.Tallied (sent voted validator [deposit.id]) next := by
  obtain ⟨voters, holds, exactly⟩ := tallied.holds deposit listed
  have unvoted : validator ∉ voters := fun claimed => unsent ((exactly pending validator).mp claimed)
  have once : (voters ++ [validator]).Nodup :=
    List.nodup_append.mpr ⟨holds.distinct, List.nodup_singleton _, by
      intro voter claimed added only same
      rw [List.mem_singleton.mp only] at same
      exact unvoted (same ▸ claimed)⟩
  have allReporting : ∀ voter ∈ voters ++ [validator], voter ∈ setting.validators := by
    intro voter claimed
    rcases List.mem_append.mp claimed with earlier | added
    · exact holds.reporting voter earlier
    · rw [List.mem_singleton.mp added]
      exact reporting
  have undecided : setting.poll.verdict (Poll.unanimous voters deposit.text) = .undecided := by
    rcases holds.status with ⟨undecided, -⟩ | ⟨-, done, -⟩
    · exact undecided
    · rw [pending] at done
      cases done
  obtain ⟨next, events, handled, sound, beside, collected⟩ := report_counted tallied.sound
    holds.collected undecided (fits_of_reporting once allReporting) unvoted
    ⟨setting.whiteListed validator reporting, setting.active validator reporting⟩ fixed free room
  refine ⟨next, events, handled, beside, sound, ?_, ?_⟩
  · rw [beside.accounts]
    exact tallied.accounts
  · intro other otherListed
    by_cases same : other.id = deposit.id
    · rw [deposit_unique otherListed listed same]
      refine ⟨voters ++ [validator], ⟨collected, allReporting⟩, fun _ voter => ?_⟩
      rw [List.mem_append, List.mem_singleton, exactly pending voter]
      unfold sent
      simp
    · obtain ⟨others, otherHolds, otherExactly⟩ := tallied.holds other otherListed
      have kept : prophecyOf env next other.id = prophecyOf env state other.id :=
        beside.others other.id same
      refine ⟨others, ⟨?_, otherHolds.reporting⟩, ?_⟩
      · have before := otherHolds.collected
        refine ⟨beside.whiteList.trans before.whiteList_eq, ?_, ?_, ?_⟩
        · exact (congrArg Oracle.Prophecy.id kept).trans before.id_eq
        · exact (show next.oracle.prophecyOrNew _ _ = _ from kept) ▸ before.recorded
        · exact (congrArg Oracle.Prophecy.status kept).trans before.status
      · unfold finished
        rw [kept]
        intro stillPending voter
        rw [otherExactly stillPending voter]
        unfold sent
        simp [same]

/-- The room for a list of deposits is left for the rest when the first has been paid. -/
theorem room_beside (beside : Beside env deposit state next)
    (room : Room env state.bank (amountsOf (deposit :: deposits)) other) :
    Room env next.bank (amountsOf deposits) other := by
  unfold Room amountsOf at *
  rw [List.map_cons, List.sum_cons] at room
  have supply := beside.supply other.denom
  have module := beside.balance (env.chain.moduleAddress moduleName) other.denom
  have receiver := beside.balance other.receiver other.denom
  omega

/-- The messages of pending deposits are all executed. -/
theorem runMsgs_tallied (tallied : setting.Tallied voted state)
    (reporting : validator ∈ setting.validators)
    (listed : ∀ deposit ∈ deposits, deposit ∈ setting.deposits)
    (unsent : ∀ deposit ∈ deposits, ¬ voted validator deposit.id)
    (once : (deposits.map Deposit.id).Nodup)
    (pending : ∀ deposit ∈ deposits, finished env state deposit = false)
    (fixed : context.oracle.staking = setting.staking)
    (free : ∀ denom, context.locked (env.chain.moduleAddress moduleName) denom = 0)
    (room : ∀ deposit ∈ deposits, Room env state.bank (amountsOf deposits) deposit) :
    ∃ result, runMsgs env context state (deposits.map fun deposit => deposit.msg validator) =
        .ok result ∧ setting.Tallied (sent voted validator (deposits.map Deposit.id)) result.1 := by
  induction deposits generalizing state voted with
  | nil =>
    refine ⟨(state, []), rfl, tallied.congr rfl (fun _ => rfl) fun deposit _ _ voter => ?_⟩
    simp [sent]
  | cons deposit rest ih =>
    have own : Room env state.bank deposit.amount deposit := by
      have whole := room deposit List.mem_cons_self
      unfold Room amountsOf at *
      rw [List.map_cons, List.sum_cons] at whole
      omega
    obtain ⟨next, events, handled, beside, counted⟩ := report_tallied tallied reporting
      (listed deposit List.mem_cons_self) (unsent deposit List.mem_cons_self)
      (pending deposit List.mem_cons_self) fixed free own
    rw [List.map_cons, List.nodup_cons] at once
    have different : ∀ later ∈ rest, later.id ≠ deposit.id :=
      fun later member same => once.1 (same ▸ List.mem_map_of_mem member)
    obtain ⟨result, ran, tallies⟩ := ih counted
      (fun later member => listed later (List.mem_cons_of_mem _ member))
      (fun later member voted => by
        rcases voted with earlier | ⟨-, now⟩
        · exact unsent later (List.mem_cons_of_mem _ member) earlier
        · exact different later member (List.mem_singleton.mp now))
      once.2
      (fun later member => by
        unfold finished
        rw [beside.others later.id (different later member)]
        exact pending later (List.mem_cons_of_mem _ member))
      (fun later member => room_beside beside (room later (List.mem_cons_of_mem _ member)))
    let receipt : Receipt :=
      ⟨.createEthBridgeClaim (reportedBy env validator deposit.claim), events⟩
    refine ⟨(result.1, receipt :: result.2), ?_, tallies.congr rfl (fun _ => rfl) ?_⟩
    · simp only [List.map_cons, Deposit.msg, runMsgs, Result.bind_ok, Result.pure_ok]
      exact ⟨(next, events), handled, result, ran, rfl⟩
    · intro _ _ _ voter
      unfold sent
      simp only [List.map_cons, List.mem_cons, List.not_mem_nil, or_false]
      tauto

/-- What holds of a batch of a validator: it reports deposits that the validator has not sent. -/
structure Fresh (setting : Setting env) (voted : Oracle.ValAddress → String → Prop)
    (batch : Batch env) : Prop where
  reporting : batch.validator ∈ setting.validators
  listed : ∀ deposit ∈ batch.deposits, deposit ∈ setting.deposits
  unsent : ∀ deposit ∈ batch.deposits, ¬ voted batch.validator deposit.id
  once : (batch.deposits.map Deposit.id).Nodup
  fixed : batch.context.oracle.staking = setting.staking
  free : ∀ denom, batch.context.locked (env.chain.moduleAddress moduleName) denom = 0

/-- A timely batch loses no claim that a pending prophecy needs. -/
theorem batch_tallied {batch : Batch env} (tallied : setting.Tallied voted state)
    (fresh : setting.Fresh voted batch) (timely : Timely env state batch) :
    setting.Tallied (sent voted batch.validator (batch.deposits.map Deposit.id))
      (attempt (sendBatch env) state batch) := by
  by_cases some_ : batch.deposits = []
  · rw [attempt_empty some_, some_]
    refine tallied.congr rfl (fun _ => rfl) fun deposit _ _ voter => ?_
    simp [sent]
  · obtain ⟨accounts, passed, kept⟩ := ante_reports some_
      (tallied.accounts batch.validator fresh.reporting)
    have checked : setting.Tallied voted { state with accounts } :=
      tallied.congr rfl kept fun _ _ _ _ => Iff.rfl
    rcases Bool.or_eq_true _ _ |>.mp timely.1 with done | pending
    · have all := List.all_eq_true.mp done
      obtain ⟨deposit, rest, batched⟩ := List.exists_cons_of_ne_nil some_
      have first := all deposit (by rw [batched]; exact List.mem_cons_self)
      have refused : ∃ fault, runMsgs env batch.context { state with accounts }
          (batch.deposits.map fun deposit => deposit.msg batch.validator) = .error fault := by
        cases ran : runMsgs env batch.context { state with accounts }
            (batch.deposits.map fun deposit => deposit.msg batch.validator) with
        | error fault => exact ⟨fault, rfl⟩
        | ok result =>
          rw [batched, List.map_cons] at ran
          exact absurd ran (report_refused checked.sound first)
      obtain ⟨fault, stopped⟩ := refused
      rw [attempt_stopped passed stopped]
      refine tallied.congr rfl kept fun deposit listed open_ voter => ?_
      unfold sent
      constructor
      · exact .inl
      · rintro (voted | ⟨-, reported⟩)
        · exact voted
        · obtain ⟨own, member, same⟩ := List.mem_map.mp reported
          rw [deposit_unique listed (fresh.listed own member) same.symm, all own member] at open_
          cases open_
    · have all : ∀ deposit ∈ batch.deposits, finished env state deposit = false :=
        fun deposit member => by simpa using List.all_eq_true.mp pending deposit member
      obtain ⟨result, ran, counted⟩ := @runMsgs_tallied _ batch.context { state with accounts }
        setting voted batch.validator batch.deposits checked fresh.reporting fresh.listed
        fresh.unsent fresh.once all fresh.fixed fresh.free timely.2
      rw [attempt_ran passed ran]
      exact counted

/-- Two batches of one validator have no deposit in common. -/
def Apart (earlier later : Batch env) : Prop :=
  earlier.validator = later.validator →
    (earlier.deposits.map Deposit.id).Disjoint (later.deposits.map Deposit.id)

/-- The claims that batches bring. -/
def sentIn (voted : Oracle.ValAddress → String → Prop) (batches : List (Batch env)) :
    Oracle.ValAddress → String → Prop :=
  fun voter id => voted voter id ∨
    ∃ batch ∈ batches, voter = batch.validator ∧ id ∈ batch.deposits.map Deposit.id

/-- Timely batches lose no claim that a pending prophecy needs. -/
theorem run_tallied {batches : List (Batch env)} (tallied : setting.Tallied voted state)
    (fresh : ∀ batch ∈ batches, setting.Fresh voted batch) (apart : batches.Pairwise Apart)
    (timely : Meets (sendBatch env) (Timely env) state batches) :
    setting.Tallied (sentIn voted batches) (run (sendBatch env) state batches) := by
  induction batches generalizing state voted with
  | nil =>
    refine tallied.congr rfl (fun _ => rfl) fun deposit _ _ voter => ?_
    simp [sentIn]
  | cons batch rest ih =>
    obtain ⟨first, later⟩ := List.pairwise_cons.mp apart
    have counted := batch_tallied tallied (fresh batch List.mem_cons_self) timely.1
    have stillFresh : ∀ next ∈ rest, setting.Fresh
        (sent voted batch.validator (batch.deposits.map Deposit.id)) next := by
      intro next member
      have before := fresh next (List.mem_cons_of_mem _ member)
      refine { before with unsent := ?_ }
      rintro deposit reported (earlier | ⟨same, now⟩)
      · exact before.unsent deposit reported earlier
      · exact first next member same.symm now (List.mem_map_of_mem reported)
    refine (ih counted stillFresh later timely.2).congr rfl (fun _ => rfl) ?_
    intro deposit _ _ voter
    simp only [sentIn, sent, List.exists_mem_cons_iff, or_assoc]

end Setting

/-- The transactions of the validators, in the order the chain executes them: each validator sends
every deposit once, in batches of its own. -/
structure Schedule (setting : Setting env) where
  batches : List (Batch env)
  senders : ∀ batch ∈ batches, batch.validator ∈ setting.validators
  batched : ∀ validator ∈ setting.validators,
    ((batches.filter fun batch => batch.validator = validator).flatMap Batch.deposits).Perm
      setting.deposits
  fixed : ∀ batch ∈ batches, batch.context.oracle.staking = setting.staking
  free : ∀ batch ∈ batches, ∀ denom,
    batch.context.locked (env.chain.moduleAddress moduleName) denom = 0

namespace Schedule

variable {setting : Setting env} (schedule : Schedule setting)

/-- What the batches of one validator report is reported once. -/
theorem reports_once {validator : Oracle.ValAddress} (reporting : validator ∈ setting.validators) :
    (∀ batch ∈ schedule.batches, batch.validator = validator →
        (batch.deposits.map Deposit.id).Nodup) ∧
      schedule.batches.Pairwise fun earlier later =>
        earlier.validator = validator → later.validator = validator →
          (earlier.deposits.map Deposit.id).Disjoint (later.deposits.map Deposit.id) := by
  have once := ((schedule.batched validator reporting).map Deposit.id).nodup_iff.mpr
    setting.distinct
  rw [List.map_flatMap, List.nodup_flatMap] at once
  constructor
  · intro batch member own
    exact once.1 batch (List.mem_filter.mpr ⟨member, decide_eq_true own⟩)
  · refine (List.pairwise_filter.mp once.2).imp fun apart first second => ?_
    exact apart (decide_eq_true first) (decide_eq_true second)

/-- No validator has one deposit in two batches of the schedule. -/
theorem apart : schedule.batches.Pairwise Setting.Apart := by
  rw [List.pairwise_iff_forall_sublist]
  intro earlier later ordered same
  have reporting := schedule.senders later (ordered.subset (by simp))
  exact List.pairwise_iff_forall_sublist.mp (schedule.reports_once reporting).2 ordered same rfl

/-- At the start every batch is fresh. -/
theorem fresh {batch : Batch env} (member : batch ∈ schedule.batches) :
    setting.Fresh (fun _ _ => False) batch where
  reporting := schedule.senders batch member
  listed deposit reported := by
    have own := schedule.batched batch.validator (schedule.senders batch member)
    refine own.subset (List.mem_flatMap.mpr ⟨batch, ?_, reported⟩)
    exact List.mem_filter.mpr ⟨member, decide_eq_true rfl⟩
  unsent _ _ := id
  once := (schedule.reports_once (schedule.senders batch member)).1 batch member rfl
  fixed := schedule.fixed batch member
  free := schedule.free batch member

/-- In the end every validator has sent a claim for every deposit. -/
theorem sends_all {validator : Oracle.ValAddress} {deposit : Deposit env}
    (reporting : validator ∈ setting.validators) (listed : deposit ∈ setting.deposits) :
    Setting.sentIn (fun _ _ => False) schedule.batches validator deposit.id := by
  have reported := (schedule.batched validator reporting).symm.subset listed
  obtain ⟨batch, own, member⟩ := List.mem_flatMap.mp reported
  obtain ⟨sends, same⟩ := List.mem_filter.mp own
  exact .inr ⟨batch, sends, (of_decide_eq_true same).symm, List.mem_map_of_mem member⟩

/-- Its batches are reports of the setting. -/
theorem reports {batch : Batch env} (member : batch ∈ schedule.batches) : setting.Reports batch :=
  ⟨schedule.senders batch member, (schedule.fresh member).listed, schedule.fixed batch member,
    schedule.free batch member⟩

end Schedule

/-- When the batches mix no pending and finished prophecies, every deposit succeeds, for any
batching and any interleaving of the validators. -/
theorem every_deposit_succeeds (env : Environment) (setting : Setting env)
    (schedule : Schedule setting) (start : State) (sound : Sound env start)
    (whiteList : start.oracle.whiteList = setting.whiteList)
    (unclaimed : ∀ deposit ∈ setting.deposits,
      start.oracle.getProphecy env.oracle.codec deposit.id = none)
    (accounts : ∀ validator ∈ setting.validators,
      (start.accounts validator.bytes).isSome = true)
    (timely : Meets (sendBatch env) (Timely env) start schedule.batches) :
    ∀ deposit ∈ setting.deposits,
      (prophecyOf env (run (sendBatch env) start schedule.batches) deposit.id).status.text =
        .success := by
  have begins : setting.Tallied (fun _ _ => False) start := by
    refine ⟨sound, accounts, fun deposit listed => ⟨[], ⟨?_, by simp⟩, by simp⟩⟩
    have started : Oracle.Counting env.oracle setting.poll start.oracle.whiteList deposit.id
        start.oracle [] := Oracle.Counting.start (unclaimed deposit listed)
    rw [whiteList] at started
    exact started
  have tallied := Setting.run_tallied begins (fun _ member => schedule.fresh member)
    schedule.apart timely
  intro deposit listed
  obtain ⟨voters, holds, exactly⟩ := tallied.holds deposit listed
  rcases holds.status with ⟨-, pending⟩ | ⟨success, -, -⟩
  · apply holds.success
    intro validator reporting
    exact (exactly pending validator).mpr (schedule.sends_all reporting listed)
  · exact success

section Sample

/-- The second validator finishes the first deposit alone, and the others together; the third one
comes too late each time. -/
def oneByOne : Schedule raceSetting where
  batches :=
    let first := etherDeposit 7 seven_counted
    let middle := etherDeposit 8 eight_counted
    let last := etherDeposit 9 nine_counted
    [send 1 [first, middle, last], send 2 [first], send 3 [first], send 2 [middle, last],
      send 3 [middle, last]]
  senders := by decide +kernel
  batched := by
    simp only [raceSetting, List.forall_mem_cons, List.not_mem_nil]
    exact ⟨.of_eq rfl, .of_eq rfl, .of_eq rfl, nofun⟩
  fixed := by simp [send, bridgeContext, raceSetting]
  free := by simp [send, bridgeContext]

/-- The second validator and the third one each mix a deposit that the other has finished with the
one in the middle. -/
def race : Schedule raceSetting where
  batches := raceBatches
  senders := by decide +kernel
  batched := by
    simp only [raceSetting, List.forall_mem_cons, List.not_mem_nil]
    exact ⟨.of_eq rfl, .of_eq rfl, .of_eq rfl, nofun⟩
  fixed := by simp [raceBatches, send, bridgeContext, raceSetting]
  free := by simp [raceBatches, send, bridgeContext]

end Sample

/-- Every deposit of three validators succeeds. -/
theorem one_by_one_succeeds :
    raceSetting.deposits.all (fun deposit => (prophecyOf bridgeEnvironment
      (run (sendBatch bridgeEnvironment) raceState oneByOne.batches) deposit.id).status.text =
        .success) = true := by
  rw [List.all_eq_true]
  intro deposit listed
  apply decide_eq_true
  exact every_deposit_succeeds bridgeEnvironment raceSetting oneByOne raceState
    (Oracle.Recorded.empty rfl) rfl (fun _ _ => rfl) (fun _ _ => rfl) (by decide +kernel)
    deposit listed

/-- The claims of the second and of the third validator for the deposit in the middle are dropped
with claims that come too late, and half of the power does not decide. -/
theorem middle_deposit_lost :
    raceState.oracle.whiteList = raceSetting.whiteList ∧
      raceState.oracle.prophecies = Store.empty ∧
      (raceSetting.deposits.map fun deposit => (prophecyOf bridgeEnvironment
        (run (sendBatch bridgeEnvironment) raceState race.batches) deposit.id).status.text) =
          [.success, .pending, .success] := by
  have begins := @Setting.stands_start _ raceSetting raceState (Oracle.Recorded.empty rfl) rfl
    (fun _ _ => rfl) fun _ _ => rfl
  have stands := Setting.run_stands begins (by decide +kernel) fun _ member => race.reports member
  have statuses : (raceSetting.deposits.map fun deposit => (prophecyOf bridgeEnvironment
      (run (sendBatch bridgeEnvironment) raceState race.batches) deposit.id).status.text) =
        raceSetting.deposits.map fun deposit =>
          if raceSetting.poll.Carries
            (race.batches.foldl raceSetting.count (fun _ => []) deposit.id) then .success
          else .pending := by
    apply List.map_congr_left
    intro deposit listed
    rw [(stands.holds deposit listed).status_eq]
    split <;> rfl
  rw [statuses]
  exact ⟨rfl, rfl, by decide +kernel⟩

end Akhira.Verif.EthBridge
