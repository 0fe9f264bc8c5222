import Akhira.Base.Weight
import Akhira.Verif.DepositClaims

/-!
# Deposits as votes

The reports of the validators, in batches that are transactions, are a vote on each deposit. A batch
is counted in full when each of its deposits still lacks the required share and has no vote of the
validator, and not at all otherwise. After every list of batches the prophecies are those of the
votes, and the supplies and balances have grown by the deposits that their votes carry, each of them
once.
-/
namespace Akhira.Verif.EthBridge

open Akhira.Base Akhira.Sdk Akhira.EthBridge Akhira.Relayer

variable {env : Environment} {context : Context} {state next : State}

/-- The validators that have been counted for each prophecy. -/
abbrev Votes := String → List Oracle.ValAddress

/-- The votes with those of one more validator for some prophecies. -/
def Votes.add (votes : Votes) (validator : Oracle.ValAddress) (ids : List String) : Votes :=
  fun id => if id ∈ ids then votes id ++ [validator] else votes id

/-- A batch of nothing adds no votes. -/
theorem Votes.add_nil (votes : Votes) (validator : Oracle.ValAddress) :
    votes.add validator [] = votes := funext fun _ => if_neg List.not_mem_nil

/-- A validator votes for the deposit it reports. -/
theorem Votes.add_same (votes : Votes) (validator : Oracle.ValAddress) (id : String) :
    votes.add validator [id] id = votes id ++ [validator] := if_pos (List.mem_singleton_self id)

/-- A vote for one deposit is none for another. -/
theorem Votes.add_other {votes : Votes} {validator : Oracle.ValAddress} {id other : String}
    (differs : other ≠ id) : votes.add validator [id] other = votes other :=
  if_neg fun listed => differs (List.mem_singleton.mp listed)

/-- The votes of a batch are added one deposit after the other. -/
theorem Votes.add_cons {votes : Votes} {validator : Oracle.ValAddress} {id : String}
    {ids : List String} (once : id ∉ ids) :
    (votes.add validator [id]).add validator ids = votes.add validator (id :: ids) := by
  funext other
  by_cases same : other = id
  · subst same
    simp [add, once]
  · simp [add, same]

namespace Setting

variable {setting : Setting env} {start : Bank} {votes : Votes} {deposit other : Deposit env}
  {validator : Oracle.ValAddress} {voters : List Oracle.ValAddress}

/-- A batch is counted when no deposit is in it twice, and each of them still needs votes and has
none of the validator. -/
def Counts (setting : Setting env) (votes : Votes) (batch : Batch env) : Prop :=
  (batch.deposits.map Deposit.id).Nodup ∧ ∀ deposit ∈ batch.deposits,
    ¬ setting.poll.Carries (votes deposit.id) ∧ batch.validator ∉ votes deposit.id

/-- Whether a batch is counted is decided by the votes before it. -/
instance (votes : Votes) (batch : Batch env) : Decidable (setting.Counts votes batch) :=
  inferInstanceAs (Decidable (_ ∧ _))

/-- Count a batch in full or not at all. -/
def count (setting : Setting env) (votes : Votes) (batch : Batch env) : Votes :=
  if setting.Counts votes batch then votes.add batch.validator (batch.deposits.map Deposit.id)
  else votes

/-- A value of the deposits that their votes carry. -/
def carried (setting : Setting env) (votes : Votes) (value : Deposit env → Nat) : Nat :=
  (setting.deposits.map fun deposit =>
    if setting.poll.Carries (votes deposit.id) then value deposit else 0).sum

/-- What a deposit adds to a supply. -/
def minted (denom : Denom) (deposit : Deposit env) : Nat := only deposit.denom deposit.amount denom

/-- What a deposit adds to a balance. -/
def received (address : AccAddress) (denom : Denom) (deposit : Deposit env) : Nat :=
  Ledger.share deposit.receiver address (minted denom deposit)

/-- No more is minted than the amount of the deposit. -/
theorem minted_le (denom : Denom) (deposit : Deposit env) : minted denom deposit ≤ deposit.amount :=
  only_le _ _ _

/-- No more is received than the amount of the deposit. -/
theorem received_le (address : AccAddress) (denom : Denom) (deposit : Deposit env) :
    received address denom deposit ≤ deposit.amount :=
  (share_le _ _ _).trans (minted_le _ _)

section Sums

variable {value : Deposit env → Nat}

/-- The deposits of a setting have different ids, so none is listed twice. -/
theorem deposits_nodup (setting : Setting env) : setting.deposits.Nodup :=
  List.Nodup.of_map _ setting.distinct

/-- One more vote adds the deposit when it makes the votes carry. -/
theorem carried_add (listed : deposit ∈ setting.deposits)
    (short : ¬ setting.poll.Carries (votes deposit.id)) :
    setting.carried (votes.add validator [deposit.id]) value = setting.carried votes value +
      if setting.poll.Carries (votes deposit.id ++ [validator]) then value deposit else 0 := by
  have moved := @sum_replace _ setting.deposits
    (fun item => if setting.poll.Carries (votes item.id) then value item else 0)
    (fun item => if setting.poll.Carries (votes.add validator [deposit.id] item.id) then value item
      else 0) deposit setting.deposits_nodup listed (by
        intro item member differs
        have apart : item.id ≠ deposit.id := fun same =>
          differs (deposit_unique member listed same)
        rw [Votes.add_other apart])
  rw [if_neg short, Votes.add_same, Nat.add_zero] at moved
  exact moved

/-- What is carried leaves room for a deposit that is not. -/
theorem carried_room (listed : deposit ∈ setting.deposits)
    (short : ¬ setting.poll.Carries (votes deposit.id))
    (bounded : ∀ item : Deposit env, value item ≤ item.amount) :
    setting.carried votes value + deposit.amount ≤ amountsOf setting.deposits := by
  classical
  have moved := @sum_replace _ setting.deposits
    (fun item => if setting.poll.Carries (votes item.id) then value item else 0)
    (fun item => if item = deposit then deposit.amount else
      if setting.poll.Carries (votes item.id) then value item else 0) deposit
    setting.deposits_nodup listed (fun item _ differs => if_neg differs)
  rw [if_neg short, if_pos rfl, Nat.add_zero] at moved
  calc
    setting.carried votes value + deposit.amount = _ := moved.symm
    _ ≤ amountsOf setting.deposits := by
      apply List.sum_le_sum
      intro item _
      by_cases same : item = deposit
      · rw [if_pos same, same]
      · rw [if_neg same]
        split
        · exact bounded item
        · exact Nat.zero_le _

end Sums

/-- The status of a prophecy that holds the claims of some validators. -/
theorem Holds.status_eq (holds : setting.Holds deposit state voters) :
    (prophecyOf env state deposit.id).status =
      if setting.poll.Carries voters then ⟨.success, deposit.text⟩ else ⟨.pending, ""⟩ := by
  have status : (prophecyOf env state deposit.id).status =
      Oracle.statusOf (setting.poll.verdict (Poll.unanimous voters deposit.text)) :=
    holds.collected.status
  rw [status, Poll.verdict_unanimous_eq env.oracle.consensusNeeded.atMostOne
    (fits_of_reporting holds.distinct holds.reporting)]
  split <;> rfl

/-- The chain is where the votes are: the prophecies hold the claims that were counted, and the
deposits that are carried have been paid. -/
structure Stands (setting : Setting env) (start : Bank) (votes : Votes) (state : State) :
    Prop where
  sound : Sound env state
  accounts : ∀ validator ∈ setting.validators, (state.accounts validator.bytes).isSome = true
  holds : ∀ deposit ∈ setting.deposits, setting.Holds deposit state (votes deposit.id)
  supply : ∀ denom, state.bank.supply denom =
    start.supply denom + setting.carried votes (minted denom)
  balance : ∀ address denom, state.bank.ledger.balance address denom =
    start.ledger.balance address denom + setting.carried votes (received address denom)

/-- New sequences change nothing. -/
theorem Stands.accounts_congr {accounts : AccAddress → Option Nat}
    (stands : setting.Stands start votes state)
    (kept : ∀ address, (accounts address).isSome = (state.accounts address).isSome) :
    setting.Stands start votes { state with accounts } where
  sound := stands.sound
  accounts validator reporting := by
    rw [kept]
    exact stands.accounts validator reporting
  holds deposit listed := ⟨(stands.holds deposit listed).1, (stands.holds deposit listed).2⟩
  supply := stands.supply
  balance := stands.balance

/-- There is room for every deposit. -/
def Roomy (setting : Setting env) (start : Bank) : Prop :=
  ∀ deposit ∈ setting.deposits, Room env start (amountsOf setting.deposits) deposit

/-- Whether there is room is decided for each deposit. -/
instance (start : Bank) : Decidable (setting.Roomy start) := inferInstanceAs (Decidable (∀ _ ∈ _, _))

/-- There is still room for a deposit whose votes do not carry. -/
theorem Stands.room (stands : setting.Stands start votes state) (roomy : setting.Roomy start)
    (listed : deposit ∈ setting.deposits) (short : ¬ setting.poll.Carries (votes deposit.id)) :
    Room env state.bank deposit.amount deposit := by
  obtain ⟨supply, module, receiver⟩ := roomy deposit listed
  have mintedRoom := carried_room listed short (minted_le deposit.denom)
  have moduleRoom := carried_room listed short
    (received_le (env.chain.moduleAddress moduleName) deposit.denom)
  have receiverRoom := carried_room listed short (received_le deposit.receiver deposit.denom)
  refine ⟨?_, ?_, ?_⟩
  · rw [stands.supply]
    omega
  · rw [stands.balance]
    omega
  · rw [stands.balance]
    omega

section Reports

variable {events : List Event} {pays : Prop} [Decidable pays]

/-- A report pays its deposit when it makes the prophecy succeed. -/
theorem report_paid (sound : Sound env state)
    (handled : handle env context state
      (.createEthBridgeClaim (reportedBy env validator deposit.claim)) = .ok (next, events))
    (status : (prophecyOf env next deposit.id).status =
      if pays then ⟨.success, deposit.text⟩ else ⟨.pending, ""⟩) :
    (∀ denom, next.bank.supply denom =
        state.bank.supply denom + if pays then minted denom deposit else 0) ∧
      ∀ address denom, next.bank.ledger.balance address denom =
        state.bank.ledger.balance address denom +
          if pays then received address denom deposit else 0 := by
  obtain ⟨oracleClaim, result, claimed⟩ := createEthBridgeClaim_ok handled
  have reached : result = if pays then ⟨.success, deposit.text⟩ else ⟨.pending, ""⟩ :=
    (claimed.advanced sound).status_eq.symm.trans status
  by_cases paid : pays
  · rw [if_pos paid] at reached
    obtain ⟨content, denom, mint⟩ := claimed.paid (by rw [reached])
    have decoded := mint.decoded
    rw [reached, Deposit.text, deposit.reads, Option.some.injEq] at decoded
    subst decoded
    have named := mint.named
    rw [deposit.named, Option.some.injEq] at named
    subst named
    simp only [if_pos paid]
    exact ⟨mint.paid.supply, mint.paid.balance⟩
  · rw [if_neg paid] at reached
    have rest := claimed.unpaid (by rw [reached]; decide)
    simp only [if_neg paid, Nat.add_zero]
    rw [rest]
    exact ⟨fun _ => rfl, fun _ _ => rfl⟩

/-- The report of a deposit that needs votes is executed and counted. -/
theorem report_stands (stands : setting.Stands start votes state) (roomy : setting.Roomy start)
    (reporting : validator ∈ setting.validators) (listed : deposit ∈ setting.deposits)
    (short : ¬ setting.poll.Carries (votes deposit.id)) (unvoted : validator ∉ votes deposit.id)
    (fixed : context.oracle.staking = setting.staking)
    (free : ∀ denom, context.locked (env.chain.moduleAddress moduleName) denom = 0) :
    ∃ next events, handle env context state
        (.createEthBridgeClaim (reportedBy env validator deposit.claim)) = .ok (next, events) ∧
      setting.Stands start (votes.add validator [deposit.id]) next := by
  have holds := stands.holds deposit listed
  have once : (votes deposit.id ++ [validator]).Nodup := by
    rw [← List.concat_eq_append]
    exact holds.distinct.concat unvoted
  have allReporting : ∀ voter ∈ votes deposit.id ++ [validator], voter ∈ setting.validators := by
    intro voter claimed
    rcases List.mem_append.mp claimed with earlier | added
    · exact holds.reporting voter earlier
    · rw [List.mem_singleton.mp added]
      exact reporting
  have undecided : setting.poll.verdict (Poll.unanimous (votes deposit.id) deposit.text) =
      .undecided := by
    rw [Poll.verdict_unanimous_eq env.oracle.consensusNeeded.atMostOne
      (fits_of_reporting holds.distinct holds.reporting), if_neg short]
  obtain ⟨next, events, handled, sound, beside, collected⟩ := report_counted stands.sound
    holds.collected undecided (fits_of_reporting once allReporting) unvoted
    ⟨setting.whiteListed validator reporting, setting.active validator reporting⟩ fixed free
    (stands.room roomy listed short)
  have counted : setting.Holds deposit next (votes deposit.id ++ [validator]) :=
    ⟨collected, allReporting⟩
  obtain ⟨supply, balance⟩ := report_paid stands.sound handled counted.status_eq
  refine ⟨next, events, handled, sound, ?_, fun other otherListed => ?_, fun denom => ?_,
    fun address denom => ?_⟩
  · rw [beside.accounts]
    exact stands.accounts
  · by_cases same : other.id = deposit.id
    · rw [deposit_unique otherListed listed same, Votes.add_same]
      exact counted
    · have otherHolds := stands.holds other otherListed
      have kept : prophecyOf env next other.id = prophecyOf env state other.id :=
        beside.others other.id same
      have before := otherHolds.collected
      rw [Votes.add_other same]
      refine ⟨⟨beside.whiteList.trans before.whiteList_eq, ?_, ?_, ?_⟩, otherHolds.reporting⟩
      · exact (congrArg Oracle.Prophecy.id kept).trans before.id_eq
      · exact (show next.oracle.prophecyOrNew _ _ = _ from kept) ▸ before.recorded
      · exact (congrArg Oracle.Prophecy.status kept).trans before.status
  · rw [supply, stands.supply, carried_add listed short, Nat.add_assoc]
  · rw [balance, stands.balance, carried_add listed short, Nat.add_assoc]

/-- A report that is executed is for a deposit that needs votes, by a validator that has none. -/
theorem report_needed (stands : setting.Stands start votes state)
    (listed : deposit ∈ setting.deposits)
    (handled : handle env context state
      (.createEthBridgeClaim (reportedBy env validator deposit.claim)) = .ok (next, events)) :
    ¬ setting.poll.Carries (votes deposit.id) ∧ validator ∉ votes deposit.id := by
  have holds := stands.holds deposit listed
  simp only [handle, createEthBridgeClaim, processClaim, createOracleClaimFromEthClaim,
    Result.bind_ok, Result.pure_ok] at handled
  obtain ⟨-, ⟨oracleClaim, ⟨receiver, -, rfl⟩, result, accepted, -⟩, -⟩ := handled
  obtain ⟨address, before, processed⟩ := Oracle.processClaim_ok.mp accepted
  have signer : address = validator := env.oracle.codec.text_injective processed.signer.symm
  have found : before = prophecyOf env state deposit.id := processed.found
  constructor
  · intro carries
    have pending := processed.pending
    rw [found, holds.status_eq, if_pos carries] at pending
    cases pending
  · have fresh := processed.fresh
    rw [found, signer] at fresh
    have unvoted := holds.collected.recorded.not_voted fresh
    rw [Poll.voters_unanimous] at unvoted
    exact unvoted

/-- The reports of one validator are all executed when each deposit needs its vote. -/
theorem runMsgs_stands {deposits : List (Deposit env)} (stands : setting.Stands start votes state)
    (roomy : setting.Roomy start) (reporting : validator ∈ setting.validators)
    (listed : ∀ deposit ∈ deposits, deposit ∈ setting.deposits)
    (fixed : context.oracle.staking = setting.staking)
    (free : ∀ denom, context.locked (env.chain.moduleAddress moduleName) denom = 0)
    (counts : setting.Counts votes ⟨context, validator, deposits⟩) :
    ∃ result, runMsgs env context state (deposits.map fun deposit => deposit.msg validator) =
        .ok result ∧
      setting.Stands start (votes.add validator (deposits.map Deposit.id)) result.1 := by
  obtain ⟨once, needed⟩ := counts
  induction deposits generalizing state votes with
  | nil =>
    refine ⟨(state, []), rfl, ?_⟩
    rw [List.map_nil, Votes.add_nil]
    exact stands
  | cons deposit rest ih =>
    obtain ⟨short, unvoted⟩ := needed deposit List.mem_cons_self
    obtain ⟨next, events, handled, counted⟩ := report_stands stands roomy reporting
      (listed deposit List.mem_cons_self) short unvoted fixed free
    rw [List.map_cons, List.nodup_cons] at once
    have different : ∀ later ∈ rest, later.id ≠ deposit.id :=
      fun later member same => once.1 (same ▸ List.mem_map_of_mem member)
    obtain ⟨result, ran, stood⟩ := ih counted
      (fun later member => listed later (List.mem_cons_of_mem _ member)) once.2
      (fun later member => by
        rw [Votes.add_other (different later member)]
        exact needed later (List.mem_cons_of_mem _ member))
    rw [Votes.add_cons once.1] at stood
    let receipt : Receipt :=
      ⟨.createEthBridgeClaim (reportedBy env validator deposit.claim), events⟩
    refine ⟨(result.1, receipt :: result.2), ?_, stood⟩
    simp only [List.map_cons, Deposit.msg, runMsgs, Result.bind_ok, Result.pure_ok]
    exact ⟨(next, events), handled, result, ran, rfl⟩

/-- Reports of one validator that are all executed are for deposits that need its vote. -/
theorem runMsgs_needed {deposits : List (Deposit env)} {result : State × List Receipt}
    (stands : setting.Stands start votes state) (roomy : setting.Roomy start)
    (reporting : validator ∈ setting.validators)
    (listed : ∀ deposit ∈ deposits, deposit ∈ setting.deposits)
    (fixed : context.oracle.staking = setting.staking)
    (free : ∀ denom, context.locked (env.chain.moduleAddress moduleName) denom = 0)
    (ran : runMsgs env context state (deposits.map fun deposit => deposit.msg validator) =
      .ok result) :
    setting.Counts votes ⟨context, validator, deposits⟩ := by
  induction deposits generalizing state votes result with
  | nil => exact ⟨List.nodup_nil, nofun⟩
  | cons deposit rest ih =>
    simp only [List.map_cons, Deposit.msg, runMsgs, Result.bind_ok] at ran
    obtain ⟨⟨next, events⟩, handled, final, later, -⟩ := ran
    have own := listed deposit List.mem_cons_self
    obtain ⟨short, unvoted⟩ := report_needed stands own handled
    obtain ⟨counted, _, executed, stood⟩ := report_stands stands roomy reporting own short unvoted
      fixed free
    rw [handled, Except.ok.injEq, Prod.mk.injEq] at executed
    rw [← executed.1] at stood
    obtain ⟨once, needed⟩ := ih stood
      (fun later member => listed later (List.mem_cons_of_mem _ member)) later
    -- the validator has just voted on the first deposit, so no later one is the same
    have different : ∀ later ∈ rest, later.id ≠ deposit.id := by
      intro later member same
      apply (needed later member).2
      rw [same, Votes.add_same]
      exact List.mem_append_right _ (List.mem_singleton_self _)
    refine ⟨List.nodup_cons.mpr ⟨?_, once⟩, ?_⟩
    · intro repeated
      obtain ⟨later, member, same⟩ := List.mem_map.mp repeated
      exact different later member same
    · intro item member
      rcases List.mem_cons.mp member with rfl | later
      · exact ⟨short, unvoted⟩
      · have still := needed item later
        rw [Votes.add_other (different item later)] at still
        exact still

end Reports

/-- A batch of reports by a validator of the setting, for deposits of it. -/
structure Reports (setting : Setting env) (batch : Batch env) : Prop where
  reporting : batch.validator ∈ setting.validators
  listed : ∀ deposit ∈ batch.deposits, deposit ∈ setting.deposits
  fixed : batch.context.oracle.staking = setting.staking
  free : ∀ denom, batch.context.locked (env.chain.moduleAddress moduleName) denom = 0

/-- A batch moves the chain as it moves the votes. -/
theorem batch_stands {batch : Batch env} (stands : setting.Stands start votes state)
    (roomy : setting.Roomy start) (reports : setting.Reports batch) :
    setting.Stands start (setting.count votes batch) (attempt (sendBatch env) state batch) := by
  by_cases some_ : batch.deposits = []
  · have same : setting.count votes batch = votes := by
      unfold count
      split
      · rw [some_, List.map_nil, Votes.add_nil]
      · rfl
    rw [same, attempt_empty some_]
    exact stands
  · obtain ⟨accounts, passed, kept⟩ := ante_reports some_
      (stands.accounts batch.validator reports.reporting)
    have checked := stands.accounts_congr kept
    unfold count
    by_cases counts : setting.Counts votes batch
    · obtain ⟨result, ran, stood⟩ := runMsgs_stands checked roomy reports.reporting reports.listed
        reports.fixed reports.free counts
      rw [if_pos counts, attempt_ran passed ran]
      exact stood
    · rw [if_neg counts]
      cases ran : runMsgs env batch.context { state with accounts }
          (batch.deposits.map fun deposit => deposit.msg batch.validator) with
      | error fault =>
        rw [attempt_stopped passed ran]
        exact checked
      | ok result =>
        exact absurd (runMsgs_needed checked roomy reports.reporting reports.listed reports.fixed
          reports.free ran) counts

/-- Batches move the chain as they move the votes. -/
theorem run_stands {batches : List (Batch env)} (stands : setting.Stands start votes state)
    (roomy : setting.Roomy start) (reports : ∀ batch ∈ batches, setting.Reports batch) :
    setting.Stands start (batches.foldl setting.count votes)
      (run (sendBatch env) state batches) := by
  induction batches generalizing state votes with
  | nil => exact stands
  | cons batch rest ih =>
    exact ih (batch_stands stands roomy (reports batch List.mem_cons_self))
      fun later member => reports later (List.mem_cons_of_mem _ member)

/-- A chain without prophecies of the deposits stands where no votes are. -/
theorem stands_start {state : State} (sound : Sound env state)
    (whiteList : state.oracle.whiteList = setting.whiteList)
    (unclaimed : ∀ deposit ∈ setting.deposits,
      state.oracle.getProphecy env.oracle.codec deposit.id = none)
    (accounts : ∀ validator ∈ setting.validators,
      (state.accounts validator.bytes).isSome = true) :
    setting.Stands state.bank (fun _ => []) state := by
  have nothing : ∀ value, setting.carried (fun _ => []) value = 0 := by
    intro value
    apply List.sum_eq_zero
    intro term member
    obtain ⟨deposit, -, rfl⟩ := List.mem_map.mp member
    apply if_neg
    have positive := Nat.mul_pos env.oracle.consensusNeeded.positive setting.powered
    exact fun carries => Nat.lt_irrefl 0 (positive.trans_le (carries.trans (by simp)))
  refine ⟨sound, accounts, fun deposit listed => ⟨?_, nofun⟩, fun denom => ?_,
    fun address denom => ?_⟩
  · have started : Oracle.Counting env.oracle setting.poll state.oracle.whiteList deposit.id
        state.oracle [] := Oracle.Counting.start (unclaimed deposit listed)
    rw [whiteList] at started
    exact started
  · rw [nothing, Nat.add_zero]
  · rw [nothing, Nat.add_zero]

end Setting

section Sample

/-- No validator's text is empty. -/
theorem operatorText_ne (validator : Oracle.ValAddress) : Oracle.operatorText validator ≠ "" := by
  intro empty
  have read := Oracle.readOperator_operatorText validator
  have unread : Oracle.readOperator "" = none := by decide +kernel
  rw [empty, unread] at read
  cases read

/-- The content of the report does not depend on the nonce. -/
theorem contentOf_ether (nonce : Int64) :
    contentOf { etherClaimBy 1 with nonce := nonce } aliceAddress = etherContent := by
  have zero : hexToAddress zeroAddressText = 0 := by decide +kernel
  simp only [contentOf, etherClaimBy, zero, etherContent]

/-- Pegged ether is a valid denomination. -/
theorem etherDenom_valid : validDenom "ceth" = true := by decide +kernel

/-- A deposit of one ether. -/
def etherDeposit (nonce : Int64) (nonnegative : 0 ≤ nonce.toInt) : Deposit bridgeEnvironment where
  claim := { etherClaimBy 1 with nonce := nonce }
  receiver := aliceAddress
  denom := "ceth"
  identified empty := by
    have length := congrArg String.length empty
    simp [EthBridgeClaim.oracleID, etherClaimBy, String.length_append] at length
  valid validator := by
    have receiver : requireAddress aliceText = .ok () := by decide +kernel
    have sender : requireAddress (Oracle.operatorText validator) = .ok () :=
      Outcome.require_ok.mpr (operatorText_ne validator)
    have counted : Outcome.require (0 ≤ nonce.toInt) errInvalidEthNonce = .ok () :=
      Outcome.require_ok.mpr nonnegative
    have addresses : isHexAddress "0x52908400098527886E0F7030069857D2E4169EE7" = true ∧
        isHexAddress zeroAddressText = true := by
      decide +kernel
    simp only [EthBridgeClaim.validateBasic, Result.bind_ok]
    exact ⟨(), receiver, (), sender, (), counted, (), Outcome.require_ok.mpr addresses.1, (),
      Outcome.require_ok.mpr addresses.2, (), Outcome.require_ok.mpr addresses.2,
      Outcome.require_ok.mpr fun _ => rfl⟩
  decodes := by
    change bridgeChain.accAddressFromBech32 aliceText = some aliceAddress
    decide +kernel
  written := by
    rw [contentOf_ether]
    decide +kernel
  reads := by
    rw [contentOf_ether]
    decide +kernel
  named := by
    rw [contentOf_ether]
    decide +kernel
  denomValid := etherDenom_valid
  nonnegative := by
    change 0 ≤ weiAmount.val
    decide
  unblocked := by decide +kernel

/-- Seven is a nonce. -/
theorem seven_counted : 0 ≤ (7 : Int64).toInt := by decide

/-- Eight is a nonce. -/
theorem eight_counted : 0 ≤ (8 : Int64).toInt := by decide

/-- Nine is a nonce. -/
theorem nine_counted : 0 ≤ (9 : Int64).toInt := by decide

/-- A validator sends a batch. -/
def send (byte : UInt8) (deposits : List (Deposit bridgeEnvironment)) : Batch bridgeEnvironment :=
  ⟨bridgeContext, Oracle.operator byte, deposits⟩

/-- Three validators report three deposits. -/
def raceSetting : Setting bridgeEnvironment where
  staking := Oracle.unevenStaking
  whiteList := [Oracle.operator 1, Oracle.operator 2, Oracle.operator 3]
  majority := by decide
  powered := by decide +kernel
  validators := [Oracle.operator 1, Oracle.operator 2, Oracle.operator 3]
  deposits := [etherDeposit 7 seven_counted, etherDeposit 8 eight_counted, etherDeposit 9 nine_counted]
  whiteListed _ := id
  active := by decide +kernel
  everybody := by decide +kernel
  distinct := by decide +kernel

/-- Every account exists. -/
def raceState : State := { bridgeState with accounts := fun _ => some 0 }

/-- The second validator finishes the first deposit and the third one the last; the batch of each
with the deposit between them comes after the other's. -/
def raceBatches : List (Batch bridgeEnvironment) :=
  let first := etherDeposit 7 seven_counted
  let middle := etherDeposit 8 eight_counted
  let last := etherDeposit 9 nine_counted
  [send 1 [first, middle, last], send 2 [first], send 3 [first, middle], send 3 [last],
    send 2 [middle, last]]

end Sample

end Akhira.Verif.EthBridge
