import Akhira.Verif.DispensationRecords

/-!
# Runners keep apart

A message overwrites the runner of the pending record an output meets. As long as every output
meets only records of the message's own runner, the records of the other runners stay as they
are, and what a runner's messages pay to an account was assigned to that account by distributions
that named the runner.
-/
namespace Akhira.Verif.Dispensation

open Akhira.Base Akhira.Sdk Akhira.Dispensation

variable {env : Environment} {context : Context env} {state next : State}
  {record : DistributionRecord} {records : List DistributionRecord}

/-- Every output of a new distribution meets no pending record, or one of the same runner. -/
def ownMerges (env : Environment) (state : State) (delivery : Delivery env) : Bool :=
  match delivery.msg with
  | .createDistribution msg =>
    let name := distributionNameOf delivery.context.blockHeight msg.distributor
    msg.output.all fun out =>
      match state.pending.get (getDistributionRecordKey name out.address msg.distributionType) with
      | none => true
      | some old => old.authorizedRunner = msg.authorizedRunner
  | _ => true

section Creating

variable {msg : MsgCreateDistribution} {output : List (Output Coins)}

/-- The records of one runner. -/
def ofRunner (runner : String) : Selector := fun _ _ _ recordRunner => recordRunner = runner

/-- Where merges are of one runner, outputs meet only records of their runner. -/
theorem ownMerges_agrees {delivery : Delivery env} (is : delivery.msg = .createDistribution msg)
    (checked : msg.validateBasic env.toChain = .ok output)
    (own : ownMerges env state delivery = true) (runner : String) :
    Agrees (ofRunner runner) (distributionNameOf delivery.context.blockHeight msg.distributor)
      msg.distributionType msg.authorizedRunner output state.pending := by
  simp only [MsgCreateDistribution.validateBasic, Result.bind_ok, Outcome.require_ok] at checked
  obtain ⟨-, -, -, -, -, -, -, -, outputs⟩ := checked
  unfold ownMerges at own
  rw [is] at own
  intro out listed old met
  obtain ⟨⟨given, member, same⟩, -⟩ := checkOutputs_ok outputs out listed
  have agrees := List.all_eq_true.mp own given member
  rw [← same, met] at agrees
  dsimp only at agrees
  unfold Selector.takes ofRunner
  rw [decide_eq_true_eq.mp agrees]

/-- A drop that meets only records of its own runner leaves the records of the others. -/
theorem created_others (created : Created env context state next msg output)
    (agrees : Agrees (ofRunner msg.authorizedRunner)
      (distributionNameOf context.blockHeight msg.distributor) msg.distributionType
        msg.authorizedRunner output state.pending)
    {key : String} (other : record.authorizedRunner ≠ msg.authorizedRunner) :
    next.pending.get key = some record ↔ state.pending.get key = some record := by
  let fit := fun pending => Agrees (ofRunner msg.authorizedRunner)
    (distributionNameOf context.blockHeight msg.distributor) msg.distributionType
      msg.authorizedRunner output pending ∧
    (pending.get key = some record ↔ state.pending.get key = some record)
  refine (@Drops.keeps _ _ _ _ fit _ _ created.drops ?_ ⟨agrees, Iff.rfl⟩).2
  rintro pending out written listed ⟨fits, same⟩ dropped
  refine ⟨dropped.agrees fits, ?_⟩
  rw [← same]
  by_cases own : key = written.key
  · -- Neither the new record nor the one it replaces is of another runner.
    subst own
    rw [Store.get_set_same]
    constructor
    · intro new
      rw [← Option.some.inj new] at other
      exact absurd dropped.runs other
    · intro old
      have taken := fits out listed record (dropped.key_eq ▸ old)
      unfold Selector.takes ofRunner at taken
      simp only [decide_true, decide_eq_true_eq] at taken
      exact absurd taken other
  · rw [Store.get_set_other _ _ own]

end Creating

/-- The records of a runner for an account. -/
def ofRunnerFor (env : Environment) (runner : String) (account : AccAddress) : Selector :=
  fun _ _ address recordRunner =>
    recordRunner = runner && env.accAddressFromBech32 address = some account

/-- Where merges are of one runner, outputs for an account meet only records for it. -/
theorem ofRunnerFor_agrees {msg : MsgCreateDistribution} {output : List (Output Coins)}
    {runner : String} {account : AccAddress} (plain : PlainAddresses env)
    (orderly : Orderly env state) (created : Created env context state next msg output)
    (agrees : Agrees (ofRunner runner) (distributionNameOf context.blockHeight msg.distributor)
      msg.distributionType msg.authorizedRunner output state.pending) :
    Agrees (ofRunnerFor env runner account)
      (distributionNameOf context.blockHeight msg.distributor) msg.distributionType
        msg.authorizedRunner output state.pending := by
  intro out listed old met
  have runners := agrees out listed old met
  have recipients := (met_same plain orderly.sound orderly.issued created listed met).2.2
  unfold Selector.takes ofRunner at runners
  unfold Selector.takes ofRunnerFor
  rw [runners, recipients]

section Running

variable {runner : String} {account : AccAddress}

/-- A round does not raise what is pending. -/
theorem handled_pending_le (chosen : Selector) (denom : Denom)
    (found : state.pending.get record.key = some record)
    (handled : Handled env context state record next) :
    chosenTotal chosen denom next.pending ≤ chosenTotal chosen denom state.pending := by
  have released := state.pending.total_of_get (fun _ => chosenAmount chosen denom) found
  unfold chosenTotal
  cases handled with
  | skipped => exact Nat.le_refl _
  | paid _ _ pending =>
    rw [pending]
    omega
  | refused _ _ pending =>
    rw [pending]
    omega

/-- A run adds nothing to what is pending. -/
theorem rounds_pending_le (chosen : Selector) (denom : Denom)
    (rounds : Rounds env context state records next) :
    chosenTotal chosen denom next.pending ≤ chosenTotal chosen denom state.pending := by
  induction rounds with
  | done => exact Nat.le_refl _
  | round found handled _ ih => exact ih.trans (handled_pending_le chosen denom found handled)

/-- What a round on a record of a runner pays to an account leaves the runner's pending records
for the account. -/
theorem handled_pays (outside : account ≠ env.moduleAccount)
    (runs : record.authorizedRunner = runner)
    (found : state.pending.get record.key = some record)
    (handled : Handled env context state record next) (denom : Denom) :
    chosenTotal (ofRunnerFor env runner account) denom next.pending +
        next.bank.balance account denom ≤
      chosenTotal (ofRunnerFor env runner account) denom state.pending +
        state.bank.balance account denom := by
  cases handled with
  | skipped => exact Nat.le_refl _
  | @paid _ recipient decoded _ pending _ _ sent =>
    have released := state.pending.total_of_get
      (fun _ => chosenAmount (ofRunnerFor env runner account) denom) found
    have exchanged := sent account denom
    rw [Ledger.share_other outside] at exchanged
    have credited : Ledger.share recipient account (recordAmount denom record) ≤
        chosenAmount (ofRunnerFor env runner account) denom record := by
      by_cases same : account = recipient
      · subst same
        unfold chosenAmount Selector.takes ofRunnerFor
        rw [runs, decoded, Ledger.share_self]
        simp
      · rw [Ledger.share_other same]
        exact Nat.zero_le _
    unfold chosenTotal
    rw [pending]
    omega
  | refused decoded blocked pending completed failed kept =>
    have lowered := handled_pending_le (ofRunnerFor env runner account) denom found
      (Handled.refused decoded blocked pending completed failed kept)
    rw [kept]
    omega

/-- What a run takes from the pending records of an account, at most that is paid to it. -/
theorem rounds_pay (outside : account ≠ env.moduleAccount)
    (runs : ∀ record ∈ records, record.authorizedRunner = runner)
    (rounds : Rounds env context state records next) (denom : Denom) :
    chosenTotal (ofRunnerFor env runner account) denom next.pending +
        next.bank.balance account denom ≤
      chosenTotal (ofRunnerFor env runner account) denom state.pending +
        state.bank.balance account denom := by
  induction rounds with
  | done => exact Nat.le_refl _
  | round found handled _ ih =>
    have first := handled_pays outside (runs _ List.mem_cons_self) found handled denom
    exact (ih fun record listed => runs record (List.mem_cons_of_mem _ listed)).trans first

end Running

/-- What a delivered message of a runner pays to an account. -/
def paidBy (env : Environment) (runner : String) (account : AccAddress) (denom : Denom)
    (transition : Transition State (Delivery env)) : Int :=
  match transition.message.msg with
  | .runDistribution msg =>
    if msg.authorizedRunner = runner then
      transition.after.bank.balance account denom - transition.before.bank.balance account denom
    else 0
  | _ => 0

/-- One delivery pays out of what is pending for the account or was assigned to it just now. -/
theorem paid_attempt {delivery : Delivery env} {account : AccAddress} (plain : PlainAddresses env)
    (orderly : Orderly env state) (own : ownMerges env state delivery = true)
    (outside : account ≠ env.moduleAccount) (runner : String) (denom : Denom) :
    (chosenTotal (ofRunnerFor env runner account) denom
        (attempt (deliver env) state delivery).pending : Int) +
        paidBy env runner account denom ⟨state, delivery, attempt (deliver env) state delivery⟩ ≤
      chosenTotal (ofRunnerFor env runner account) denom state.pending +
        assigned env (ofRunnerFor env runner account) denom
          ⟨state, delivery, attempt (deliver env) state delivery⟩ := by
  cases delivered : deliver env state delivery with
  | error fault =>
    rw [attempt_error delivered]
    have nothing : assigned env (ofRunnerFor env runner account) denom
        ⟨state, delivery, state⟩ = 0 := assigned_error delivered
    have unpaid : paidBy env runner account denom ⟨state, delivery, state⟩ = 0 := by
      unfold paidBy
      dsimp only
      split
      · split
        · exact sub_self _
        · rfl
      · rfl
    omega
  | ok next =>
    rw [attempt_ok delivered]
    cases deliver_effect orderly.sound delivered with
    | created msg output is checked created =>
      have raised := @created_chosen _ _ _ _ _ _ (ofRunnerFor env runner account) created
        (ofRunnerFor_agrees plain orderly created (ownMerges_agrees is checked own runner)) denom
      have unpaid : paidBy env runner account denom ⟨state, delivery, next⟩ = 0 := by
        unfold paidBy
        rw [is]
      rw [created_assigned is delivered checked, unpaid]
      omega
    | claimed msg claims is written =>
      have nothing : assigned env (ofRunnerFor env runner account) denom
          ⟨state, delivery, next⟩ = 0 := assigned_other fun msg => by rw [is]; nofun
      have unpaid : paidBy env runner account denom ⟨state, delivery, next⟩ = 0 := by
        unfold paidBy
        rw [is]
      rw [nothing, unpaid, written]
    | ran msg is rounds =>
      have nothing : assigned env (ofRunnerFor env runner account) denom
          ⟨state, delivery, next⟩ = 0 := assigned_other fun msg => by rw [is]; nofun
      rw [nothing]
      unfold paidBy
      rw [is]
      dsimp only
      split
      · rename_i same
        have runs := fun record selected => (@selected_pending state record msg.distributionName
          msg.authorizedRunner msg.distributionType orderly.sound.filed selected).2.trans same
        have paid := rounds_pay outside runs rounds denom
        omega
      · have lowered := rounds_pending_le (ofRunnerFor env runner account) denom rounds
        omega

/-- As long as every new distribution meets only pending records of its own runner, it leaves the
pending records of all other runners as they are, and the messages of a runner together pay to an
account no more than distributions naming that runner assigned to it. -/
theorem runners_keep_apart (env : Environment) (plain : PlainAddresses env) (bank : Ledger)
    (deliveries : List (Delivery env))
    (own : Meets (deliver env) (fun state delivery => ownMerges env state delivery = true)
      (initial bank) deliveries) :
    (∀ transition ∈ transitions (deliver env) (initial bank) deliveries,
      ∀ msg, transition.message.msg = .createDistribution msg →
        ∀ key record, record.authorizedRunner ≠ msg.authorizedRunner →
          (transition.after.pending.get key = some record ↔
            transition.before.pending.get key = some record)) ∧
      ∀ runner account denom, account ≠ env.moduleAccount →
        ((transitions (deliver env) (initial bank) deliveries).map
          (paidBy env runner account denom)).sum ≤
        ((transitions (deliver env) (initial bank) deliveries).map
          (assigned env (ofRunnerFor env runner account) denom)).sum := by
  constructor
  · intro transition member msg is key record other
    obtain ⟨orderly, admitted, stepped⟩ := transitions_meets
      (fun _ _ orderly _ => orderly_attempt orderly) (initial_orderly env bank) own transition member
    rw [stepped]
    rcases @attempt_cases _ _ _ (deliver env) transition.before transition.message with
      same | ⟨next, delivered, same⟩
    · rw [same]
    · rw [same]
      cases deliver_effect orderly.sound delivered with
      | created created output isCreated checked effect =>
        cases is.symm.trans isCreated
        exact created_others effect (ownMerges_agrees is checked admitted _) other
      | claimed _ _ isClaim => cases is.symm.trans isClaim
      | ran _ isRun => cases is.symm.trans isRun
  · intro runner account denom outside
    have bounded := @run_le _ _ _ (deliver env) _ (Orderly env)
      (fun state => (chosenTotal (ofRunnerFor env runner account) denom state.pending : Int))
      (assigned env (ofRunnerFor env runner account) denom) (paidBy env runner account denom)
      (fun _ _ orderly _ => orderly_attempt orderly)
      (fun _ _ orderly admitted => paid_attempt plain orderly admitted outside runner denom)
      _ (initial_orderly env bank) _ own
    have empty : chosenTotal (ofRunnerFor env runner account) denom (initial bank).pending = 0 := rfl
    omega

/-- Two airdrops with different runners for different accounts. -/
def apartDeliveries : List (Delivery dropEnvironment) :=
  [createDrop aliceText five,
    ⟨dropContext, .createDistribution ⟨aliceText, bobText, .airdrop,
      [⟨bobText, [⟨"aku", seven⟩]⟩]⟩⟩,
    runDrop aliceText, runDrop bobText]

/-- The second runner's messages pay nothing to the account of the first airdrop, and the first
runner's pay what it names. -/
theorem runners_apart_sample :
    let steps := transitions (deliver dropEnvironment) (initial dropBank) apartDeliveries
    (steps.map (paidBy dropEnvironment bobText carolAddress "aku")).sum ≤
        (steps.map (assigned dropEnvironment
          (ofRunnerFor dropEnvironment bobText carolAddress) "aku")).sum ∧
      (steps.map (paidBy dropEnvironment aliceText carolAddress "aku")).sum = 5 :=
  ⟨(runners_keep_apart dropEnvironment dropEnvironment_plain dropBank apartDeliveries
      (by decide +kernel)).2 bobText carolAddress "aku" (by decide), by decide +kernel⟩

/-- A second airdrop of the same distributor, type and recipient in the same block takes over the
pending record of the first one's runner, and its own runner pays both. -/
theorem record_taken_over :
    let first := attempt (deliver dropEnvironment) (initial dropBank) (createDrop aliceText five)
    let second := attempt (deliver dropEnvironment) first (createDrop bobText seven)
    let steps := transitions (deliver dropEnvironment) (initial dropBank)
      [createDrop aliceText five, createDrop bobText seven, runDrop bobText]
    (first.pending.values.map fun record => (record.authorizedRunner, recordAmount "aku" record)) =
        [(aliceText, 5)] ∧
      (second.pending.values.map fun record =>
        (record.authorizedRunner, recordAmount "aku" record)) = [(bobText, 12)] ∧
      (steps.map (assigned dropEnvironment
        (ofRunnerFor dropEnvironment bobText carolAddress) "aku")).sum = 7 ∧
      (steps.map (paidBy dropEnvironment bobText carolAddress "aku")).sum = 12 := by
  decide +kernel

end Akhira.Verif.Dispensation
