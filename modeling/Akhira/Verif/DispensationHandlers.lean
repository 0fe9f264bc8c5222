import Akhira.Dispensation.MsgServer

/-!
# What the dispensation handlers do

Creating a distribution collects the sum of all outputs and writes one pending record after the
other. Running one goes through pending records that are all different, and as long as the module
account covers them each is either paid and completed, or refused because its recipient is
blocked and marked failed.
-/
namespace Akhira.Verif.Dispensation

open Akhira.Base Akhira.Sdk Akhira.Dispensation

variable {env : Environment} {context : Context env} {state next : State}

/-- The balance of the module account. -/
def held (env : Environment) (state : State) (denom : Denom) : Nat :=
  state.bank.balance env.moduleAccount denom

/-- The amount of a denomination in a record. -/
def recordAmount (denom : Denom) (record : DistributionRecord) : Nat := record.coins.amountOf denom

/-- The amount of a denomination in all outputs. -/
def outputAmount (denom : Denom) (output : List (Output Coins)) : Nat :=
  (output.map fun out => out.coins.amountOf denom).sum

section Creating

variable {output : List (Output Coins)} {name runner : String} {distributionType : DistributionType}
  {height : Int}

/-- The total of outputs is the sum of their amounts. -/
theorem totalOutput_ok {total : Coins} (summed : totalOutput output = .ok total) (denom : Denom) :
    total.amountOf denom = outputAmount denom output := by
  have fold : ∀ (rest : List (Output Coins)) (start result : Coins),
      rest.foldlM (fun total out => total.safeAdd out.coins) start = .ok result →
        result.amountOf denom = start.amountOf denom + outputAmount denom rest := by
    intro rest
    induction rest with
    | nil =>
      intro start result folded
      cases folded
      rfl
    | cons out rest ih =>
      intro start result folded
      rw [List.foldlM_cons, Result.bind_ok] at folded
      obtain ⟨middle, added, later⟩ := folded
      have first := Coins.safeAdd_ok added denom
      have second := ih middle result later
      rw [second, first, outputAmount, outputAmount, List.map_cons, List.sum_cons, Nat.add_assoc]
  cases output with
  | nil => cases summed
  | cons first rest =>
    have sum := fold rest first.coins total summed
    rw [sum, outputAmount, outputAmount, List.map_cons, List.sum_cons]

/-- The record an output is written as: its own, with the coins of the pending record under the
same key. -/
structure Dropped (name : String) (distributionType : DistributionType) (runner : String)
    (pending : Store String DistributionRecord) (out : Output Coins) (record : DistributionRecord) :
    Prop where
  status : record.distributionStatus = .pending
  named : record.distributionName = name
  typed : record.distributionType = distributionType
  recipient : record.recipientAddress = out.address
  runs : record.authorizedRunner = runner
  valid : record.validate = true
  amount : ∀ denom, recordAmount denom record = out.coins.amountOf denom +
    ((pending.get record.key).map (recordAmount denom)).getD 0

/-- The record of an output has the key of its recipient. -/
theorem Dropped.key_eq {pending : Store String DistributionRecord} {out : Output Coins}
    {record : DistributionRecord}
    (dropped : Dropped name distributionType runner pending out record) :
    record.key = getDistributionRecordKey name out.address distributionType := by
  rw [DistributionRecord.key, dropped.named, dropped.recipient, dropped.typed]

/-- An output is stored as a new record, or merged into the pending one of its key. -/
theorem createDrop_ok {out : Output Coins}
    (created : state.createDrop env height name distributionType runner out = .ok next) :
    ∃ record, Dropped name distributionType runner state.pending out record ∧
      next = { state with pending := state.pending.set record.key record } := by
  simp only [State.createDrop, Result.bind_ok, Outcome.replacing_ok, State.setDistributionRecord,
    Outcome.require_ok, Result.pure_ok] at created
  obtain ⟨record, chosen, -, valid, rfl⟩ := created
  have read : state.getDistributionRecord name out.address .pending distributionType =
      state.pending.get (getDistributionRecordKey name out.address distributionType) := rfl
  rw [read] at chosen
  cases found : state.pending.get (getDistributionRecordKey name out.address distributionType) with
  | none =>
    rw [found] at chosen
    cases chosen
    refine ⟨_, ⟨rfl, rfl, rfl, rfl, rfl, valid, fun denom => ?_⟩, rfl⟩
    simp only [DistributionRecord.key, found]
    rfl
  | some old =>
    rw [found] at chosen
    simp only [DistributionRecord.add, Result.bind_ok, Result.pure_ok] at chosen
    obtain ⟨coins, summed, rfl⟩ := chosen
    refine ⟨_, ⟨rfl, rfl, rfl, rfl, rfl, valid, fun denom => ?_⟩, rfl⟩
    simp only [DistributionRecord.key, found]
    exact Coins.safeAdd_ok summed denom

/-- The pending records while the outputs are written one after the other. -/
inductive Drops (name : String) (distributionType : DistributionType) (runner : String) :
    Store String DistributionRecord → List (Output Coins) → Store String DistributionRecord → Prop
  | done (pending : Store String DistributionRecord) :
    Drops name distributionType runner pending [] pending
  | drop {pending final : Store String DistributionRecord} {out : Output Coins}
    {rest : List (Output Coins)} {record : DistributionRecord}
    (dropped : Dropped name distributionType runner pending out record)
    (later : Drops name distributionType runner (pending.set record.key record) rest final) :
    Drops name distributionType runner pending (out :: rest) final

/-- What every drop keeps holds after all of them. -/
theorem Drops.keeps {fit : Store String DistributionRecord → Prop}
    {pending final : Store String DistributionRecord}
    (drops : Drops name distributionType runner pending output final)
    (step : ∀ pending out record, out ∈ output → fit pending →
      Dropped name distributionType runner pending out record → fit (pending.set record.key record))
    (start : fit pending) : fit final := by
  induction drops with
  | done => exact start
  | drop dropped _ ih =>
    exact ih (fun pending out record listed =>
      step pending out record (List.mem_cons_of_mem _ listed))
      (step _ _ _ List.mem_cons_self start dropped)

/-- A measure of records that every drop raises by its own output rises by all outputs, as long
as each drop keeps the records fit for the next one. -/
theorem Drops.total {fit : Store String DistributionRecord → Prop}
    {measure : DistributionRecord → Nat} {assigned : Output Coins → Nat}
    {pending final : Store String DistributionRecord}
    (drops : Drops name distributionType runner pending output final)
    (step : ∀ pending out record, out ∈ output → fit pending →
      Dropped name distributionType runner pending out record → fit (pending.set record.key record))
    (raises : ∀ pending out record, out ∈ output → fit pending →
      Dropped name distributionType runner pending out record →
        measure record = assigned out + ((pending.get record.key).map measure).getD 0)
    (start : fit pending) :
    final.total (fun _ => measure) =
      pending.total (fun _ => measure) + (output.map assigned).sum := by
  induction drops with
  | done => rfl
  | @drop pending final out rest record dropped later ih =>
    have raised := raises _ _ _ List.mem_cons_self start dropped
    have summed := ih
      (fun pending out record listed => step pending out record (List.mem_cons_of_mem _ listed))
      (fun pending out record listed => raises pending out record (List.mem_cons_of_mem _ listed))
      (step _ _ _ List.mem_cons_self start dropped)
    have changed := pending.total_change (fun _ => measure) record.key record
    rw [List.map_cons, List.sum_cons, summed]
    omega

/-- The outputs are stored one after the other. -/
theorem createDrops_ok
    (created : state.createDrops env height output name distributionType runner = .ok next) :
    ∃ pending, Drops name distributionType runner state.pending output pending ∧
      next = { state with pending } := by
  unfold State.createDrops at created
  induction output generalizing state with
  | nil =>
    cases created
    exact ⟨_, .done _, rfl⟩
  | cons out rest ih =>
    rw [List.foldlM_cons, Result.bind_ok] at created
    obtain ⟨middle, first, later⟩ := created
    obtain ⟨record, dropped, rfl⟩ := createDrop_ok first
    obtain ⟨pending, drops, rfl⟩ := ih later
    exact ⟨pending, .drop dropped drops, rfl⟩

/-- A created distribution. -/
structure Created (env : Environment) (context : Context env) (state next : State)
    (msg : MsgCreateDistribution) (output : List (Output Coins)) : Prop where
  distributor : (env.accAddressFromBech32 msg.distributor).isSome = true
  recipients : ∀ out ∈ output, (env.accAddressFromBech32 out.address).isSome = true
  drops : Drops (distributionNameOf context.blockHeight msg.distributor) msg.distributionType
    msg.authorizedRunner state.pending output next.pending
  completed : next.completed = state.completed
  failed : next.failed = state.failed
  gained : ∀ denom, held env next denom = held env state denom + outputAmount denom output

/-- An output that passes is sent to an address that decodes. -/
theorem checkOutput_ok {chain : Chain} {out : Output (List RawCoin)} {checked : Output Coins}
    (passed : checkOutput chain out = .ok checked) :
    checked.address = out.address ∧ (chain.accAddressFromBech32 checked.address).isSome = true := by
  simp only [checkOutput, requireAddress, Result.bind_ok, Outcome.require_ok, Outcome.present_ok,
    Result.pure_ok] at passed
  obtain ⟨-, decodes, coins, -, rfl⟩ := passed
  exact ⟨rfl, decodes⟩

/-- Every checked output is to an address that reads, which an output of the message names. -/
theorem checkOutputs_ok {chain : Chain} {outs : List (Output (List RawCoin))}
    (passed : outs.mapM (checkOutput chain) = .ok output) :
    ∀ out ∈ output, (∃ given ∈ outs, out.address = given.address) ∧
      (chain.accAddressFromBech32 out.address).isSome = true := by
  refine Result.mapM_ok_forall (fun given member out returned => ?_) passed
  obtain ⟨same, decodes⟩ := checkOutput_ok returned
  exact ⟨⟨given, member, same⟩, decodes⟩

/-- A distribution that is handled collects the total of its outputs and records each of them. -/
theorem createDistribution_ok {msg : MsgCreateDistribution} {signer : AccAddress}
    (checked : msg.validateBasic env.toChain = .ok output)
    (signed : env.accAddressFromBech32 msg.distributor = some signer)
    (outside : signer ≠ env.moduleAccount)
    (handled : state.createDistribution env context msg output = .ok next) :
    Created env context state next msg output := by
  simp only [State.createDistribution, State.verifyAndSetDistribution, State.accumulateDrops,
    Chain.decode, Result.bind_ok, Outcome.require_ok, Outcome.wrapping_ok, Outcome.replacing_ok,
    Outcome.present_ok, Result.pure_ok, signed, Option.some.injEq] at handled
  obtain ⟨_, ⟨-, -, -, -, rfl⟩, total, summed, _, ⟨address, rfl, bank, paid, rfl⟩, created⟩ := handled
  obtain ⟨pending, drops, rfl⟩ := createDrops_ok created
  simp only [MsgCreateDistribution.validateBasic, Result.bind_ok, Outcome.require_ok] at checked
  obtain ⟨-, -, -, -, -, -, -, -, outputs⟩ := checked
  refine ⟨by rw [signed]; rfl, fun out listed => (checkOutputs_ok outputs out listed).2, drops, rfl,
    rfl, fun denom => ?_⟩
  have moved := Ledger.toModule_ok outside paid denom
  rw [totalOutput_ok summed] at moved
  exact moved

end Creating

section Running

variable {record : DistributionRecord}

/-- Crediting coins does not fail with an error. -/
theorem addCoins_error {ledger : Ledger} {address : AccAddress} {coins : Coins} {error : SdkError}
    (valid : coins.isValid = true) : ledger.addCoins address coins ≠ .error (.error error) := by
  have fold : ∀ (rest : Coins) (ledger : Ledger),
      rest.foldlM (fun ledger coin => Ledger.addCoin ledger address coin) ledger ≠
        .error (.error error) := by
    intro rest
    induction rest with
    | nil => exact fun ledger failed => by cases failed
    | cons coin rest ih =>
      intro ledger failed
      rw [List.foldlM_cons] at failed
      cases first : Ledger.addCoin ledger address coin with
      | error fault =>
        rw [first] at failed
        cases failed
        simp only [Ledger.addCoin] at first
        split at first <;> cases first
      | ok middle =>
        rw [first] at failed
        exact ih middle failed
  unfold Ledger.addCoins
  rw [Outcome.require, if_pos valid]
  exact fold coins ledger

/-- A covered payout is refused only when the recipient is blocked. -/
theorem refused_blocked {recipient : AccAddress} {coins : Coins} {error : SdkError}
    (valid : coins.isValid = true)
    (covered : ∀ denom, coins.amountOf denom ≤ held env state denom)
    (refused : state.bank.sendCoinsFromModuleToAccount env.toChain context.locked moduleName
      recipient coins = .error (.error error)) : env.blockedAddr recipient = true := by
  by_contra unblocked
  have free : env.blockedAddr recipient = false := by
    cases flag : env.blockedAddr recipient with
    | false => rfl
    | true => exact absurd flag unblocked
  obtain ⟨debited, debit⟩ := Ledger.subCoins_covered context.unlocked covered
  have sent : state.bank.sendCoinsFromModuleToAccount env.toChain context.locked moduleName
      recipient coins = debited.addCoins recipient coins := by
    unfold Ledger.sendCoinsFromModuleToAccount Ledger.sendCoins Ledger.subUnlockedCoins
    rw [Outcome.require, if_pos free, Outcome.require, if_pos valid]
    change (do let debited ← coins.foldlM _ state.bank; debited.addCoins recipient coins) = _
    rw [show coins.foldlM (fun ledger coin => Ledger.subCoin context.locked ledger
      (env.moduleAddress moduleName) coin) state.bank = .ok debited from debit]
    rfl
  rw [sent] at refused
  exact addCoins_error valid refused

/-- A record with another status. -/
def moved (record : DistributionRecord) (height : Int) (status : DistributionStatus) :
    DistributionRecord :=
  { record with distributionStatus := status, distributionCompletedHeight := height }

/-- What one round does to a pending record. -/
inductive Handled (env : Environment) (context : Context env) (state : State)
    (record : DistributionRecord) : State → Prop
  | skipped (undecoded : env.accAddressFromBech32 record.recipientAddress = none) :
    Handled env context state record state
  | paid {next : State} {recipient : AccAddress}
    (decoded : env.accAddressFromBech32 record.recipientAddress = some recipient)
    (unblocked : env.blockedAddr recipient = false)
    (pending : next.pending = state.pending.delete record.key)
    (completed : next.completed =
      state.completed.set record.key (moved record context.blockHeight .completed))
    (failed : next.failed = state.failed)
    (sent : ∀ address denom, next.bank.balance address denom +
      Ledger.share env.moduleAccount address (recordAmount denom record) =
        state.bank.balance address denom +
          Ledger.share recipient address (recordAmount denom record)) :
    Handled env context state record next
  | refused {next : State} {recipient : AccAddress}
    (decoded : env.accAddressFromBech32 record.recipientAddress = some recipient)
    (blocked : env.blockedAddr recipient = true)
    (pending : next.pending = state.pending.delete record.key)
    (completed : next.completed = state.completed)
    (failed : next.failed =
      state.failed.set record.key (moved record context.blockHeight .failed))
    (kept : next.bank = state.bank) :
    Handled env context state record next

/-- Changing the status of a valid pending record moves it to the store of the new status. -/
theorem changeRecordStatus_pending {height : Int} {status : DistributionStatus}
    (found : state.pending.get record.key = some record)
    (isPending : record.distributionStatus = .pending) (valid : record.validate = true)
    (other : status ≠ .pending) :
    state.changeRecordStatus env record height status =
      ((state.setRecords status ((state.records status).set record.key
        (moved record height status))).setRecords .pending (state.pending.delete record.key),
        none) := by
  have set : state.setDistributionRecord env (moved record height status) =
      .ok (state.setRecords status ((state.records status).set record.key
        (moved record height status))) := by
    unfold State.setDistributionRecord
    rw [Outcome.require, if_pos (show (moved record height status).validate = true from valid)]
    rfl
  have deleted : (state.setRecords status ((state.records status).set record.key
      (moved record height status))).deleteDistributionRecord record.distributionName
        record.recipientAddress .pending record.distributionType =
      .ok ((state.setRecords status ((state.records status).set record.key
        (moved record height status))).setRecords .pending (state.pending.delete record.key)) := by
    have present : state.pending.has record.key = true := by
      change (state.pending.get record.key).isSome = true
      rw [found]
      rfl
    cases status with
    | pending => exact absurd rfl other
    | completed | failed | unspecified =>
      simp only [State.deleteDistributionRecord, Result.bind_ok, Outcome.require_ok,
        Result.pure_ok]
      exact ⟨(), present, rfl⟩
  unfold moved at set deleted ⊢
  unfold State.changeRecordStatus
  dsimp only
  rw [set, isPending]
  dsimp only
  rw [deleted]

/-- A round on a covered pending record pays it or, when its recipient is blocked, fails it. -/
theorem distributeDrop_ok (found : state.pending.get record.key = some record)
    (isPending : record.distributionStatus = .pending) (valid : record.validate = true)
    (covered : ∀ denom, recordAmount denom record ≤ held env state denom)
    (handled : state.distributeDrop env context record = .ok next) :
    Handled env context state record next := by
  unfold State.distributeDrop at handled
  split at handled
  · rename_i undecoded
    cases handled
    exact .skipped undecoded
  · rename_i recipient decoded
    split at handled
    · rename_i bank sent
      simp only [Ledger.sendCoinsFromModuleToAccount, Result.bind_ok, Outcome.require_ok] at sent
      obtain ⟨-, unblocked, coinsSent⟩ := sent
      have exchanged := Ledger.sendCoins_ok coinsSent
      have change := @changeRecordStatus_pending env { state with bank } record
        context.blockHeight .completed found isPending valid (by decide)
      rw [State.completeDrop, change] at handled
      dsimp only at handled
      split at handled
      · cases handled
        exact .paid decoded unblocked rfl rfl rfl exchanged
      · cases handled
        exact .paid decoded unblocked rfl rfl rfl exchanged
    · rename_i error refused
      have coinsValid : record.coins.isValid = true := by
        simp only [DistributionRecord.validate, Bool.and_eq_true] at valid
        exact valid.1.2
      have blocked := @refused_blocked env context state recipient record.coins error coinsValid
        covered refused
      have untouched : state.bank.afterRefusal env.toChain context.locked moduleName recipient
          record.coins = state.bank := if_pos (.inl blocked)
      rw [untouched, State.failDrop, @changeRecordStatus_pending env state record
        context.blockHeight .failed found isPending valid (by decide)] at handled
      cases handled
      exact .refused decoded blocked rfl rfl rfl rfl
    · cases handled

end Running

end Akhira.Verif.Dispensation
