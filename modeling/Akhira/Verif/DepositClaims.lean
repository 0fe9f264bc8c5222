import Akhira.Relayer.ToCosmos
import Akhira.Verif.BridgeNamespace
import Akhira.Verif.OracleOrder

/-!
# Claims for deposits

Validators report deposits to the chain. The report of a white-listed bonded validator that has not
claimed before is executed and counted while the prophecy of the deposit is pending, and pays the
receiver when the validators that agree weigh the required share. A report for a finished prophecy
is refused.
-/
namespace Akhira.Verif.EthBridge

open Akhira.Base Akhira.Sdk Akhira.EthBridge Akhira.Relayer

/-- The content of a claim with a decoded receiver. -/
def contentOf (claim : EthBridgeClaim) (receiver : AccAddress) : OracleClaimContent :=
  ⟨receiver, claim.amount, claim.symbol, hexToAddress claim.tokenContractAddress, claim.claimType⟩

/-- A claim as a validator reports it. -/
def reportedBy (env : Environment) (validator : Oracle.ValAddress) (claim : EthBridgeClaim) :
    EthBridgeClaim :=
  { claim with validatorAddress := env.oracle.codec.text validator }

/-- A deposit that can be reported and paid. -/
structure Deposit (env : Environment) where
  claim : EthBridgeClaim
  receiver : AccAddress
  denom : Denom
  identified : claim.oracleID ≠ ""
  valid : ∀ validator, (reportedBy env validator claim).validateBasic = .ok ()
  decodes : env.chain.accAddressFromBech32 claim.cosmosReceiver = some receiver
  written : env.contents.marshal (contentOf claim receiver) ≠ ""
  reads : env.contents.unmarshal (env.contents.marshal (contentOf claim receiver)) =
    some (contentOf claim receiver)
  named : (contentOf claim receiver).denom = some denom
  denomValid : validDenom denom = true
  nonnegative : 0 ≤ claim.amount.val
  unblocked : env.chain.blockedAddr receiver = false

variable {env : Environment} {context : Context} {state next : State}

namespace Deposit

variable (deposit : Deposit env)

/-- The id of its prophecy. -/
def id : String := deposit.claim.oracleID

/-- What every validator claims for it. -/
def text : String := env.contents.marshal (contentOf deposit.claim deposit.receiver)

/-- What is minted for the deposit. -/
def amount : Nat := deposit.claim.amount.val.toNat

/-- The claim of a validator as a message. -/
def msg (validator : Oracle.ValAddress) : ChainMsg :=
  .bridge (.createEthBridgeClaim (reportedBy env validator deposit.claim))

end Deposit

/-- A transaction of a relayer. -/
structure Batch (env : Environment) where
  context : Context
  validator : Oracle.ValAddress
  deposits : List (Deposit env)

/-- Broadcast a batch. -/
def sendBatch (env : Environment) (state : State) (batch : Batch env) : Outcome State :=
  stepTx env state (relayToCosmos batch.context
    (batch.deposits.map fun deposit => reportedBy env batch.validator deposit.claim))

/-- Whether the prophecy of a deposit is no longer pending. -/
def finished (env : Environment) (state : State) (deposit : Deposit env) : Bool :=
  (prophecyOf env state deposit.id).status.text ≠ .pending

/-- Paying some amount for a deposit keeps the numbers of the bank within 256 bits. -/
def Room (env : Environment) (bank : Bank) (amount : Nat) (deposit : Deposit env) : Prop :=
  bank.supply deposit.denom + amount < 2 ^ 256 ∧
    bank.ledger.balance (env.chain.moduleAddress moduleName) deposit.denom + amount < 2 ^ 256 ∧
    bank.ledger.balance deposit.receiver deposit.denom + amount < 2 ^ 256

/-- Whether there is room is decided by comparing with 2^256. -/
instance (bank : Bank) (amount : Nat) (deposit : Deposit env) :
    Decidable (Room env bank amount deposit) := inferInstanceAs (Decidable (_ ∧ _))

/-- The amounts of all deposits of a list. -/
def amountsOf (deposits : List (Deposit env)) : Nat := (deposits.map Deposit.amount).sum

section Paying

/-- One coin of a valid denomination is made, and is of that denomination. -/
theorem coinsOf_valid {denom : Denom} {amount : SInt} (denomValid : validDenom denom = true)
    (nonnegative : 0 ≤ amount.val) :
    ∃ coins : Coins, coinsOf [(denom, amount)] = .ok coins ∧ coins.isValid = true ∧
      ∀ coin ∈ coins, coin.denom = denom := by
  have bounded := amount.bounded
  let coin : Coin := ⟨denom, amount.val.toNat, denomValid, by omega⟩
  have made : Coin.newCoin denom amount = .ok coin := by
    unfold Coin.newCoin
    rw [dif_pos denomValid, dif_pos nonnegative]
  have collected : ∃ coins : Coins, Coins.newCoins [coin] = .ok coins ∧
      ∀ other ∈ coins, other = coin := by
    by_cases zero : amount.val.toNat = 0
    · refine ⟨[], ?_, by simp⟩
      simp [Coins.newCoins, Coins.removeZeroCoins, coin, zero, Coins.isValid]
    · refine ⟨[coin], ?_, by simp⟩
      simp [Coins.newCoins, Coins.removeZeroCoins, coin, zero, Coins.isValid]
  obtain ⟨coins, collects, only_coin⟩ := collected
  refine ⟨coins, ?_, (Coins.newCoins_ok collects).1, fun other listed => ?_⟩
  · simp only [coinsOf, List.mapM_cons, List.mapM_nil, made, Result.bind_ok, Result.pure_ok]
    exact ⟨[coin], ⟨coin, rfl, [], rfl, rfl⟩, collects⟩
  · rw [only_coin other listed]

/-- A deposit with room is paid when its content succeeds. -/
theorem processSuccessfulClaim_pays {locked : Locked} (deposit : Deposit env)
    (free : ∀ denom, locked (env.chain.moduleAddress moduleName) denom = 0)
    (room : Room env state.bank deposit.amount deposit) :
    ∃ next, processSuccessfulClaim env locked state deposit.text = .ok next := by
  obtain ⟨supply, module, receiver⟩ := room
  obtain ⟨coins, made, valid, single⟩ := coinsOf_valid deposit.denomValid deposit.nonnegative
  have held : ∀ coin ∈ coins, coins.amountOf coin.denom = deposit.amount := by
    intro coin listed
    rw [(coinsOf_single made).2, single coin listed, only_self]
    rfl
  obtain ⟨minted, mint⟩ := @Bank.mintCoins_fits env.chain state.bank coins moduleName valid
    (fun coin listed => by rw [held coin listed, single coin listed]; exact module)
    (fun coin listed => by rw [held coin listed, single coin listed]; exact supply)
  have credited := (Bank.mintCoins_ok mint).1
  have covered : ∀ denom, coins.amountOf denom ≤
      minted.ledger.balance (env.chain.moduleAddress moduleName) denom := by
    intro denom
    rw [credited, Ledger.share_self]
    omega
  have receiverRoom : ∀ coin ∈ coins, minted.ledger.balance deposit.receiver coin.denom +
      coins.amountOf coin.denom < 2 ^ 256 + Ledger.share (env.chain.moduleAddress moduleName)
        deposit.receiver (coins.amountOf coin.denom) := by
    intro coin listed
    rw [credited, held coin listed, single coin listed]
    omega
  obtain ⟨paid, sent⟩ := Bank.fromModule_covered valid deposit.unblocked free covered receiverRoom
  let pegged := if deposit.claim.claimType = .lock then state.addPeggyToken deposit.denom else state
  have sameBank : pegged.bank = state.bank := by
    dsimp only [pegged]
    split
    · rw [addPeggyToken_rest]
    · rfl
  refine ⟨{ pegged with bank := paid }, ?_⟩
  simp only [processSuccessfulClaim, createOracleClaimFromOracleString, Result.bind_ok,
    Result.pure_ok, Outcome.present_ok, orPanic_ok]
  refine ⟨_, deposit.reads, deposit.denom, deposit.named, coins, made, minted, ?_, paid, sent, rfl⟩
  change pegged.bank.mintCoins env.chain moduleName coins = .ok minted
  rw [sameBank]
  exact mint

end Paying

section Reporting

variable {staking : Oracle.Staking} {whiteList : List Oracle.ValAddress}
  {majority : env.oracle.consensusNeeded.denominator < 2 * env.oracle.consensusNeeded.numerator}
  {powered : 0 < Oracle.eligiblePower staking whiteList} {deposit : Deposit env}
  {validator : Oracle.ValAddress} {voters : List Oracle.ValAddress}

/-- The prophecy of a deposit holds the equal claims of some validators. -/
abbrev Collected (env : Environment) (staking : Oracle.Staking) (whiteList : List Oracle.ValAddress)
    (majority : env.oracle.consensusNeeded.denominator < 2 * env.oracle.consensusNeeded.numerator)
    (powered : 0 < Oracle.eligiblePower staking whiteList) (deposit : Deposit env) (state : State)
    (voters : List Oracle.ValAddress) : Prop :=
  Oracle.Counting env.oracle (Oracle.prophecyPoll env.oracle staking whiteList majority powered)
    whiteList deposit.id state.oracle (Poll.unanimous voters deposit.text)

/-- What a report leaves besides its own prophecy. -/
structure Beside (env : Environment) (deposit : Deposit env) (state next : State) : Prop where
  whiteList : next.oracle.whiteList = state.oracle.whiteList
  others : ∀ id, id ≠ deposit.id → prophecyOf env next id = prophecyOf env state id
  accounts : next.accounts = state.accounts
  supply : ∀ denom, next.bank.supply denom ≤ state.bank.supply denom + deposit.amount
  balance : ∀ address denom, next.bank.ledger.balance address denom ≤
    state.bank.ledger.balance address denom + deposit.amount

/-- The amount of one denomination is at most the amount. -/
theorem only_le (denom other : Denom) (amount : Nat) : only denom amount other ≤ amount := by
  unfold only
  split <;> omega

/-- The share of one account is at most the amount. -/
theorem share_le (address other : AccAddress) (amount : Nat) :
    Ledger.share address other amount ≤ amount := by
  unfold Ledger.share
  split <;> omega

/-- A claim whose success would be of the deposit's content touches no more than the deposit. -/
theorem Claimed.beside {oracleClaim : Oracle.Claim} {status : Oracle.Status}
    (sound : Sound env state)
    (claimed : Claimed env context state next (reportedBy env validator deposit.claim) oracleClaim
      status)
    (final : status.text = .success → status.finalClaim = deposit.text) :
    Beside env deposit state next := by
  have advanced := claimed.advanced sound
  by_cases success : status.text = .success
  · obtain ⟨content, denom, minted⟩ := claimed.paid success
    have decoded := minted.decoded
    rw [final success, Deposit.text, deposit.reads, Option.some.injEq] at decoded
    have amount : content.amount.val.toNat = deposit.amount := by rw [← decoded]; rfl
    refine ⟨advanced.whiteList, advanced.others, ?_, fun other => ?_, fun address other => ?_⟩
    · rw [minted.rest]
    · have raised : next.bank.supply other = state.bank.supply other + _ := minted.paid.supply other
      have bounded := only_le denom other content.amount.val.toNat
      omega
    · have credited : next.bank.ledger.balance address other =
          state.bank.ledger.balance address other + _ := minted.paid.balance address other
      have first := share_le content.cosmosReceiver address
        (only denom content.amount.val.toNat other)
      have second := only_le denom other content.amount.val.toNat
      omega
  · have rest := claimed.unpaid success
    refine ⟨advanced.whiteList, advanced.others, ?_, fun other => ?_, fun address other => ?_⟩
    · rw [rest]
    · rw [rest]
      exact Nat.le_add_right _ _
    · rw [rest]
      exact Nat.le_add_right _ _

/-- The report of a validator that has not claimed is executed and counted. -/
theorem report_counted (sound : Sound env state)
    (collected : Collected env staking whiteList majority powered deposit state voters)
    (undecided : (Oracle.prophecyPoll env.oracle staking whiteList majority powered).verdict
      (Poll.unanimous voters deposit.text) = .undecided)
    (fits : (Oracle.prophecyPoll env.oracle staking whiteList majority powered).Fits
      (Poll.unanimous (voters ++ [validator]) deposit.text))
    (unvoted : validator ∉ voters)
    (admissible : Oracle.Admissible staking whiteList (validator, deposit.text))
    (fixed : context.oracle.staking = staking)
    (free : ∀ denom, context.locked (env.chain.moduleAddress moduleName) denom = 0)
    (room : Room env state.bank deposit.amount deposit) :
    ∃ next events, handle env context state
        (.createEthBridgeClaim (reportedBy env validator deposit.claim)) = .ok (next, events) ∧
      Sound env next ∧ Beside env deposit state next ∧
      Collected env staking whiteList majority powered deposit next (voters ++ [validator]) := by
  have appended : Poll.unanimous (voters ++ [validator]) deposit.text =
      Poll.unanimous voters deposit.text ++ [(validator, deposit.text)] := List.map_append
  have unlisted : validator ∉ (Poll.unanimous voters deposit.text).map Prod.fst := by
    rw [Poll.voters_unanimous]
    exact unvoted
  rw [appended] at fits
  obtain ⟨oracle, processed, counted⟩ := @Oracle.Counting.processed _ _ _ majority powered _ _ _
    context.oracle.order (validator, deposit.text) collected undecided deposit.identified
      deposit.written admissible unlisted fits
  have sameContext : (⟨staking, context.oracle.order⟩ : Oracle.Context) = context.oracle := by
    rw [← fixed]
  rw [sameContext] at processed
  -- the prophecy can only succeed with the content everybody claims
  have final : ∀ status : Oracle.Status,
      status = (oracle.prophecyOrNew env.oracle.codec deposit.id).status →
      status.text = .success → status.finalClaim = deposit.text := by
    intro status status_eq success
    have verdict := counted.status
    rw [← appended] at fits verdict
    rw [status_eq] at success ⊢
    rcases Poll.verdict_unanimous env.oracle.consensusNeeded.atMostOne fits with accepted | open_
    · rw [verdict, accepted]
      rfl
    · rw [verdict, open_] at success
      cases success
  set status := (oracle.prophecyOrNew env.oracle.codec deposit.id).status with status_eq
  have paid : ∃ next, (if status.text = .success then processSuccessfulClaim env context.locked
      { state with oracle := oracle } status.finalClaim else pure { state with oracle := oracle }) =
        .ok next := by
    split
    · next success =>
      rw [final status status_eq success]
      exact processSuccessfulClaim_pays deposit free room
    · exact ⟨_, rfl⟩
  obtain ⟨next, paying⟩ := paid
  have made : createOracleClaimFromEthClaim env.chain env.contents
      (reportedBy env validator deposit.claim) =
        .ok ⟨deposit.id, env.oracle.codec.text validator, deposit.text⟩ := by
    simp only [createOracleClaimFromEthClaim, Result.bind_ok, Result.pure_ok, decode_ok]
    exact ⟨deposit.receiver, deposit.decodes, rfl⟩
  obtain ⟨sameOracle, claimed⟩ := claimed_of_processed made processed paying
  have handled : ∃ events, handle env context state
      (.createEthBridgeClaim (reportedBy env validator deposit.claim)) = .ok (next, events) := by
    simp only [handle, createEthBridgeClaim, processClaim, Result.bind_ok, Result.pure_ok,
      Prod.mk.injEq]
    exact ⟨_, _, ⟨_, made, _, processed, rfl⟩, _, paying, rfl, rfl⟩
  obtain ⟨events, handles⟩ := handled
  refine ⟨next, events, handles, sound.claimed claimed.processed,
    claimed.beside sound (final status status_eq), ?_⟩
  unfold Collected
  rw [sameOracle, appended]
  exact counted

end Reporting

/-- Deposits and the validators that report them: every white-listed bonded validator is one. -/
structure Setting (env : Environment) where
  staking : Oracle.Staking
  whiteList : List Oracle.ValAddress
  majority : env.oracle.consensusNeeded.denominator < 2 * env.oracle.consensusNeeded.numerator
  powered : 0 < Oracle.eligiblePower staking whiteList
  validators : List Oracle.ValAddress
  deposits : List (Deposit env)
  whiteListed : ∀ validator ∈ validators, validator ∈ whiteList
  active : ∀ validator ∈ validators, Oracle.checkActiveValidator staking validator = true
  everybody : ∀ bonded ∈ staking.bondedValidators, bonded.operator ∈ whiteList →
    bonded.operator ∈ validators
  distinct : (deposits.map Deposit.id).Nodup

namespace Setting

variable {setting : Setting env} {deposit other : Deposit env} {voters : List Oracle.ValAddress}

/-- The poll that every prophecy is. -/
def poll (setting : Setting env) : Poll Oracle.ValAddress :=
  Oracle.prophecyPoll env.oracle setting.staking setting.whiteList setting.majority setting.powered

/-- The prophecy of a deposit holds the claims of some of the validators. -/
structure Holds (setting : Setting env) (deposit : Deposit env) (state : State)
    (voters : List Oracle.ValAddress) : Prop where
  collected : Collected env setting.staking setting.whiteList setting.majority setting.powered
    deposit state voters
  reporting : ∀ voter ∈ voters, voter ∈ setting.validators

/-- Nobody is counted twice among the voters. -/
theorem Holds.distinct (holds : setting.Holds deposit state voters) : voters.Nodup := by
  have once := holds.collected.recorded.voters
  rw [Poll.voters_unanimous] at once
  exact once

/-- Distinct reporting validators have at most the power of the poll. -/
theorem fits_of_reporting (once : voters.Nodup)
    (reporting : ∀ voter ∈ voters, voter ∈ setting.validators) :
    setting.poll.Fits (Poll.unanimous voters deposit.text) := by
  apply Oracle.fits_of_whiteListed
  · rw [Poll.voters_unanimous]
    exact once
  · intro ballot cast
    obtain ⟨voter, voted, rfl⟩ := List.mem_map.mp cast
    exact setting.whiteListed voter (reporting voter voted)

/-- A prophecy that holds equal claims is pending or has succeeded. -/
theorem Holds.status (holds : setting.Holds deposit state voters) :
    setting.poll.verdict (Poll.unanimous voters deposit.text) = .undecided ∧
        finished env state deposit = false ∨
      (prophecyOf env state deposit.id).status.text = .success ∧
        finished env state deposit = true ∧
        setting.poll.verdict (Poll.unanimous voters deposit.text) ≠ .undecided := by
  have status : (prophecyOf env state deposit.id).status =
      Oracle.statusOf (setting.poll.verdict (Poll.unanimous voters deposit.text)) :=
    holds.collected.status
  unfold finished
  rcases Poll.verdict_unanimous env.oracle.consensusNeeded.atMostOne
    (@fits_of_reporting _ setting deposit _ holds.distinct holds.reporting) with accepted | open_
  · refine .inr ⟨?_, ?_, ?_⟩
    · rw [status, show setting.poll.verdict _ = _ from accepted]
      rfl
    · rw [status, show setting.poll.verdict _ = _ from accepted]
      rfl
    · rw [show setting.poll.verdict _ = _ from accepted]
      nofun
  · refine .inl ⟨open_, ?_⟩
    rw [status, show setting.poll.verdict _ = _ from open_]
    rfl

/-- When everybody has claimed, the prophecy has succeeded. -/
theorem Holds.success (holds : setting.Holds deposit state voters)
    (all : ∀ validator ∈ setting.validators, validator ∈ voters) :
    (prophecyOf env state deposit.id).status.text = .success := by
  have fits := @fits_of_reporting _ setting deposit _ holds.distinct holds.reporting
  have everybody : setting.poll.total ≤ (voters.map setting.poll.power).sum :=
    Oracle.eligiblePower_le_listed holds.distinct fun bonded listed whiteListed =>
      all _ (setting.everybody bonded listed whiteListed)
  have accepted := Poll.verdict_everybody env.oracle.consensusNeeded.atMostOne fits everybody
  rcases holds.status with ⟨undecided, -⟩ | ⟨success, -⟩
  · rw [accepted] at undecided
    cases undecided
  · exact success

/-- Deposits of the setting with one id are one. -/
theorem deposit_unique (listed : deposit ∈ setting.deposits) (otherListed : other ∈ setting.deposits)
    (same : deposit.id = other.id) : deposit = other :=
  List.inj_on_of_nodup_map setting.distinct listed otherListed same

variable {validator : Oracle.ValAddress} {deposits : List (Deposit env)}

/-- The checks before the messages pass, and raise only sequences. -/
theorem ante_reports (some_ : deposits ≠ [])
    (account : (state.accounts validator.bytes).isSome = true) :
    ∃ accounts, ante env state (deposits.map fun deposit => deposit.msg validator) =
        .ok { state with accounts } ∧
      ∀ address, (accounts address).isSome = (state.accounts address).isSome := by
  have checked : (deposits.map fun deposit => deposit.msg validator).forM
      ChainMsg.validateBasic = .ok () := by
    clear some_
    induction deposits with
    | nil => rfl
    | cons deposit rest ih =>
      simp only [List.map_cons, List.forM, Result.bind_ok]
      exact ⟨(), deposit.valid validator, ih⟩
  have signed : (deposits.map fun deposit => deposit.msg validator).mapM (ChainMsg.signers env) =
      .ok (deposits.map fun _ => [validator.bytes]) := by
    clear some_ checked
    induction deposits with
    | nil => rfl
    | cons deposit rest ih =>
      have signer : ChainMsg.signers env (deposit.msg validator) = .ok [validator.bytes] := by
        simp only [ChainMsg.signers, Deposit.msg, Msg.signer, reportedBy,
          env.oracle.codec.read_text, Result.bind_ok, Result.pure_ok, Outcome.present_ok]
        exact ⟨validator.bytes, rfl, rfl⟩
      simp only [List.map_cons, List.mapM_cons, signer, ih, Result.bind_ok, Result.pure_ok]
      exact ⟨_, rfl, _, rfl, rfl⟩
  refine ⟨increment state.accounts (deposits.map fun _ => [validator.bytes]).flatten, ?_,
    fun address => ?_⟩
  · simp only [ante, Result.bind_ok, Result.pure_ok, Outcome.require_ok]
    refine ⟨(), ?_, (), checked, _, signed, (), ?_, rfl⟩
    · simpa using some_
    · intro signer listed
      obtain ⟨signers, member, own⟩ := List.mem_flatten.mp listed
      obtain ⟨_, -, rfl⟩ := List.mem_map.mp member
      rw [List.mem_singleton.mp own]
      exact account
  · exact Option.isSome_map

/-- A report of a finished prophecy is refused. -/
theorem report_refused {rest : List ChainMsg} {result : State × List Receipt}
    (sound : Sound env state) (done : finished env state deposit = true) :
    runMsgs env context state (deposit.msg validator :: rest) ≠ .ok result := by
  intro ran
  simp only [Deposit.msg, runMsgs, Result.bind_ok] at ran
  obtain ⟨⟨next, events⟩, handled, -⟩ := ran
  obtain ⟨oracleClaim, status, claimed⟩ := createEthBridgeClaim_ok handled
  have pending : (prophecyOf env state deposit.id).status.text = .pending :=
    (claimed.advanced sound).pending
  unfold finished at done
  rw [pending] at done
  cases done

/-- The messages of a batch are the reports of its deposits. -/
theorem batch_msgs (batch : Batch env) :
    (relayToCosmos batch.context
      (batch.deposits.map fun deposit => reportedBy env batch.validator deposit.claim)).msgs =
      batch.deposits.map fun deposit => deposit.msg batch.validator := by
  have kept : messagesOf (batch.deposits.map fun deposit => reportedBy env batch.validator
      deposit.claim) = batch.deposits.map fun deposit => reportedBy env batch.validator
        deposit.claim := by
    apply List.filter_eq_self.mpr
    intro claim listed
    obtain ⟨deposit, -, rfl⟩ := List.mem_map.mp listed
    rw [deposit.valid]
    rfl
  unfold relayToCosmos
  rw [kept, List.map_map]
  rfl

section Batches

variable {batch : Batch env} {checked : State} {result : State × List Receipt}

/-- An empty transaction is refused. -/
theorem attempt_empty (nothing : batch.deposits = []) :
    attempt (sendBatch env) state batch = state := by
  apply attempt_ok
  simp only [sendBatch, stepTx, deliverTx, nothing]
  rfl

/-- A batch whose checks pass and whose reports are executed. -/
theorem attempt_ran
    (passed : ante env state (batch.deposits.map fun deposit => deposit.msg batch.validator) =
      .ok checked)
    (ran : runMsgs env batch.context checked
      (batch.deposits.map fun deposit => deposit.msg batch.validator) = .ok result) :
    attempt (sendBatch env) state batch = result.1 := by
  apply attempt_ok
  simp only [sendBatch, stepTx, deliverTx, batch_msgs, passed]
  rw [relayToCosmos, ran]

/-- A batch whose checks pass and one of whose reports is refused. -/
theorem attempt_stopped {fault : Fault}
    (passed : ante env state (batch.deposits.map fun deposit => deposit.msg batch.validator) =
      .ok checked)
    (stopped : runMsgs env batch.context checked
      (batch.deposits.map fun deposit => deposit.msg batch.validator) = .error fault) :
    attempt (sendBatch env) state batch = checked := by
  apply attempt_ok
  simp only [sendBatch, stepTx, deliverTx, batch_msgs, passed]
  rw [relayToCosmos, stopped]

end Batches

end Setting

end Akhira.Verif.EthBridge
