import Akhira.Network.Chains
import Akhira.Verif.BankLog
import Akhira.Verif.BridgeSupply
import Akhira.Verif.ContentJson
import Akhira.Verif.OracleRecords
import Akhira.Verif.SymbolRoundTrip

/-!
# Credits on the chain

Some validators claim only what their relayer makes of a log of the bank. While the others have
less bonded power than a success takes, every prophecy that succeeds is about a deposit that the
bank has logged. Each id succeeds once, so a denomination grows by no more than its deposits.
-/
namespace Akhira.Verif.Network

open Akhira.Base Akhira.Sdk Akhira.Contracts Akhira.EthBridge Akhira.Relayer Akhira.Network
open Akhira.Verif.EthBridge

section Reports

variable {sub : EthereumSub} {event : BankEvent} {claim : EthBridgeClaim}

/-- The id of a deposit in the oracle module. -/
def depositID (sub : EthereumSub) (arguments : LogArguments) : String :=
  intText (Int64.ofInt sub.clientChainID).toInt ++
    intText (Int64.ofInt arguments.nonce.toNat).toInt ++ sub.texts.ethereumAddress arguments.sender

/-- The denomination of a deposit. -/
def depositDenom (sub : EthereumSub) (arguments : LogArguments) : LogName → Denom
  | .logLock => peggedCoinPrefix ++ sub.texts.toLower arguments.symbol
  | .logBurn => sub.translator.ethereumToSifchain (goText arguments.symbol)

/-- The amount of a denomination that an event of the bank deposits. -/
def depositValue (sub : EthereumSub) (denom : Denom) (event : BankEvent) : Nat :=
  match argumentsOf event with
  | some (name, arguments) =>
    if depositDenom sub arguments name = denom then arguments.value.toNat else 0
  | none => 0

/-- The relayer of a validator makes a claim of the log of an event. -/
def Reports (sub : EthereumSub) (validator : Oracle.ValAddress) (event : BankEvent)
    (claim : EthBridgeClaim) : Prop :=
  ∃ cLog read, Logged sub.abi event cLog ∧ sub.logToEvent cLog = .ok (some read) ∧
    EthereumSub.eventToClaim { sub with valAddr := validator } read = .ok (some claim)

/-- What a report says about the event. -/
structure Stated (sub : EthereumSub) (event : BankEvent) (claim : EthBridgeClaim) (name : LogName)
    (arguments : LogArguments) : Prop where
  logged : argumentsOf event = some (name, arguments)
  id_eq : claim.oracleID = depositID sub arguments
  amount_eq : claim.amount.val = arguments.value.toNat
  denom_eq : ∀ receiver token, (⟨receiver, claim.amount, claim.symbol, token, claim.claimType⟩ :
    OracleClaimContent).denom = some (depositDenom sub arguments name)
  lower : claim.claimType = .lock → claim.symbol = sub.texts.toLower arguments.symbol

/-- What a validator reports states the log with its arguments. -/
theorem Reports.stated {validator : Oracle.ValAddress}
    (distinct : sub.abi.eventID .logBurn ≠ sub.abi.eventID .logLock)
    (reports : Reports sub validator event claim) :
    ∃ name arguments, Stated sub event claim name arguments := by
  obtain ⟨cLog, read, ⟨name, arguments, logged, topic, unpacked⟩, parsed, made⟩ := reports
  obtain ⟨topics, data⟩ := cLog
  cases topics with
  | nil => cases topic
  | cons first rest =>
    obtain rfl : first = sub.abi.eventID name := Option.some.inj topic
    have named : sub.eventName (sub.abi.eventID name) = some name := by
      unfold EthereumSub.eventName
      cases name with
      | logBurn => rw [if_pos rfl]
      | logLock => rw [if_neg distinct.symm, if_pos rfl]
    have present : Outcome.present (sub.abi.unpack name data)
        (.error (.register "abi" 0 "abi: cannot unpack")) = .ok arguments :=
      Outcome.present_ok.mpr unpacked
    simp only [EthereumSub.logToEvent, named, present, Result.bind_ok, Result.pure_ok,
      Except.ok.injEq, Option.some.injEq] at parsed
    obtain ⟨_, rfl, rfl⟩ := parsed
    simp only [EthereumSub.eventToClaim, ethereumEventToEthBridgeClaim, Result.bind_ok,
      Result.pure_ok, SInt.ofInt_ok, Option.some.injEq] at made
    obtain ⟨claim, ⟨recipient, -, -, -, symbol, chosen, amount, value, rfl⟩, rfl⟩ := made
    refine ⟨name, arguments, logged, rfl, value, fun receiver token => ?_, fun kind => ?_⟩
    · cases name with
      | logBurn =>
        simp only [claimSymbol, if_true, Result.pure_ok] at chosen
        exact congrArg some chosen.symm
      | logLock =>
        simp only [claimSymbol, reduceCtorEq, if_false, Result.bind_ok, Result.pure_ok] at chosen
        obtain ⟨-, -, lowered⟩ := chosen
        exact congrArg (fun text => some (peggedCoinPrefix ++ text)) lowered.symm
    · cases name with
      | logBurn => cases kind
      | logLock =>
        simp only [claimSymbol, reduceCtorEq, if_false, Result.bind_ok, Result.pure_ok] at chosen
        obtain ⟨-, -, lowered⟩ := chosen
        exact lowered.symm

end Reports

section Honesty

variable {env : Oracle.Environment} {context : Oracle.Context} {state : Oracle.State}
  {honest : Oracle.ValAddress → Bool}

/-- The power of the bonded validators that are not honest. -/
def dishonestPower (staking : Oracle.Staking) (honest : Oracle.ValAddress → Bool) : Nat :=
  ((staking.bondedValidators.filter fun validator => !honest validator.operator).map
    Oracle.Validator.getConsensusPower).sum

/-- The others cannot make a prophecy succeed. -/
def Outvoted (env : Oracle.Environment) (staking : Oracle.Staking)
    (whiteList : List Oracle.ValAddress) (honest : Oracle.ValAddress → Bool) : Prop :=
  dishonestPower staking honest * env.consensusNeeded.denominator <
    env.consensusNeeded.numerator * Oracle.eligiblePower staking whiteList

/-- The prophecy that a processed claim leaves is the one it has voted in. -/
theorem processed_prophecy {claim : Oracle.Claim} {address : Oracle.ValAddress}
    {ballots : List (Oracle.ValAddress × String)} {after : Oracle.Prophecy}
    {result : Oracle.State × Oracle.Status}
    (voted : Oracle.Voted env context state claim address ballots after result) :
    result.1.prophecyOrNew env.codec claim.id = after := by
  rw [voted.written, ← voted.id_eq]
  exact Oracle.prophecyOrNew_set_same _ _

/-- A success has been claimed by an honest validator. -/
theorem honest_voter {claim : Oracle.Claim} {address : Oracle.ValAddress}
    {before : Oracle.Prophecy} {result : Oracle.State × Oracle.Status} {final : String}
    (processed : Oracle.Processed env context state claim address before result)
    (recorded : Oracle.Recorded env.codec state)
    (outvoted : Outvoted env context.staking state.whiteList honest)
    (success : (result.1.prophecyOrNew env.codec claim.id).status = ⟨.success, final⟩) :
    ∃ validator, honest validator = true ∧
      (result.1.prophecyOrNew env.codec claim.id).validatorClaims.get (env.codec.text validator) =
        some final := by
  obtain ⟨ballots, after, voted⟩ := processed.voted recorded
  have pending := processed.pending
  obtain ⟨winner, -, -, status⟩ :=
    Oracle.processCompletion_status voted.added (by simp) state.whiteList
  rw [processed.found] at pending
  rw [processed_prophecy voted] at success ⊢
  rw [← voted.completed, success] at status
  obtain ⟨rfl, reached⟩ := Oracle.reached_of_success pending status.symm
  have held := Oracle.le_of_reachedBy reached
  rw [← voted.recorded.tally_eq] at held
  by_contra nobody
  have dishonest : Oracle.listedPower context.staking (after.validatorsOf winner) ≤
      dishonestPower context.staking honest := by
    refine @Oracle.listedPower_le_class _ _ (voted.recorded.distinct winner)
      (fun voter => !honest voter) fun voter listed _ => ?_
    rw [Bool.not_eq_true']
    by_contra trusted
    refine nobody ⟨voter, Bool.not_eq_false _ ▸ trusted, ?_⟩
    rw [voted.recorded.contents]
    exact voted.recorded.mem_validatorsOf.mp listed
  unfold Outvoted at outvoted
  have scaled := Nat.mul_le_mul_right env.consensusNeeded.denominator dishonest
  omega

/-- The claims of a prophecy after one more. -/
theorem processed_claims {claim : Oracle.Claim} {address : Oracle.ValAddress}
    {before : Oracle.Prophecy} {result : Oracle.State × Oracle.Status}
    (processed : Oracle.Processed env context state claim address before result)
    (recorded : Oracle.Recorded env.codec state) :
    (result.1.prophecyOrNew env.codec claim.id).validatorClaims =
      (state.prophecyOrNew env.codec claim.id).validatorClaims.set (env.codec.text address)
        claim.content := by
  obtain ⟨ballots, after, voted⟩ := processed.voted recorded
  rw [processed_prophecy voted, voted.completed, Oracle.processCompletion_eq]
  rfl

end Honesty

section Truth

variable {env : Environment} {sub : EthereumSub} {honest : Oracle.ValAddress → Bool}
  {events : List BankEvent} {context : Context} {state next : State}

/-- A report of a logged event makes a claim with an id and a content. -/
def Deposited (env : Environment) (sub : EthereumSub) (events : List BankEvent)
    (id content : String) : Prop :=
  ∃ event ∈ events, ∃ validator claim oracleClaim, Reports sub validator event claim ∧
    createOracleClaimFromEthClaim env.chain env.contents claim = .ok oracleClaim ∧
    oracleClaim.id = id ∧ oracleClaim.content = content

/-- Honest claims and successes are about logged deposits. -/
structure Truthful (env : Environment) (sub : EthereumSub) (honest : Oracle.ValAddress → Bool)
    (events : List BankEvent) (state : State) : Prop where
  sound : Sound env state
  stored : state.oracle.prophecies.All fun key db => ∃ prophecy : Oracle.Prophecy,
    key = Oracle.prophecyKey prophecy.id ∧ db = prophecy.serializeForDB env.oracle.codec
  claims : ∀ id validator content, honest validator = true →
    (prophecyOf env state id).validatorClaims.get (env.oracle.codec.text validator) =
      some content → Deposited env sub events id content
  successes : ∀ id final, (prophecyOf env state id).status = ⟨.success, final⟩ →
    Deposited env sub events id final

/-- An honest validator claims what its relayer reports. -/
def HonestClaim (env : Environment) (sub : EthereumSub) (honest : Oracle.ValAddress → Bool)
    (events : List BankEvent) (claim : EthBridgeClaim) : Prop :=
  ∀ validator, honest validator = true →
    claim.validatorAddress = env.oracle.codec.text validator →
    ∃ event ∈ events, Reports sub validator event claim

/-- What is true of a log stays so when the log grows. -/
theorem Truthful.mono {more : List BankEvent} (truthful : Truthful env sub honest events state)
    (grows : events ⊆ more) : Truthful env sub honest more state := by
  have lifted : ∀ {id content}, Deposited env sub events id content →
      Deposited env sub more id content := by
    rintro id content ⟨event, listed, deposited⟩
    exact ⟨event, grows listed, deposited⟩
  exact ⟨truthful.sound, truthful.stored, fun id validator content trusted held =>
    lifted (truthful.claims id validator content trusted held),
    fun id final success => lifted (truthful.successes id final success)⟩

/-- What is true of the prophecies does not depend on the rest of the state. -/
theorem Truthful.congr (truthful : Truthful env sub honest events state)
    (same : next.oracle.prophecies = state.oracle.prophecies) :
    Truthful env sub honest events next := by
  have kept : ∀ id, prophecyOf env next id = prophecyOf env state id :=
    Oracle.prophecyOrNew_congr same
  refine ⟨truthful.sound.congr same, by rw [same]; exact truthful.stored, fun id => ?_,
    fun id => ?_⟩
  · rw [kept]
    exact truthful.claims id
  · rw [kept]
    exact truthful.successes id

/-- A claim that is not about something else than a deposit if its validator is honest. -/
theorem Truthful.claimed {claim : EthBridgeClaim} {oracleClaim : Oracle.Claim}
    {status : Oracle.Status} (truthful : Truthful env sub honest events state)
    (honestly : HonestClaim env sub honest events claim)
    (outvoted : Outvoted env.oracle context.oracle.staking state.oracle.whiteList honest)
    (made : createOracleClaimFromEthClaim env.chain env.contents claim = .ok oracleClaim)
    (claimed : Claimed env context state next claim oracleClaim status) :
    Truthful env sub honest events next := by
  have sound := truthful.sound
  have others := (Oracle.processClaim_advanced sound claimed.processed).others
  have signer : oracleClaim.validatorAddress = claim.validatorAddress := by
    simp only [createOracleClaimFromEthClaim, Result.bind_ok, Result.pure_ok] at made
    obtain ⟨receiver, -, rfl⟩ := made
    rfl
  obtain ⟨address, before, processed⟩ := Oracle.processClaim_ok.mp claimed.processed
  have written : (prophecyOf env next oracleClaim.id).validatorClaims = _ :=
    processed_claims processed sound
  have claims : ∀ id validator content, honest validator = true →
      (prophecyOf env next id).validatorClaims.get (env.oracle.codec.text validator) =
        some content → Deposited env sub events id content := by
    intro id validator content trusted held
    by_cases own : id = oracleClaim.id
    · subst own
      rw [written] at held
      by_cases voter : validator = address
      · subst voter
        rw [Store.get_set_same, Option.some.injEq] at held
        obtain ⟨event, listed, reports⟩ :=
          honestly validator trusted (signer.symm.trans processed.signer)
        exact ⟨event, listed, validator, claim, oracleClaim, reports, made, rfl, held⟩
      · have different : env.oracle.codec.text validator ≠ env.oracle.codec.text address :=
          fun same => voter (env.oracle.codec.text_injective same)
        rw [Store.get_set_other _ _ different] at held
        exact truthful.claims _ validator content trusted held
    · have kept : prophecyOf env next id = prophecyOf env state id := others id own
      rw [kept] at held
      exact truthful.claims id validator content trusted held
  have stored : next.oracle.prophecies.All fun key db => ∃ prophecy : Oracle.Prophecy,
      key = Oracle.prophecyKey prophecy.id ∧ db = prophecy.serializeForDB env.oracle.codec := by
    obtain ⟨ballots, after, voted⟩ := processed.voted sound
    have oracle : next.oracle = state.oracle.setProphecy env.oracle.codec after :=
      congrArg Prod.fst voted.written
    rw [oracle]
    exact truthful.stored.set ⟨after, rfl, rfl⟩
  refine ⟨sound.claimed claimed.processed, stored, claims, fun id final success => ?_⟩
  by_cases own : id = oracleClaim.id
  · subst own
    obtain ⟨validator, trusted, held⟩ := honest_voter processed sound outvoted success
    exact claims _ validator final trusted held
  · have kept : prophecyOf env next id = prophecyOf env state id := others id own
    rw [kept] at success
    exact truthful.successes id final success

end Truth

section Accounts

variable {env : Environment} {sub : EthereumSub} {honest : Oracle.ValAddress → Bool}
  {events : List BankEvent} {denom : Denom} {earlier : List String} {context : Context}
  {state next : State}

/-- What a stored prophecy has credited. -/
def creditValue (env : Environment) (denom : Denom) (prophecy : Oracle.DBProphecy) : Nat :=
  if prophecy.status.text = .success then
    (((env.contents.unmarshal prophecy.status.finalClaim).map (contentAmount denom)).getD 0).toNat
  else 0

/-- What a successful prophecy credits is the amount of its final content. -/
theorem creditValue_success {prophecy : Oracle.Prophecy}
    (success : prophecy.status.text = .success) :
    creditValue env denom (prophecy.serializeForDB env.oracle.codec) =
      (((env.contents.unmarshal prophecy.status.finalClaim).map (contentAmount denom)).getD
        0).toNat :=
  if_pos success

/-- What all prophecies have credited. -/
def credited (env : Environment) (denom : Denom) (state : State) : Nat :=
  state.oracle.prophecies.total fun _ prophecy => creditValue env denom prophecy

/-- What an executed message has withdrawn. -/
def withdrawnValue (denom : Denom) (receipt : Receipt) : Nat :=
  match withdrawalOf receipt.msg with
  | some (_, msg) => if msg.symbol = denom then msg.amount.val.toNat else 0
  | none => 0

/-- A stored prophecy is the one of its id. -/
theorem Truthful.prophecyOf_stored (truthful : Truthful env sub honest events state) {key : String}
    {db : Oracle.DBProphecy} (held : state.oracle.prophecies.get key = some db) :
    ∃ prophecy, key = Oracle.prophecyKey prophecy.id ∧
      db = prophecy.serializeForDB env.oracle.codec ∧ prophecyOf env state prophecy.id = prophecy := by
  obtain ⟨prophecy, rfl, rfl⟩ := truthful.stored key db held
  refine ⟨prophecy, rfl, rfl, ?_⟩
  have found : state.oracle.getProphecy env.oracle.codec prophecy.id = some prophecy := by
    rw [Oracle.State.getProphecy, held]
    exact Oracle.deserializeFromDB_serializeForDB env.oracle.codec prophecy
  rw [prophecyOf, Oracle.State.prophecyOrNew, found]
  rfl

/-- A claim raises a supply by what its prophecy credits. -/
theorem credited_claimed {claim : EthBridgeClaim} {oracleClaim : Oracle.Claim}
    {status : Oracle.Status} (truthful : Truthful env sub honest events state)
    (claimed : Claimed env context state next claim oracleClaim status) :
    next.bank.supply denom + credited env denom state =
      state.bank.supply denom + credited env denom next := by
  obtain ⟨address, before, processed⟩ := Oracle.processClaim_ok.mp claimed.processed
  obtain ⟨ballots, after, voted⟩ := processed.voted truthful.sound
  have pending := processed.pending
  rw [processed.found] at pending
  have oracle : next.oracle = state.oracle.setProphecy env.oracle.codec after :=
    congrArg Prod.fst voted.written
  have ended : status = after.status := congrArg Prod.snd voted.written
  have change := state.oracle.prophecies.total_change
    (fun _ prophecy => creditValue env denom prophecy) (Oracle.prophecyKey after.id)
    (after.serializeForDB env.oracle.codec)
  -- a pending prophecy has credited nothing
  have nothing : ((state.oracle.prophecies.get (Oracle.prophecyKey after.id)).map
      fun prophecy => creditValue env denom prophecy).getD 0 = 0 := by
    cases held : state.oracle.prophecies.get (Oracle.prophecyKey after.id) with
    | none => rfl
    | some db =>
      obtain ⟨prophecy, key, rfl, own⟩ := truthful.prophecyOf_stored held
      have same : prophecy.id = oracleClaim.id :=
        (Oracle.prophecyKey_injective key).symm.trans voted.id_eq
      have waiting : prophecy.status.text = .pending := by
        rw [← own, same]
        exact pending
      refine if_neg fun success => ?_
      have status : prophecy.status.text = .success := success
      rw [waiting] at status
      cases status
  have total : credited env denom next = credited env denom state +
      creditValue env denom (after.serializeForDB env.oracle.codec) := by
    unfold credited
    rw [oracle]
    change (state.oracle.prophecies.set _ _).total _ = _
    omega
  rw [total]
  by_cases success : status.text = .success
  · obtain ⟨content, minted, effect⟩ := claimed.paid success
    have raised : next.bank.supply denom = state.bank.supply denom + _ := effect.paid.supply denom
    have value : creditValue env denom (after.serializeForDB env.oracle.codec) =
        only minted content.amount.val.toNat denom := by
      have decoded := effect.decoded
      rw [ended] at decoded success
      rw [creditValue_success success, decoded, Option.map_some, Option.getD_some, contentAmount,
        effect.named]
      unfold only
      split_ifs with same named named
      · rfl
      · exact absurd (Option.some.inj same) named
      · exact absurd (congrArg some named) same
      · rfl
    omega
  · have value : creditValue env denom (after.serializeForDB env.oracle.codec) = 0 := by
      rw [ended] at success
      exact if_neg success
    rw [claimed.unpaid success, value]
    rfl

/-- The lower case of a text is the text. -/
def LowerCase (text : String) : Prop := toLower (utf8 text) = utf8 text

/-- A pegged token was pegged earlier or is in lower case. -/
def PeggedLower (earlier : List String) (token : String) : Prop :=
  token ∈ earlier ∨ LowerCase token

/-- Claims are about deposits, and what has been pegged is in lower case. -/
structure Good (env : Environment) (sub : EthereumSub) (honest : Oracle.ValAddress → Bool)
    (events : List BankEvent) (earlier : List String) (state : State) : Prop extends
    Truthful env sub honest events state where
  pegs : ∀ token ∈ state.peggyTokens, PeggedLower earlier token

/-- A checked message was handled and has emitted the events. -/
def Handled (env : Environment) (receipt : Receipt) : Prop :=
  receipt.msg.validateBasic = .ok () ∧ ∃ context state next,
    handle env context state receipt.msg = .ok (next, receipt.events)

/-- What messages leave: a supply moves by what they credit and withdraw, and only tokens in lower
case are burned, or such as were pegged earlier. -/
structure Accounted (env : Environment) (denom : Denom) (earlier : List String)
    (state next : State) (receipts : List Receipt) : Prop where
  supply : next.bank.supply denom + (receipts.map (withdrawnValue denom)).sum +
    credited env denom state = state.bank.supply denom + credited env denom next
  burns : ∀ receipt ∈ receipts, ∀ burned, receipt.msg = .burn burned →
    PeggedLower earlier burned.symbol
  handled : ∀ receipt ∈ receipts, Handled env receipt

/-- What the relayers and the codec of the contents guarantee. -/
structure Lawful (env : Environment) (sub : EthereumSub) : Prop where
  distinct : sub.abi.eventID .logBurn ≠ sub.abi.eventID .logLock
  lower : ∀ text, LowerCase (sub.texts.mapLower text)
  reads : ReadsBack env.contents

/-- A symbol in lower case stays so when it is lowered again. -/
theorem Lawful.toLower (lawful : Lawful env sub) (text : Bytes) :
    LowerCase (sub.texts.toLower text) := by
  unfold Texts.toLower
  split
  · next ascii =>
    have plain : ∀ byte ∈ text, byte < 128 := by simpa using ascii
    unfold LowerCase
    rw [Relayer.utf8_asciiText ((Relayer.toLower_small_iff text).mpr plain),
      Contracts.toLower_toLower]
  · exact lawful.lower text

/-- The denomination of a locked token is in lower case. -/
theorem LowerCase.pegged {text : String} (lower : LowerCase text) :
    LowerCase (peggedCoinPrefix ++ text) := by
  unfold LowerCase at lower ⊢
  have letter : Contracts.toLower (utf8 peggedCoinPrefix) = utf8 peggedCoinPrefix := by decide +kernel
  rw [utf8_append, Contracts.toLower, List.map_append]
  exact congrArg₂ _ letter lower

/-- The content of a deposit, as it is read back. -/
theorem Deposited.content (lawful : Lawful env sub) {id final : String}
    {content : OracleClaimContent} (deposited : Deposited env sub events id final)
    (decoded : env.contents.unmarshal final = some content) :
    ∃ event ∈ events, ∃ name arguments, argumentsOf event = some (name, arguments) ∧
      id = depositID sub arguments ∧ content.amount.val = arguments.value.toNat ∧
      content.denom = some (depositDenom sub arguments name) ∧
      (content.claimType = .lock → LowerCase content.symbol) := by
  obtain ⟨event, listed, validator, claim, oracleClaim, reports, made, rfl, rfl⟩ := deposited
  obtain ⟨name, arguments, stated⟩ := reports.stated lawful.distinct
  simp only [createOracleClaimFromEthClaim, Result.bind_ok, Result.pure_ok] at made
  obtain ⟨receiver, -, rfl⟩ := made
  obtain rfl := lawful.reads _ _ decoded
  refine ⟨event, listed, name, arguments, stated.logged, stated.id_eq, stated.amount_eq,
    stated.denom_eq _ _, fun kind => ?_⟩
  have lowered : claim.symbol = _ := stated.lower kind
  change LowerCase claim.symbol
  rw [lowered]
  exact lawful.toLower _

end Accounts

section Messages

variable {env : Environment} {sub : EthereumSub} {honest : Oracle.ValAddress → Bool}
  {events : List BankEvent} {denom : Denom} {earlier : List String} {context : Context}
  {state next : State}

/-- One message of a transaction. -/
def msgStep (env : Environment) (context : Context) (state : State) : ChainMsg → Outcome State
  | .bridge msg => do
    let handled ← handle env context state msg
    pure handled.1
  | .foreign msg => msg.run state

/-- A claim is honest if its validator is, and meets too little power of the others; a message of
another module leaves the bridge's records and the supply. -/
def Admits (env : Environment) (sub : EthereumSub) (honest : Oracle.ValAddress → Bool)
    (events : List BankEvent) (denom : Denom) (context : Context) (state : State) : ChainMsg → Prop
  | .bridge (.createEthBridgeClaim claim) => HonestClaim env sub honest events claim ∧
    Outvoted env.oracle context.oracle.staking state.oracle.whiteList honest
  | .bridge _ => True
  | .foreign msg => ∀ next, msg.run state = .ok next → next.oracle = state.oracle ∧
    next.peggyTokens = state.peggyTokens ∧ next.bank.supply denom = state.bank.supply denom

/-- A claim that is handled is the oracle claim that is made of it. -/
theorem createEthBridgeClaim_made {claim : EthBridgeClaim} {emitted : List Event}
    (handled : createEthBridgeClaim env context state claim = .ok (next, emitted)) :
    ∃ oracleClaim status,
      createOracleClaimFromEthClaim env.chain env.contents claim = .ok oracleClaim ∧
      Claimed env context state next claim oracleClaim status := by
  simp only [createEthBridgeClaim, processClaim, Result.bind_ok, Result.pure_ok,
    Prod.mk.injEq] at handled
  obtain ⟨result, ⟨oracleClaim, made, advanced, processed, rfl⟩, middle, paid, rfl, -⟩ := handled
  exact ⟨oracleClaim, advanced.2, made, (claimed_of_processed made processed paid).2⟩

/-- Adding a token lists this one and those before. -/
theorem mem_addPeggyToken {token other : String} (listed : other ∈ (state.addPeggyToken token).peggyTokens) :
    other ∈ state.peggyTokens ∨ other = token := by
  unfold State.addPeggyToken at listed
  split at listed
  · exact .inl listed
  · rw [List.mem_append, List.mem_singleton] at listed
    exact listed

/-- An honest or outvoted claim keeps the credits good. -/
theorem Good.claimed (lawful : Lawful env sub) {claim : EthBridgeClaim}
    {oracleClaim : Oracle.Claim} {status : Oracle.Status} (good : Good env sub honest events earlier state)
    (honestly : HonestClaim env sub honest events claim)
    (outvoted : Outvoted env.oracle context.oracle.staking state.oracle.whiteList honest)
    (made : createOracleClaimFromEthClaim env.chain env.contents claim = .ok oracleClaim)
    (claimed : Claimed env context state next claim oracleClaim status) :
    Good env sub honest events earlier next := by
  have truthful := good.toTruthful.claimed honestly outvoted made claimed
  refine ⟨truthful, fun token listed => ?_⟩
  by_cases success : status.text = .success
  · obtain ⟨content, minted, effect⟩ := claimed.paid success
    rw [effect.pegged] at listed
    split at listed
    · next lock =>
      rcases mem_addPeggyToken listed with before | rfl
      · exact good.pegs token before
      · -- the new token is that of a deposit
        have advanced := Oracle.processClaim_advanced good.sound claimed.processed
        have reached : (prophecyOf env next oracleClaim.id).status =
            ⟨.success, status.finalClaim⟩ := by
          rw [← success]
          exact advanced.status_eq
        obtain ⟨-, -, -, -, -, -, -, -, lower⟩ :=
          (truthful.successes _ _ reached).content lawful effect.decoded
        have named := effect.named
        rw [OracleClaimContent.denom, lock, Option.some.injEq] at named
        rw [← named]
        exact .inr (lower lock).pegged
    · exact good.pegs token listed
  · rw [claimed.unpaid success] at listed
    exact good.pegs token listed

/-- A message that leaves the prophecies and the pegs. -/
theorem Good.congr (good : Good env sub honest events earlier state)
    (prophecies : next.oracle.prophecies = state.oracle.prophecies)
    (pegs : next.peggyTokens = state.peggyTokens) : Good env sub honest events earlier next := by
  refine ⟨good.toTruthful.congr prophecies, ?_⟩
  rw [pegs]
  exact good.pegs

/-- What is credited is said by the prophecies. -/
theorem credited_congr (prophecies : next.oracle.prophecies = state.oracle.prophecies) :
    credited env denom next = credited env denom state := by
  rw [credited, prophecies]
  rfl

/-- One receipt that balances is accounted for. -/
theorem Accounted.single {receipt : Receipt}
    (supply : next.bank.supply denom + withdrawnValue denom receipt + credited env denom state =
      state.bank.supply denom + credited env denom next)
    (burns : ∀ burned, receipt.msg = .burn burned → PeggedLower earlier burned.symbol)
    (handled : Handled env receipt) : Accounted env denom earlier state next [receipt] := by
  refine ⟨?_, fun other listed => ?_, fun other listed => ?_⟩
  · rw [List.map_singleton, List.sum_singleton]
    exact supply
  · rw [List.mem_singleton.mp listed]
    exact burns
  · rw [List.mem_singleton.mp listed]
    exact handled

/-- A withdrawal lowers the supply by what it names. -/
theorem withdrawn_accounted {msg : Msg} {emitted : List Event} {kind : EventKind}
    {withdrawal : MsgLock} {sender : AccAddress} (named : withdrawalOf msg = some (kind, withdrawal))
    (withdrawn : Withdrawn env state next sender withdrawal)
    (burns : ∀ burned, msg = .burn burned → PeggedLower earlier burned.symbol)
    (handled : Handled env ⟨msg, emitted⟩) : Accounted env denom earlier state next [⟨msg, emitted⟩] := by
  have lowered := withdrawn.supply denom
  have prophecies : next.oracle.prophecies = state.oracle.prophecies := by rw [withdrawn.rest]
  have value : withdrawnValue denom ⟨msg, emitted⟩ =
      only withdrawal.symbol withdrawal.amount.val.toNat denom := by
    rw [withdrawnValue, named]
    rfl
  refine .single ?_ burns handled
  rw [credited_congr prophecies, value]
  omega

/-- A withdrawal keeps the credits good. -/
theorem withdrawn_good {sender : AccAddress} {withdrawal : MsgLock}
    (good : Good env sub honest events earlier state)
    (withdrawn : Withdrawn env state next sender withdrawal) : Good env sub honest events earlier next :=
  good.congr (by rw [withdrawn.rest]) (by rw [withdrawn.rest])

/-- What one message of the bridge leaves. -/
theorem handle_good (lawful : Lawful env sub) {msg : Msg} {emitted : List Event}
    (good : Good env sub honest events earlier state) (valid : msg.validateBasic = .ok ())
    (admits : Admits env sub honest events denom context state (.bridge msg))
    (handled : handle env context state msg = .ok (next, emitted)) :
    Good env sub honest events earlier next ∧ Accounted env denom earlier state next [⟨msg, emitted⟩] := by
  have record : Handled env ⟨msg, emitted⟩ := ⟨valid, context, state, next, handled⟩
  have quiet : withdrawalOf msg = none → next.oracle.prophecies = state.oracle.prophecies →
      next.peggyTokens = state.peggyTokens → next.bank.supply = state.bank.supply →
      Good env sub honest events earlier next ∧ Accounted env denom earlier state next [⟨msg, emitted⟩] := by
    intro other prophecies pegs supply
    refine ⟨good.congr prophecies pegs, .single ?_ (fun burned is => ?_) record⟩
    · rw [credited_congr prophecies, supply, withdrawnValue, other, Nat.add_zero]
    · have burn : msg = .burn burned := is
      rw [burn] at other
      cases other
  have effect := handle_effect valid handled
  cases effect with
  | claim claim _ _ _ =>
    obtain ⟨oracleClaim, status, made, claimed⟩ := createEthBridgeClaim_made handled
    refine ⟨good.claimed lawful admits.1 admits.2 made claimed,
      .single ?_ (fun burned is => ?_) record⟩
    · exact credited_claimed good.toTruthful claimed
    · cases is
  | lock lock sender unpegged withdrawn =>
    exact ⟨withdrawn_good good withdrawn,
      withdrawn_accounted rfl withdrawn (fun burned is => by cases is) record⟩
  | burn burn sender pegged withdrawn =>
    refine ⟨withdrawn_good good withdrawn,
      withdrawn_accounted rfl withdrawn (fun burned is => ?_) record⟩
    cases is
    apply good.pegs
    simpa [State.existsPeggyToken] using pegged
  | whiteList msg prophecies rest =>
    exact quiet rfl prophecies (by rw [rest]) (by rw [rest])
  | cethReceiver msg rest =>
    exact quiet rfl (by rw [rest]) (by rw [rest]) (by rw [rest])
  | rescue msg receiver unblocked supply balance rest =>
    exact quiet rfl (by rw [rest]) (by rw [rest]) supply
  | blacklist msg rest =>
    exact quiet rfl (by rw [rest]) (by rw [rest]) (by rw [rest])

/-- Two runs in a row are accounted for together. -/
theorem Accounted.trans {middle : State} {first second : List Receipt}
    (left : Accounted env denom earlier state middle first)
    (right : Accounted env denom earlier middle next second) :
    Accounted env denom earlier state next (first ++ second) := by
  have before := left.supply
  have after := right.supply
  refine ⟨?_, fun receipt listed => ?_, fun receipt listed => ?_⟩
  · rw [List.map_append, List.sum_append]
    omega
  · rcases List.mem_append.mp listed with earlier | later
    · exact left.burns receipt earlier
    · exact right.burns receipt later
  · rcases List.mem_append.mp listed with earlier | later
    · exact left.handled receipt earlier
    · exact right.handled receipt later

/-- Where nothing happens all is accounted for. -/
theorem Accounted.nothing : Accounted env denom earlier state state [] :=
  ⟨rfl, fun _ absent => absurd absent List.not_mem_nil,
    fun _ absent => absurd absent List.not_mem_nil⟩

/-- What the messages of a transaction leave, one after the other. -/
theorem runMsgs_good (lawful : Lawful env sub) {msgs : List ChainMsg}
    {result : State × List Receipt} (good : Good env sub honest events earlier state)
    (valid : ∀ msg ∈ msgs, msg.validateBasic = .ok ())
    (admits : Meets (msgStep env context) (Admits env sub honest events denom context) state msgs)
    (executed : runMsgs env context state msgs = .ok result) :
    Good env sub honest events earlier result.1 ∧ Accounted env denom earlier state result.1 result.2 := by
  induction msgs generalizing state result with
  | nil =>
    cases executed
    exact ⟨good, .nothing⟩
  | cons msg rest ih =>
    have laterValid : ∀ msg ∈ rest, msg.validateBasic = .ok () :=
      fun msg member => valid msg (List.mem_cons_of_mem _ member)
    have own := valid msg List.mem_cons_self
    cases msg with
    | bridge msg =>
      simp only [runMsgs, Result.bind_ok, Result.pure_ok] at executed
      obtain ⟨handled, first, later, run, rfl⟩ := executed
      have stepped : msgStep env context state (.bridge msg) = .ok handled.1 := by
        simp only [msgStep, Result.bind_ok, Result.pure_ok]
        exact ⟨handled, first, rfl⟩
      obtain ⟨middle, accounted⟩ := handle_good lawful good own admits.1 first
      have remaining := admits.2
      rw [attempt_ok stepped] at remaining
      obtain ⟨final, others⟩ := ih middle laterValid remaining run
      exact ⟨final, accounted.trans others⟩
    | foreign msg =>
      simp only [runMsgs, Result.bind_ok] at executed
      obtain ⟨middle, first, run⟩ := executed
      obtain ⟨oracle, pegs, supply⟩ := admits.1 middle first
      have remaining := admits.2
      rw [attempt_ok (show msgStep env context state (.foreign msg) = .ok middle from first)]
        at remaining
      have prophecies : middle.oracle.prophecies = state.oracle.prophecies := by rw [oracle]
      obtain ⟨final, others⟩ := ih (good.congr prophecies pegs) laterValid remaining run
      refine ⟨final, ?_, others.burns, others.handled⟩
      have moved := others.supply
      rw [supply, credited_congr prophecies] at moved
      exact moved

/-- The messages of a transaction are admitted in the state they run in. -/
def AdmitsTx (env : Environment) (sub : EthereumSub) (honest : Oracle.ValAddress → Bool)
    (events : List BankEvent) (denom : Denom) (state : State) (tx : Tx) : Prop :=
  ∀ checked, ante env state tx.msgs = .ok checked →
    Meets (msgStep env tx.context) (Admits env sub honest events denom tx.context) checked tx.msgs

/-- The checks of a transaction change sequences only. -/
theorem ante_rest {msgs : List ChainMsg} {checked : State}
    (passed : ante env state msgs = .ok checked) :
    checked = { state with accounts := checked.accounts } := by
  simp only [ante, Result.bind_ok, Result.pure_ok] at passed
  obtain ⟨-, -, -, -, signers, -, -, -, rfl⟩ := passed
  rfl

/-- What a transaction leaves. -/
theorem deliverTx_good (lawful : Lawful env sub) {tx : Tx} (good : Good env sub honest events earlier state)
    (admits : AdmitsTx env sub honest events denom state tx) :
    Good env sub honest events earlier (deliverTx env state tx).1 ∧
      Accounted env denom earlier state (deliverTx env state tx).1 (deliverTx env state tx).2 := by
  have nothing : Accounted env denom earlier state state [] := .nothing
  cases checking : ante env state tx.msgs with
  | error fault =>
    simp only [deliverTx, checking]
    exact ⟨good, nothing⟩
  | ok checked =>
    have rest := ante_rest checking
    have ready : Good env sub honest events earlier checked :=
      good.congr (by rw [rest]) (by rw [rest])
    cases running : runMsgs env tx.context checked tx.msgs with
    | error fault =>
      simp only [deliverTx, checking, running]
      rw [rest] at ready ⊢
      exact ⟨ready, nothing.supply, nothing.burns, nothing.handled⟩
    | ok result =>
      simp only [deliverTx, checking, running]
      obtain ⟨final, accounted⟩ := runMsgs_good lawful ready (ante_checked checking).valid
        (admits checked checking) running
      refine ⟨final, ?_, accounted.burns, accounted.handled⟩
      have moved := accounted.supply
      rw [rest] at moved
      exact moved

end Messages

end Akhira.Verif.Network
