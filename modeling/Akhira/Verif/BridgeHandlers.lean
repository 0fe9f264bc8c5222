import Akhira.EthBridge.MsgServer
import Akhira.Verif.OracleProphecy

/-!
# What the messages of the bridge do

A claim advances one prophecy, and when that succeeds it mints what the final content
names. A lock or burn takes an amount and a fee from its sender, destroys the amount and
emits one event with the sequence of the sender. Every other message leaves the supplies.
-/
namespace Akhira.Verif.EthBridge

open Akhira.Base Akhira.Sdk Akhira.EthBridge

variable {env : Environment} {context : Context} {state next : State} {locked : Locked}

/-- An amount of one denomination, as an amount of every denomination. -/
def only (denom : Denom) (amount : Nat) (other : Denom) : Nat :=
  if denom = other then amount else 0

/-- The one denomination has the whole amount. -/
@[simp] theorem only_self (denom : Denom) (amount : Nat) : only denom amount denom = amount :=
  if_pos rfl

/-- Every other denomination has nothing. -/
theorem only_other {denom other : Denom} (different : denom ≠ other) (amount : Nat) :
    only denom amount other = 0 :=
  if_neg different

/-- A call that may panic succeeds as the call itself does. -/
@[simp] theorem orPanic_ok {α : Type} {call : Outcome α} {result : α} :
    orPanic call = .ok result ↔ call = .ok result := by
  match call with
  | .ok value => simp [orPanic]
  | .error (.error error) => simp [orPanic]
  | .error (.panic reason) => simp [orPanic]

/-- Decoding an address succeeds with what the chain reads. -/
@[simp] theorem decode_ok {text : String} {address : AccAddress} :
    env.chain.decode text = .ok address ↔ env.chain.accAddressFromBech32 text = some address :=
  Outcome.present_ok

section Coins

variable {coins : Coins}

/-- A coin is made of an amount that is not negative, with its denomination. -/
theorem newCoin_amount {denom : Denom} {amount : SInt} {coin : Coin}
    (made : Coin.newCoin denom amount = .ok coin) :
    0 ≤ amount.val ∧ coin.denom = denom ∧ coin.amount = amount.val.toNat := by
  obtain ⟨sameDenom, sameAmount⟩ := Coin.newCoin_ok made
  exact ⟨by omega, sameDenom, by omega⟩

/-- One coin is what it was made of. -/
theorem coinsOf_single {denom : Denom} {amount : SInt}
    (made : coinsOf [(denom, amount)] = .ok coins) :
    0 ≤ amount.val ∧ ∀ other, coins.amountOf other = only denom amount.val.toNat other := by
  simp only [coinsOf, List.mapM_cons, List.mapM_nil, Result.bind_ok, Result.pure_ok] at made
  obtain ⟨list, ⟨coin, made, rest, rfl, rfl⟩, collected⟩ := made
  obtain ⟨sign, sameDenom, sameAmount⟩ := newCoin_amount made
  refine ⟨sign, fun other => ?_⟩
  rw [(Coins.newCoins_ok collected).2, Coins.amountOf_cons, Coins.amountOf_nil, sameDenom,
    sameAmount, Nat.add_zero, only]

/-- Two coins are what they were made of. -/
theorem coinsOf_pair {left right : Denom} {leftAmount rightAmount : SInt}
    (made : coinsOf [(left, leftAmount), (right, rightAmount)] = .ok coins) (other : Denom) :
    coins.amountOf other =
      only left leftAmount.val.toNat other + only right rightAmount.val.toNat other := by
  simp only [coinsOf, List.mapM_cons, List.mapM_nil, Result.bind_ok, Result.pure_ok] at made
  obtain ⟨list, ⟨first, firstMade, tail, ⟨second, secondMade, rest, rfl, rfl⟩, rfl⟩, collected⟩ :=
    made
  obtain ⟨-, firstDenom, firstAmount⟩ := newCoin_amount firstMade
  obtain ⟨-, secondDenom, secondAmount⟩ := newCoin_amount secondMade
  rw [(Coins.newCoins_ok collected).2, Coins.amountOf_cons, Coins.amountOf_cons,
    Coins.amountOf_nil, firstDenom, firstAmount, secondDenom, secondAmount, Nat.add_zero, only,
    only]

end Coins

section Claims

/-- Coins of one denomination came into being at a receiver. -/
structure Paid (before after : Bank) (receiver : AccAddress) (denom : Denom) (amount : Nat) :
    Prop where
  supply : ∀ other, after.supply other = before.supply other + only denom amount other
  balance : ∀ address other, after.ledger.balance address other =
    before.ledger.balance address other + Ledger.share receiver address (only denom amount other)

/-- What a successful claim leaves. -/
structure Minted (env : Environment) (state next : State) (claim : String)
    (content : OracleClaimContent) (denom : Denom) : Prop where
  decoded : env.contents.unmarshal claim = some content
  named : content.denom = some denom
  nonnegative : 0 ≤ content.amount.val
  unblocked : env.chain.blockedAddr content.cosmosReceiver = false
  paid : Paid state.bank next.bank content.cosmosReceiver denom content.amount.val.toNat
  pegged : next.peggyTokens = (if content.claimType = .lock then state.addPeggyToken denom
    else state).peggyTokens
  rest : next = { state with bank := next.bank, peggyTokens := next.peggyTokens }

/-- Adding a token changes the list of tokens only. -/
theorem addPeggyToken_rest (state : State) (token : String) :
    state.addPeggyToken token =
      { state with peggyTokens := (state.addPeggyToken token).peggyTokens } := by
  unfold State.addPeggyToken
  split <;> rfl

/-- A successful claim pays its receiver with new coins. -/
theorem processSuccessfulClaim_ok {claim : String}
    (processed : processSuccessfulClaim env locked state claim = .ok next) :
    ∃ content denom, Minted env state next claim content denom := by
  simp only [processSuccessfulClaim, createOracleClaimFromOracleString, Result.bind_ok,
    Result.pure_ok, Outcome.present_ok, orPanic_ok] at processed
  obtain ⟨content, decoded, denom, named, coins, made, minted, mint, bank, sent, result⟩ :=
    processed
  obtain ⟨nonnegative, held⟩ := coinsOf_single made
  -- listing a new pegged token touches nothing else
  have listed : (if content.claimType = .lock then state.addPeggyToken denom else state) =
      { state with peggyTokens := (if content.claimType = .lock then state.addPeggyToken denom
        else state).peggyTokens } := by
    split
    · exact addPeggyToken_rest state denom
    · rfl
  have sameBank : (if content.claimType = .lock then state.addPeggyToken denom else state).bank =
      state.bank := by rw [listed]
  rw [sameBank] at mint
  have credited := Bank.mintCoins_ok mint
  obtain ⟨unblocked, sameSupply, moved⟩ := Bank.fromModule_ok sent
  have paid : Paid state.bank bank content.cosmosReceiver denom content.amount.val.toNat := by
    refine ⟨fun other => ?_, fun address other => ?_⟩
    · rw [sameSupply, credited.2, held]
    · have now := moved address other
      have before := credited.1 address other
      rw [held] at now before
      omega
  rw [listed] at result
  subst result
  exact ⟨content, denom, decoded, named, nonnegative, unblocked, paid, rfl, rfl⟩

/-- What a claim does. -/
structure Claimed (env : Environment) (context : Context) (state next : State)
    (claim : EthBridgeClaim) (oracleClaim : Oracle.Claim) (status : Oracle.Status) : Prop where
  id_eq : oracleClaim.id = claim.oracleID
  content_eq : ∃ receiver, oracleClaim.content = env.contents.marshal ⟨receiver, claim.amount,
    claim.symbol, hexToAddress claim.tokenContractAddress, claim.claimType⟩
  processed : Oracle.processClaim env.oracle context.oracle state.oracle oracleClaim =
    .ok (next.oracle, status)
  unpaid : status.text ≠ .success → next = { state with oracle := next.oracle }
  paid : status.text = .success → ∃ content denom,
    Minted env { state with oracle := next.oracle } next status.finalClaim content denom

/-- A processed claim that is paid when it succeeds. -/
theorem claimed_of_processed {claim : EthBridgeClaim} {oracleClaim : Oracle.Claim}
    {oracle : Oracle.State} {status : Oracle.Status}
    (made : createOracleClaimFromEthClaim env.chain env.contents claim = .ok oracleClaim)
    (processed : Oracle.processClaim env.oracle context.oracle state.oracle oracleClaim =
      .ok (oracle, status))
    (paid : (if status.text = .success then
        processSuccessfulClaim env context.locked { state with oracle } status.finalClaim
      else pure { state with oracle }) = .ok next) :
    next.oracle = oracle ∧ Claimed env context state next claim oracleClaim status := by
  simp only [createOracleClaimFromEthClaim, Result.bind_ok, Result.pure_ok] at made
  obtain ⟨receiver, -, rfl⟩ := made
  split at paid
  · next success =>
    obtain ⟨content, denom, minted⟩ := processSuccessfulClaim_ok paid
    have sameOracle : next.oracle = oracle := congrArg State.oracle minted.rest
    refine ⟨sameOracle, rfl, ⟨receiver, rfl⟩, ?_, fun failed => absurd success failed, fun _ => ?_⟩
    · rw [sameOracle]
      exact processed
    · rw [sameOracle]
      exact ⟨content, denom, minted⟩
  · next unsuccessful =>
    rw [Result.pure_ok] at paid
    subst paid
    exact ⟨rfl, rfl, ⟨receiver, rfl⟩, processed, fun _ => rfl,
      fun success => absurd success unsuccessful⟩

/-- A claim that is handled is recorded by the oracle, and pays when its prophecy succeeds. -/
theorem createEthBridgeClaim_ok {claim : EthBridgeClaim} {events : List Event}
    (handled : createEthBridgeClaim env context state claim = .ok (next, events)) :
    ∃ oracleClaim status, Claimed env context state next claim oracleClaim status := by
  simp only [createEthBridgeClaim, processClaim, Result.bind_ok, Result.pure_ok,
    Prod.mk.injEq] at handled
  obtain ⟨result, ⟨oracleClaim, made, advanced, processed, rfl⟩, middle, paid, rfl, -⟩ := handled
  exact ⟨oracleClaim, advanced.2, (claimed_of_processed made processed paid).2⟩

end Claims

section Withdrawals

/-- Where the fee of a lock or burn goes. -/
def feeTarget (env : Environment) (state : State) : AccAddress :=
  (state.getCethReceiverAccount env.chain).getD (env.chain.moduleAddress moduleName)

/-- What a lock or burn leaves: the amount is gone and the fee is at its target. -/
structure Withdrawn (env : Environment) (state next : State) (sender : AccAddress)
    (msg : MsgLock) : Prop where
  positive : 0 ≤ msg.amount.val
  supply : ∀ denom, next.bank.supply denom + only msg.symbol msg.amount.val.toNat denom =
    state.bank.supply denom
  balance : ∀ address denom, next.bank.ledger.balance address denom +
      Ledger.share sender address (only msg.symbol msg.amount.val.toNat denom +
        only cethSymbol msg.cethAmount.val.toNat denom) =
    state.bank.ledger.balance address denom +
      Ledger.share (feeTarget env state) address (only cethSymbol msg.cethAmount.val.toNat denom)
  rest : next = { state with bank := next.bank }

/-- The amount is at the module and the fee at its target. -/
theorem payCeth_ok {sender : AccAddress} {fee : SInt} {withReceiver withoutReceiver : Outcome Coins}
    {bank : Bank} {taken : Denom → Nat}
    (paid : payCeth env locked state sender fee withReceiver withoutReceiver = .ok bank)
    (alone : ∀ coins, withReceiver = .ok coins → ∀ denom, coins.amountOf denom = taken denom)
    (together : ∀ coins, withoutReceiver = .ok coins → ∀ denom,
      coins.amountOf denom = taken denom + only cethSymbol fee.val.toNat denom) :
    bank.supply = state.bank.supply ∧ ∀ address denom, bank.ledger.balance address denom +
        Ledger.share sender address (taken denom + only cethSymbol fee.val.toNat denom) =
      state.bank.ledger.balance address denom +
        Ledger.share (feeTarget env state) address (only cethSymbol fee.val.toNat denom) +
        Ledger.share (env.chain.moduleAddress moduleName) address (taken denom) := by
  unfold payCeth at paid
  unfold feeTarget
  cases set : state.getCethReceiverAccount env.chain with
  | some receiver =>
    simp only [set, Result.bind_ok, Result.pure_ok] at paid
    obtain ⟨pair, ⟨coins, made, feePaid, sent, rest, given, rfl⟩, received⟩ := paid
    obtain ⟨-, held⟩ := coinsOf_single made
    obtain ⟨firstSupply, first⟩ := Bank.sendCoins_ok sent
    obtain ⟨secondSupply, second⟩ := Bank.toModule_ok received
    refine ⟨secondSupply.trans firstSupply, fun address denom => ?_⟩
    have feeMoved := first address denom
    have amountMoved := second address denom
    dsimp only at amountMoved
    rw [held] at feeMoved
    rw [alone rest given] at amountMoved
    rw [Ledger.share_add, Option.getD_some]
    omega
  | none =>
    simp only [set, Result.bind_ok, Result.pure_ok] at paid
    obtain ⟨pair, ⟨coins, given, rfl⟩, received⟩ := paid
    obtain ⟨sameSupply, moved⟩ := Bank.toModule_ok received
    refine ⟨sameSupply, fun address denom => ?_⟩
    have allMoved := moved address denom
    dsimp only at allMoved
    rw [together coins given, Ledger.share_add, Ledger.share_add] at allMoved
    rw [Ledger.share_add, Option.getD_none]
    omega

/-- Burning the amount at the module finishes a lock or burn. -/
theorem withdrawn_of_burned {sender : AccAddress} {msg : MsgLock} {paid burned : Bank}
    {coins : Coins} (made : coinsOf [(msg.symbol, msg.amount)] = .ok coins)
    (payment : paid.supply = state.bank.supply ∧ ∀ address denom, paid.ledger.balance address denom +
        Ledger.share sender address (only msg.symbol msg.amount.val.toNat denom +
          only cethSymbol msg.cethAmount.val.toNat denom) =
      state.bank.ledger.balance address denom +
        Ledger.share (feeTarget env state) address
          (only cethSymbol msg.cethAmount.val.toNat denom) +
        Ledger.share (env.chain.moduleAddress moduleName) address
          (only msg.symbol msg.amount.val.toNat denom))
    (burning : paid.burnCoins env.chain locked moduleName coins = .ok burned) :
    Withdrawn env state { state with bank := burned } sender msg := by
  obtain ⟨positive, held⟩ := coinsOf_single made
  obtain ⟨debited, lowered⟩ := Bank.burnCoins_ok burning
  refine ⟨positive, fun denom => ?_, fun address denom => ?_, rfl⟩
  · have supplied := lowered denom
    rw [held, payment.1] at supplied
    exact supplied
  · have gone := debited address denom
    have moved := payment.2 address denom
    rw [held] at gone
    change burned.ledger.balance address denom + _ = _
    omega

/-- A lock that is processed withdraws its coins. -/
theorem processLock_ok {sender : AccAddress} {msg : MsgLock}
    (processed : processLock env locked state sender msg = .ok next) :
    Withdrawn env state next sender msg := by
  simp only [processLock, Result.bind_ok, Result.pure_ok] at processed
  obtain ⟨-, -, paid, payment, coins, made, burned, burning, rfl⟩ := processed
  refine withdrawn_of_burned made (payCeth_ok payment ?_ ?_) burning
  · exact fun coins made => (coinsOf_single made).2
  · exact fun coins made => coinsOf_pair made

/-- A burn that is processed withdraws its coins. -/
theorem processBurn_ok {sender : AccAddress} {msg : MsgBurn} (fee : 0 ≤ msg.cethAmount.val)
    (processed : processBurn env locked state sender msg = .ok next) :
    Withdrawn env state next sender msg.toMsgLock := by
  simp only [processBurn, Result.bind_ok, Result.pure_ok] at processed
  obtain ⟨-, -, paid, payment, coins, made, burned, burning, rfl⟩ := processed
  have positive := (coinsOf_single made).1
  refine withdrawn_of_burned made (payCeth_ok payment ?_ ?_) burning
  · exact fun coins made => (coinsOf_single made).2
  · intro coins given denom
    split at given
    · -- the amount and the fee are one coin when the burned token is ceth itself
      next same =>
      rw [Result.bind_ok] at given
      obtain ⟨sum, added, given⟩ := given
      rw [SInt.add_ok] at added
      have value : sum.val.toNat = msg.amount.val.toNat + msg.cethAmount.val.toNat := by omega
      rw [(coinsOf_single given).2, value, same]
      unfold only
      split <;> rfl
    · exact coinsOf_pair given denom

/-- What a lock or burn finds and emits. -/
structure Emitted (env : Environment) (state : State) (type : String) (msg : MsgLock)
    (sender : AccAddress) (sequence : Nat) (events : List Event) : Prop where
  signed : env.chain.accAddressFromBech32 msg.cosmosSender = some sender
  account : state.accounts sender = some sequence
  events_eq : events = [messageEvent msg.cosmosSender, withdrawalEvent type msg sequence]

/-- A handled lock is of a token that is not pegged, is logged, and withdraws its coins. -/
theorem lock_ok {msg : MsgLock} {events : List Event}
    (handled : lock env context state msg = .ok (next, events)) :
    state.existsPeggyToken msg.symbol = false ∧ ∃ sender sequence,
      Emitted env state "lock" msg sender sequence events ∧
        Withdrawn env state next sender msg := by
  simp only [lock, getAccount, Result.bind_ok, Result.pure_ok, Outcome.require_ok,
    Outcome.present_ok, decode_ok, Prod.mk.injEq] at handled
  obtain ⟨-, unpegged, sender, signed, sequence, account, middle, processed, rfl, rfl⟩ := handled
  exact ⟨unpegged, sender, sequence, ⟨signed, account, rfl⟩, processLock_ok processed⟩

/-- A handled burn is of a pegged token, is logged, and withdraws its coins. -/
theorem burn_ok {msg : MsgBurn} {events : List Event} (fee : 0 ≤ msg.cethAmount.val)
    (handled : burn env context state msg = .ok (next, events)) :
    state.existsPeggyToken msg.symbol = true ∧ ∃ sender sequence,
      Emitted env state "burn" msg.toMsgLock sender sequence events ∧
        Withdrawn env state next sender msg.toMsgLock := by
  simp only [burn, getAccount, Result.bind_ok, Result.pure_ok, Outcome.require_ok,
    Outcome.present_ok, decode_ok, Prod.mk.injEq] at handled
  obtain ⟨-, pegged, sender, signed, sequence, account, middle, processed, rfl, rfl⟩ := handled
  exact ⟨pegged, sender, sequence, ⟨signed, account, rfl⟩, processBurn_ok fee processed⟩

end Withdrawals

section Administration

/-- An update of the white list leaves the prophecies and all but the oracle alone. -/
theorem updateWhiteListValidator_ok {msg : MsgUpdateWhiteListValidator} {events : List Event}
    (handled : updateWhiteListValidator env state msg = .ok (next, events)) :
    next.oracle.prophecies = state.oracle.prophecies ∧
      next = { state with oracle := next.oracle } := by
  simp only [updateWhiteListValidator, getAccount, Result.bind_ok, Result.pure_ok,
    Outcome.present_ok, decode_ok, Prod.mk.injEq] at handled
  obtain ⟨sender, -, sequence, -, validator, -, oracle, updated, rfl, -⟩ := handled
  exact ⟨Oracle.processUpdateWhiteListValidator_ok updated, rfl⟩

/-- An update of the fee receiver changes nothing else. -/
theorem updateCethReceiverAccount_ok {msg : MsgUpdateCethReceiverAccount} {events : List Event}
    (handled : updateCethReceiverAccount env state msg = .ok (next, events)) :
    next = { state with cethReceiverAccount := next.cethReceiverAccount } := by
  simp only [updateCethReceiverAccount, processUpdateCethReceiverAccount, getAccount,
    Result.bind_ok, Result.pure_ok, Outcome.present_ok, decode_ok, Prod.mk.injEq] at handled
  obtain ⟨sender, -, receiver, -, sequence, -, middle, ⟨-, -, rfl⟩, rfl, -⟩ := handled
  rfl

/-- Rescued ceth leaves the module account. -/
theorem rescueCeth_ok {msg : MsgRescueCeth} {events : List Event}
    (handled : rescueCeth env context state msg = .ok (next, events)) :
    next = { state with bank := next.bank } ∧ next.bank.supply = state.bank.supply ∧
      ∃ receiver, env.chain.blockedAddr receiver = false ∧ ∀ address denom,
        next.bank.ledger.balance address denom +
            Ledger.share (env.chain.moduleAddress moduleName) address
              (only cethSymbol msg.cethAmount.val.toNat denom) =
          state.bank.ledger.balance address denom +
            Ledger.share receiver address (only cethSymbol msg.cethAmount.val.toNat denom) := by
  simp only [rescueCeth, processRescueCeth, getAccount, Result.bind_ok, Result.pure_ok,
    Outcome.present_ok, decode_ok, Prod.mk.injEq] at handled
  obtain ⟨sender, -, sequence, -, middle, ⟨admin, -, receiver, -, -, -, coins, made, bank, sent,
    rfl⟩, rfl, -⟩ := handled
  obtain ⟨unblocked, sameSupply, moved⟩ := Bank.fromModule_ok sent
  have held := (coinsOf_single made).2
  refine ⟨rfl, sameSupply, receiver, unblocked, fun address denom => ?_⟩
  have here := moved address denom
  rw [held] at here
  exact here

/-- An update of the black list changes nothing else. -/
theorem setBlacklist_ok {msg : MsgSetBlacklist}
    (handled : setBlacklist env context state msg = .ok next) :
    next = { state with blacklist := next.blacklist } := by
  simp only [setBlacklist, Result.bind_ok, Result.pure_ok] at handled
  obtain ⟨sender, -, -, -, rfl⟩ := handled
  rfl

end Administration

/-- The fee of a burn is at least its gas cost. -/
theorem burn_fee {msg : MsgBurn} (valid : msg.validateBasic = .ok ()) : 0 ≤ msg.cethAmount.val := by
  simp only [MsgBurn.validateBasic, Result.bind_ok, Outcome.require_ok] at valid
  obtain ⟨-, -, -, -, -, -, -, -, -, -, -, -, -, -, -, enough, -⟩ := valid
  exact (Int.natCast_nonneg burnGasCost).trans enough

/-- What each message of the module can do. -/
inductive Effect (env : Environment) (context : Context) (state next : State) : Msg → Prop where
  | claim (claim : EthBridgeClaim) (oracleClaim : Oracle.Claim) (status : Oracle.Status)
      (claimed : Claimed env context state next claim oracleClaim status) :
      Effect env context state next (.createEthBridgeClaim claim)
  | lock (msg : MsgLock) (sender : AccAddress)
      (unpegged : state.existsPeggyToken msg.symbol = false)
      (withdrawn : Withdrawn env state next sender msg) : Effect env context state next (.lock msg)
  | burn (msg : MsgBurn) (sender : AccAddress)
      (pegged : state.existsPeggyToken msg.symbol = true)
      (withdrawn : Withdrawn env state next sender msg.toMsgLock) :
      Effect env context state next (.burn msg)
  | whiteList (msg : MsgUpdateWhiteListValidator)
      (prophecies : next.oracle.prophecies = state.oracle.prophecies)
      (rest : next = { state with oracle := next.oracle }) :
      Effect env context state next (.updateWhiteListValidator msg)
  | cethReceiver (msg : MsgUpdateCethReceiverAccount)
      (rest : next = { state with cethReceiverAccount := next.cethReceiverAccount }) :
      Effect env context state next (.updateCethReceiverAccount msg)
  | rescue (msg : MsgRescueCeth) (receiver : AccAddress)
      (unblocked : env.chain.blockedAddr receiver = false)
      (supply : next.bank.supply = state.bank.supply)
      (balance : ∀ address denom, next.bank.ledger.balance address denom +
          Ledger.share (env.chain.moduleAddress moduleName) address
            (only cethSymbol msg.cethAmount.val.toNat denom) =
        state.bank.ledger.balance address denom +
          Ledger.share receiver address (only cethSymbol msg.cethAmount.val.toNat denom))
      (rest : next = { state with bank := next.bank }) :
      Effect env context state next (.rescueCeth msg)
  | blacklist (msg : MsgSetBlacklist)
      (rest : next = { state with blacklist := next.blacklist }) :
      Effect env context state next (.setBlacklist msg)

/-- Every message that is handled has the effect of its kind. -/
theorem handle_effect {msg : Msg} {events : List Event} (valid : msg.validateBasic = .ok ())
    (handled : handle env context state msg = .ok (next, events)) :
    Effect env context state next msg := by
  cases msg with
  | lock msg =>
    obtain ⟨unpegged, sender, sequence, -, withdrawn⟩ := lock_ok handled
    exact .lock msg sender unpegged withdrawn
  | burn msg =>
    obtain ⟨pegged, sender, sequence, -, withdrawn⟩ := burn_ok (burn_fee valid) handled
    exact .burn msg sender pegged withdrawn
  | createEthBridgeClaim claim =>
    obtain ⟨oracleClaim, status, claimed⟩ := createEthBridgeClaim_ok handled
    exact .claim claim oracleClaim status claimed
  | updateWhiteListValidator msg =>
    obtain ⟨prophecies, rest⟩ := updateWhiteListValidator_ok handled
    exact .whiteList msg prophecies rest
  | updateCethReceiverAccount msg =>
    exact .cethReceiver msg (updateCethReceiverAccount_ok handled)
  | rescueCeth msg =>
    obtain ⟨rest, supply, receiver, unblocked, balance⟩ := rescueCeth_ok handled
    exact .rescue msg receiver unblocked supply balance rest
  | setBlacklist msg =>
    simp only [handle, Result.bind_ok, Result.pure_ok, Prod.mk.injEq] at handled
    obtain ⟨middle, set, rfl, -⟩ := handled
    exact .blacklist msg (setBlacklist_ok set)

/-- Every message that is delivered has the effect of its kind. -/
theorem deliver_effect {delivery : Delivery} (delivered : deliver env state delivery = .ok next) :
    Effect env delivery.context state next delivery.msg := by
  simp only [deliver, Result.bind_ok, Result.pure_ok] at delivered
  obtain ⟨done, valid, result, handled, rfl⟩ := delivered
  exact handle_effect valid handled

end Akhira.Verif.EthBridge
