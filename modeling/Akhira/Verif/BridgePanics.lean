import Akhira.Sdk.Backed
import Akhira.Verif.Withdrawals

/-!
# When a lock or burn panics

A lock and a burn take an amount and a fee in `ceth`, with or without an account that receives the
fee. The coins are made by constructors that panic on a denomination they do not know or find twice,
and a sum past 256 bits panics; nothing else does as long as the bank keeps its invariants.
-/
namespace Akhira.Verif.EthBridge

open Akhira.Base Akhira.Sdk Akhira.Sdk.Outcome Akhira.EthBridge

variable {env : Environment} {context : Context} {state next : State} {locked : Locked}
  {sender : AccAddress}

section Coins

variable {denom left right : Denom} {amount leftAmount rightAmount : SInt}

/-- A coin of an amount that is not negative is made unless its denomination is not valid. -/
theorem newCoin_neverPanics (sign : 0 ≤ amount.val) :
    (NeverPanics (Coin.newCoin denom amount) ↔ validDenom denom = true) ∧
      (validDenom denom = true → ∃ coin, Coin.newCoin denom amount = .ok coin) := by
  unfold Coin.newCoin
  by_cases valid : validDenom denom = true
  · rw [dif_pos valid, dif_pos sign]
    exact ⟨iff_of_true Result.Blames.ok valid, fun _ => ⟨_, rfl⟩⟩
  · rw [dif_neg valid]
    exact ⟨iff_of_false not_neverPanics_crash valid, fun holds => absurd holds valid⟩

/-- The coins that are made are valid. -/
theorem coinsOf_isValid {amounts : List (Denom × SInt)} {coins : Coins}
    (made : coinsOf amounts = .ok coins) : coins.isValid = true := by
  simp only [coinsOf, Result.bind_ok] at made
  obtain ⟨list, -, collected⟩ := made
  exact (Coins.newCoins_ok collected).1

/-- One coin always makes coins. -/
theorem newCoins_single (coin : Coin) : ∃ coins, Coins.newCoins [coin] = .ok coins := by
  unfold Coins.newCoins Coins.removeZeroCoins
  by_cases zero : coin.amount = 0
  · simp [zero, Coins.isValid]
  · simp [zero, Coins.isValid]

/-- Two coins that are not zero are collected unless they share a denomination. -/
theorem newCoins_pair {first second : Coin} (firstSome : first.amount ≠ 0)
    (secondSome : second.amount ≠ 0) :
    NeverPanics (Coins.newCoins [first, second]) ↔ first.denom ≠ second.denom := by
  have kept : Coins.removeZeroCoins [first, second] = [first, second] := by
    simp [Coins.removeZeroCoins, firstSome, secondSome]
  have valid : Coins.isValid ([first, second].insertionSort fun left right =>
      left.denom ≤ right.denom) = decide (first.denom ≠ second.denom) := by
    have some : [first, second].all (fun coin => coin.amount ≠ 0) = true ∧
        [second, first].all (fun coin => coin.amount ≠ 0) = true := by
      simp [firstSome, secondSome]
    by_cases ordered : first.denom ≤ second.denom
    · have sorted : [first, second].insertionSort (fun left right => left.denom ≤ right.denom) =
          [first, second] := by simp [List.insertionSort, ordered]
      rw [sorted, Coins.isValid, some.1, Bool.and_true, decide_eq_decide, List.pairwise_pair]
      exact ordered.lt_iff_ne
    · have below := lt_of_not_ge ordered
      have sorted : [first, second].insertionSort (fun left right => left.denom ≤ right.denom) =
          [second, first] := by simp [List.insertionSort, List.orderedInsert, ordered]
      rw [sorted, Coins.isValid, some.2, Bool.and_true, decide_eq_decide, List.pairwise_pair]
      exact iff_of_true below below.ne'
  unfold Coins.newCoins
  dsimp only
  rw [kept, valid]
  by_cases different : first.denom ≠ second.denom
  · rw [if_pos (decide_eq_true different)]
    exact iff_of_true Result.Blames.ok different
  · rw [if_neg (by simpa using different)]
    exact iff_of_false not_neverPanics_crash different

/-- One coin is made of every denomination that the rule admits. -/
theorem coinsOf_single_neverPanics (sign : 0 ≤ amount.val) :
    (NeverPanics (coinsOf [(denom, amount)]) ↔ validDenom denom = true) ∧
      (validDenom denom = true → ∃ coins, coinsOf [(denom, amount)] = .ok coins) := by
  obtain ⟨clean, makes⟩ := @newCoin_neverPanics denom amount sign
  have made : coinsOf [(denom, amount)] =
      (Coin.newCoin denom amount >>= fun coin => Coins.newCoins [coin]) := by
    simp only [coinsOf, List.mapM_cons, List.mapM_nil, bind_assoc, pure_bind]
  rw [made]
  constructor
  · rw [neverPanics_bind, clean]
    refine and_iff_left fun coin _ => ?_
    obtain ⟨coins, collected⟩ := newCoins_single coin
    rw [collected]
    exact Result.Blames.ok
  · intro valid
    obtain ⟨coin, new⟩ := makes valid
    obtain ⟨coins, collected⟩ := newCoins_single coin
    exact ⟨coins, Result.bind_ok.mpr ⟨coin, new, collected⟩⟩

/-- Two coins are made of different denominations that the rule admits. -/
theorem coinsOf_pair_neverPanics (first : 0 < leftAmount.val) (second : 0 < rightAmount.val) :
    NeverPanics (coinsOf [(left, leftAmount), (right, rightAmount)]) ↔
      validDenom left = true ∧ validDenom right = true ∧ left ≠ right := by
  obtain ⟨leftClean, leftMakes⟩ := @newCoin_neverPanics left leftAmount first.le
  obtain ⟨rightClean, rightMakes⟩ := @newCoin_neverPanics right rightAmount second.le
  have made : coinsOf [(left, leftAmount), (right, rightAmount)] =
      (Coin.newCoin left leftAmount >>= fun one => Coin.newCoin right rightAmount >>= fun two =>
        Coins.newCoins [one, two]) := by
    simp only [coinsOf, List.mapM_cons, List.mapM_nil, bind_assoc, pure_bind]
  have collects : ∀ one two, Coin.newCoin left leftAmount = .ok one →
      Coin.newCoin right rightAmount = .ok two →
        (NeverPanics (Coins.newCoins [one, two]) ↔ left ≠ right) := by
    intro one two oneMade twoMade
    obtain ⟨-, oneDenom, oneAmount⟩ := newCoin_amount oneMade
    obtain ⟨-, twoDenom, twoAmount⟩ := newCoin_amount twoMade
    rw [newCoins_pair (by omega) (by omega), oneDenom, twoDenom]
  rw [made, neverPanics_bind, leftClean]
  simp only [neverPanics_bind, rightClean]
  constructor
  · rintro ⟨leftValid, later⟩
    obtain ⟨one, oneMade⟩ := leftMakes leftValid
    obtain ⟨rightValid, last⟩ := later one oneMade
    obtain ⟨two, twoMade⟩ := rightMakes rightValid
    exact ⟨leftValid, rightValid, (collects one two oneMade twoMade).mp (last two twoMade)⟩
  · rintro ⟨leftValid, rightValid, different⟩
    exact ⟨leftValid, fun one oneMade => ⟨rightValid, fun two twoMade =>
      (collects one two oneMade twoMade).mpr different⟩⟩

end Coins

section Payments

/-- The sender can spend the fee. -/
def feeCovered (locked : Locked) (state : State) (sender : AccAddress) (fee : SInt) : Prop :=
  locked sender cethSymbol + fee.val.toNat ≤ state.bank.ledger.balance sender cethSymbol

/-- Whether the fee is covered is decided by comparing balances. -/
instance (locked : Locked) (state : State) (sender : AccAddress) (fee : SInt) :
    Decidable (feeCovered locked state sender fee) := inferInstanceAs (Decidable (_ ≤ _))

/-- Pegged ether is a valid denomination. -/
theorem ceth_valid : validDenom cethSymbol = true := by decide

/-- Coins of one denomination are spendable as that denomination is. -/
theorem spendable_single {denom : Denom} {amount : SInt} {coins : Coins} {ledger : Ledger}
    (positive : 0 < amount.val) (made : coinsOf [(denom, amount)] = .ok coins) :
    Ledger.Spendable locked ledger sender coins ↔
      locked sender denom + amount.val.toNat ≤ ledger.balance sender denom := by
  obtain ⟨-, held⟩ := coinsOf_single made
  have distinct := Coins.distinct_of_isValid (coinsOf_isValid made)
  constructor
  · intro spendable
    have own := held denom
    rw [only_self] at own
    by_contra short
    by_cases listed : ∃ coin ∈ coins, coin.denom = denom
    · obtain ⟨coin, member, rfl⟩ := listed
      rw [distinct.amountOf_eq member] at own
      have covered := spendable coin member
      omega
    · rw [Coins.amountOf_eq_zero fun coin member same => listed ⟨coin, member, same⟩] at own
      omega
  · intro covered coin member
    have amount := held coin.denom
    rw [distinct.amountOf_eq member] at amount
    have some := List.all_eq_true.mp (Bool.and_eq_true_iff.mp (coinsOf_isValid made)).2 coin member
    by_cases same : denom = coin.denom
    · rw [same, only_self] at amount
      rw [← same]
      omega
    · rw [only_other same] at amount
      simp [amount] at some

/-- What the bank keeps between messages. -/
structure Kept (locked : Locked) (bank : Bank) : Prop where
  backed : bank.Backed
  vested : bank.ledger.Vested locked

/-- A send keeps the bank as it is kept between messages. -/
theorem Kept.sent {bank paid : Bank} {recipient : AccAddress} {coins : Coins}
    (kept : Kept locked bank) (sent : bank.sendCoins locked sender recipient coins = .ok paid) :
    Kept locked paid := by
  refine ⟨kept.backed.sent sent, ?_⟩
  simp only [Bank.sendCoins, Result.bind_ok, Result.pure_ok] at sent
  obtain ⟨ledger, moved, rfl⟩ := sent
  exact kept.vested.sent moved

/-- The payment panics as its coins do; with a receiver they are made once the fee is paid. -/
theorem payCeth_neverPanics {fee : SInt} {withReceiver withoutReceiver : Outcome Coins}
    (kept : Kept locked state.bank) (positive : 0 < fee.val)
    (alone : ∀ coins, withReceiver = .ok coins → coins.isValid = true)
    (together : ∀ coins, withoutReceiver = .ok coins → coins.isValid = true) :
    NeverPanics (payCeth env locked state sender fee withReceiver withoutReceiver) ↔
      match state.getCethReceiverAccount env.chain with
      | some _ => feeCovered locked state sender fee → NeverPanics withReceiver
      | none => NeverPanics withoutReceiver := by
  have toModule : ∀ (bank : Bank) (coins : Coins), Kept locked bank → coins.isValid = true →
      NeverPanics (bank.sendCoinsFromAccountToModule env.chain locked sender moduleName coins) :=
    fun bank coins kept valid => (kept.backed.sends kept.vested valid).1
  cases set : state.getCethReceiverAccount env.chain with
  | none =>
    unfold payCeth
    rw [set]
    dsimp only
    rw [neverPanics_bind, neverPanics_bind]
    constructor
    · exact fun clean => clean.1.1
    · intro clean
      refine ⟨⟨clean, fun _ _ => Result.Blames.ok⟩, ?_⟩
      intro pair made
      rw [Result.bind_ok] at made
      obtain ⟨coins, given, same⟩ := made
      cases same
      exact toModule state.bank coins kept (together coins given)
  | some receiver =>
    obtain ⟨feeCoins, feeMade⟩ := (@coinsOf_single_neverPanics cethSymbol fee positive.le).2 ceth_valid
    obtain ⟨clean, sends⟩ := @Bank.Backed.sends locked state.bank sender receiver feeCoins
      kept.backed kept.vested (coinsOf_isValid feeMade)
    rw [spendable_single positive feeMade] at sends
    have steps : payCeth env locked state sender fee withReceiver withoutReceiver =
        (state.bank.sendCoins locked sender receiver feeCoins >>= fun bank => withReceiver >>=
          fun coins => bank.sendCoinsFromAccountToModule env.chain locked sender moduleName
            coins) := by
      unfold payCeth
      rw [set]
      dsimp only
      rw [feeMade]
      simp only [bind_assoc, pure_bind]
      rfl
    dsimp only
    rw [steps, neverPanics_bind, and_iff_right clean]
    constructor
    · intro later covered
      obtain ⟨bank, sent⟩ := sends.mpr covered
      exact (neverPanics_bind.mp (later bank sent)).1
    · intro made bank sent
      refine neverPanics_bind.mpr ⟨made (sends.mp ⟨bank, sent⟩), fun coins given => ?_⟩
      exact toModule bank coins (kept.sent sent) (alone coins given)

/-- How a payment was made. -/
inductive Payment (env : Environment) (locked : Locked) (state : State) (sender : AccAddress)
    (fee : SInt) (withReceiver withoutReceiver : Outcome Coins) (bank : Bank) : Prop
  | separate {receiver : AccAddress} {feeCoins coins : Coins} {middle : Bank}
    (set : state.getCethReceiverAccount env.chain = some receiver)
    (feeMade : coinsOf [(cethSymbol, fee)] = .ok feeCoins)
    (feeSent : state.bank.sendCoins locked sender receiver feeCoins = .ok middle)
    (made : withReceiver = .ok coins)
    (sent : middle.sendCoins locked sender (env.chain.moduleAddress moduleName) coins = .ok bank)
  | together {coins : Coins} (unset : state.getCethReceiverAccount env.chain = none)
    (made : withoutReceiver = .ok coins)
    (sent : state.bank.sendCoins locked sender (env.chain.moduleAddress moduleName) coins = .ok bank)

/-- The fee is paid to the receiver that is set, or else to the module. -/
theorem payCeth_cases {fee : SInt} {withReceiver withoutReceiver : Outcome Coins} {bank : Bank}
    (paid : payCeth env locked state sender fee withReceiver withoutReceiver = .ok bank) :
    Payment env locked state sender fee withReceiver withoutReceiver bank := by
  unfold payCeth at paid
  cases set : state.getCethReceiverAccount env.chain with
  | some receiver =>
    simp only [set, Result.bind_ok, Result.pure_ok] at paid
    obtain ⟨-, ⟨feeCoins, feeMade, middle, feeSent, coins, made, rfl⟩, sent⟩ := paid
    exact .separate set feeMade feeSent made sent
  | none =>
    simp only [set, Result.bind_ok, Result.pure_ok] at paid
    obtain ⟨-, ⟨coins, made, rfl⟩, sent⟩ := paid
    exact .together set made sent

/-- The recipient of a send owns at least what was sent. -/
theorem received_of_sent {bank paid : Bank} {recipient : AccAddress} {coins : Coins}
    (sent : bank.sendCoins locked sender recipient coins = .ok paid) (denom : Denom) :
    coins.amountOf denom ≤ paid.ledger.balance recipient denom := by
  simp only [Bank.sendCoins, Result.bind_ok, Result.pure_ok] at sent
  obtain ⟨ledger, moved, rfl⟩ := sent
  exact Ledger.received_le moved denom

/-- The sender of a send owned at least what was sent above what is locked. -/
theorem covered_of_sent {bank paid : Bank} {recipient : AccAddress} {coins : Coins}
    (sent : bank.sendCoins locked sender recipient coins = .ok paid) (denom : Denom) :
    coins.amountOf denom ≤ bank.ledger.balance sender denom - locked sender denom := by
  simp only [Bank.sendCoins, Result.bind_ok, Result.pure_ok] at sent
  obtain ⟨ledger, moved, -⟩ := sent
  exact Ledger.sent_le moved denom

variable {fee : SInt} {withReceiver withoutReceiver : Outcome Coins} {bank : Bank}
  {taken : Denom → Nat}

/-- A payment leaves the amount at the module and the invariants in place. -/
theorem Payment.held (kept : Kept locked state.bank)
    (payment : Payment env locked state sender fee withReceiver withoutReceiver bank)
    (alone : ∀ coins, withReceiver = .ok coins → ∀ denom, coins.amountOf denom = taken denom)
    (together : ∀ coins, withoutReceiver = .ok coins → ∀ denom,
      coins.amountOf denom = taken denom + only cethSymbol fee.val.toNat denom) :
    Kept locked bank ∧ ∀ denom,
      taken denom ≤ bank.ledger.balance (env.chain.moduleAddress moduleName) denom := by
  cases payment with
  | separate _ _ feeSent made sent =>
    refine ⟨(kept.sent feeSent).sent sent, fun denom => ?_⟩
    rw [← alone _ made denom]
    exact received_of_sent sent denom
  | together _ made sent =>
    refine ⟨kept.sent sent, fun denom => ?_⟩
    have arrived := received_of_sent sent denom
    rw [together _ made denom] at arrived
    omega

/-- A sender that does not receive the fee covered the amount and the fee. -/
theorem Payment.covered
    (payment : Payment env locked state sender fee withReceiver withoutReceiver bank)
    (alone : ∀ coins, withReceiver = .ok coins → ∀ denom, coins.amountOf denom = taken denom)
    (together : ∀ coins, withoutReceiver = .ok coins → ∀ denom,
      coins.amountOf denom = taken denom + only cethSymbol fee.val.toNat denom)
    (apart : state.getCethReceiverAccount env.chain ≠ some sender) (denom : Denom) :
    taken denom + only cethSymbol fee.val.toNat denom ≤
      state.bank.ledger.balance sender denom - locked sender denom := by
  cases payment with
  | @separate receiver _ _ _ set feeMade feeSent made sent =>
    have different : sender ≠ receiver := by
      rintro rfl
      exact apart set
    have feeCovers := covered_of_sent feeSent denom
    have covers := covered_of_sent sent denom
    have moved := (Bank.sendCoins_ok feeSent).2 sender denom
    rw [Ledger.share_self, Ledger.share_other different] at moved
    rw [(coinsOf_single feeMade).2] at moved feeCovers
    rw [alone _ made denom] at covers
    omega
  | together _ made sent =>
    have covers := covered_of_sent sent denom
    rwa [together _ made denom] at covers

end Payments

section Handlers

/-- What a lock and a burn do alike, up to the check of the token and the coins that amount and fee
are together. -/
def withdraw (env : Environment) (context : Context) (state : State) (tokenCheck : Outcome Unit)
    (type : String) (msg : MsgLock) (together : Outcome Coins) : Outcome (State × List Event) := do
  tokenCheck
  let cosmosSender ← env.chain.decode msg.cosmosSender
  let sequence ← getAccount state cosmosSender (errInvalidAddress.wrap msg.cosmosSender)
  let state ← (do
    Outcome.require (state.isBlacklisted msg.ethereumReceiver = false) errInvalidEthAddress
    let bank ← payCeth env context.locked state cosmosSender msg.cethAmount
      (coinsOf [(msg.symbol, msg.amount)]) together
    let coins ← coinsOf [(msg.symbol, msg.amount)]
    let bank ← bank.burnCoins env.chain context.locked moduleName coins
    pure { state with bank })
  pure (state, [messageEvent msg.cosmosSender, withdrawalEvent type msg sequence])

/-- A lock is a withdrawal of tokens that are not pegged. -/
theorem lock_eq (msg : MsgLock) : lock env context state msg =
    withdraw env context state
      (Outcome.require (state.existsPeggyToken msg.symbol = false)
        (.register "undefined" 1 ("Pegged token " ++ msg.symbol ++ " can't be lock."))) "lock" msg
      (coinsOf [(msg.symbol, msg.amount), (cethSymbol, msg.cethAmount)]) := rfl

/-- A burn is a withdrawal of tokens that are pegged. -/
theorem burn_eq (msg : MsgBurn) : burn env context state msg =
    withdraw env context state
      (Outcome.require (state.existsPeggyToken msg.symbol = true)
        (.register "undefined" 1 ("Native token " ++ msg.symbol ++ " can't be burn."))) "burn"
      msg.toMsgLock
      (if msg.symbol = cethSymbol then do
        let sum ← msg.cethAmount.add msg.amount
        coinsOf [(cethSymbol, sum)]
      else coinsOf [(msg.symbol, msg.amount), (cethSymbol, msg.cethAmount)]) := rfl

/-- Coins that hold the amount and the fee of a message. -/
structure Joins (msg : MsgLock) (coins : Coins) : Prop where
  valid : coins.isValid = true
  named : validDenom msg.symbol = true
  amounts : ∀ denom, coins.amountOf denom =
    only msg.symbol msg.amount.val.toNat denom + only cethSymbol msg.cethAmount.val.toNat denom

/-- Whether a message that passes the checks before the coins gets coins that do not panic, given
whether the coins without a fee receiver do not. -/
def admits (env : Environment) (context : Context) (state : State) (msg : MsgLock)
    (together : Bool) : Bool :=
  match env.chain.accAddressFromBech32 msg.cosmosSender with
  | none => true
  | some sender =>
    (state.accounts sender).isNone || state.isBlacklisted msg.ethereumReceiver ||
      match state.getCethReceiverAccount env.chain with
      | some _ => !decide (feeCovered context.locked state sender msg.cethAmount) ||
        validDenom msg.symbol
      | none => together

/-- Whether a lock is free of panics. -/
def lockAdmits (env : Environment) (context : Context) (state : State) (msg : MsgLock) : Bool :=
  state.existsPeggyToken msg.symbol ||
    admits env context state msg (validDenom msg.symbol && decide (msg.symbol ≠ cethSymbol))

/-- Whether a burn is free of panics. -/
def burnAdmits (env : Environment) (context : Context) (state : State) (msg : MsgBurn) : Bool :=
  !state.existsPeggyToken msg.symbol ||
    admits env context state msg.toMsgLock
      (if msg.symbol = cethSymbol then decide (msg.amount.val + msg.cethAmount.val < 2 ^ 256)
      else validDenom msg.symbol)

/-- A lock or burn as it should be: it does not panic, it takes the amount and the fee and nothing
else, and it returns an error when the sender cannot cover both. -/
structure Clean (env : Environment) (context : Context) (state : State) (msg : MsgLock)
    (result : Outcome (State × List Event)) : Prop where
  neverPanics : NeverPanics result
  effect : ∀ next events, result = .ok (next, events) →
    ∃ sender, env.chain.accAddressFromBech32 msg.cosmosSender = some sender ∧
      Withdrawn env state next sender msg
  uncovered : ∀ sender denom, env.chain.accAddressFromBech32 msg.cosmosSender = some sender →
    state.getCethReceiverAccount env.chain ≠ some sender →
    state.bank.ledger.balance sender denom - context.locked sender denom <
      only msg.symbol msg.amount.val.toNat denom + only cethSymbol msg.cethAmount.val.toNat denom →
    ∃ error, result = .error (.error error)

variable {msg : MsgLock} {tokenCheck : Outcome Unit} {type : String} {together : Outcome Coins}

/-- A withdrawal that succeeds was sent by an account, paid its fee and its coins, and is logged. -/
theorem withdraw_ok {events : List Event} (joins : ∀ coins, together = .ok coins → Joins msg coins)
    (handled : withdraw env context state tokenCheck type msg together = .ok (next, events)) :
    ∃ sender, env.chain.accAddressFromBech32 msg.cosmosSender = some sender ∧
      Withdrawn env state next sender msg ∧
      ∃ bank, Payment env context.locked state sender msg.cethAmount
        (coinsOf [(msg.symbol, msg.amount)]) together bank := by
  simp only [withdraw, getAccount, Result.bind_ok, Result.pure_ok, Outcome.present_ok, decode_ok,
    Prod.mk.injEq] at handled
  obtain ⟨-, -, sender, signed, sequence, account, middle,
    ⟨-, -, paid, payment, coins, made, burned, burning, rfl⟩, rfl, rfl⟩ := handled
  refine ⟨sender, signed, withdrawn_of_burned made (payCeth_ok payment ?_ ?_) burning, paid,
    payCeth_cases payment⟩
  · exact fun coins made => (coinsOf_single made).2
  · exact fun coins made => (joins coins made).amounts

/-- After the payment nothing fails. -/
theorem burn_succeeds {bank : Bank} (kept : Kept context.locked state.bank)
    (free : ∀ denom, context.locked (env.chain.moduleAddress moduleName) denom = 0)
    (positive : 0 < msg.amount.val) (joins : ∀ coins, together = .ok coins → Joins msg coins)
    (payment : Payment env context.locked state sender msg.cethAmount
      (coinsOf [(msg.symbol, msg.amount)]) together bank) :
    ∃ coins burned, coinsOf [(msg.symbol, msg.amount)] = .ok coins ∧
      bank.burnCoins env.chain context.locked moduleName coins = .ok burned := by
  have valid : validDenom msg.symbol = true := by
    cases payment with
    | separate _ _ _ made =>
      refine (coinsOf_single_neverPanics positive.le).1.mp ?_
      rw [made]
      exact Result.Blames.ok
    | together _ made => exact (joins _ made).named
  obtain ⟨paid, held⟩ := payment.held kept (fun coins made => (coinsOf_single made).2)
    (fun coins made => (joins coins made).amounts)
  obtain ⟨coins, made⟩ := (@coinsOf_single_neverPanics _ _ positive.le).2 valid
  obtain ⟨burned, burning⟩ := paid.backed.burns (coinsOf_isValid made) free fun denom => by
    rw [(coinsOf_single made).2]
    exact held denom
  exact ⟨coins, burned, made, burning⟩

/-- What follows the checks of a withdrawal panics only in making its coins. -/
theorem payAndBurn_neverPanics (kept : Kept context.locked state.bank)
    (free : ∀ denom, context.locked (env.chain.moduleAddress moduleName) denom = 0)
    (positive : 0 < msg.amount.val) (feePositive : 0 < msg.cethAmount.val)
    (joins : ∀ coins, together = .ok coins → Joins msg coins) :
    NeverPanics (do
      let bank ← payCeth env context.locked state sender msg.cethAmount
        (coinsOf [(msg.symbol, msg.amount)]) together
      let coins ← coinsOf [(msg.symbol, msg.amount)]
      let bank ← bank.burnCoins env.chain context.locked moduleName coins
      pure { state with bank }) ↔
      match state.getCethReceiverAccount env.chain with
      | some _ => feeCovered context.locked state sender msg.cethAmount →
        validDenom msg.symbol = true
      | none => NeverPanics together := by
  rw [neverPanics_bind, and_iff_left, payCeth_neverPanics kept feePositive
    (fun coins made => coinsOf_isValid made) (fun coins made => (joins coins made).valid),
    (coinsOf_single_neverPanics positive.le).1]
  intro bank paid
  obtain ⟨coins, burned, made, burning⟩ :=
    burn_succeeds kept free positive joins (payCeth_cases paid)
  rw [made]
  change NeverPanics (bank.burnCoins env.chain context.locked moduleName coins >>= _)
  rw [burning]
  exact Result.Blames.ok

/-- A withdrawal panics only in making its coins. -/
theorem withdraw_neverPanics {admitted : Bool} (kept : Kept context.locked state.bank)
    (free : ∀ denom, context.locked (env.chain.moduleAddress moduleName) denom = 0)
    (positive : 0 < msg.amount.val) (feePositive : 0 < msg.cethAmount.val)
    (checks : NeverPanics tokenCheck) (joins : ∀ coins, together = .ok coins → Joins msg coins)
    (joined : NeverPanics together ↔ admitted = true) :
    NeverPanics (withdraw env context state tokenCheck type msg together) ↔
      (tokenCheck = .ok () → admits env context state msg admitted = true) := by
  unfold withdraw admits
  rw [neverPanics_bind, and_iff_right checks, Unique.forall_iff]
  refine imp_congr_right fun _ => ?_
  cases signed : env.chain.accAddressFromBech32 msg.cosmosSender with
  | none =>
    have failed : env.chain.decode msg.cosmosSender = Outcome.fail errDecoding := by
      rw [Chain.decode, signed]
      rfl
    rw [failed]
    exact iff_of_true neverPanics_fail rfl
  | some sender =>
    have decoded : env.chain.decode msg.cosmosSender = .ok sender := decode_ok.mpr signed
    rw [decoded]
    change NeverPanics (getAccount state sender _ >>= _) ↔ _
    cases account : state.accounts sender with
    | none =>
      rw [getAccount, account]
      exact iff_of_true neverPanics_fail (by simp [account])
    | some sequence =>
      rw [getAccount, account]
      change NeverPanics ((require _ _ >>= _) >>= fun state => pure (_ : State × List Event)) ↔ _
      rw [neverPanics_bind_pure, neverPanics_bind, and_iff_right neverPanics_require,
        Unique.forall_iff, require_ok, payAndBurn_neverPanics kept free positive feePositive joins,
        joined]
      dsimp only
      rw [account]
      cases state.isBlacklisted msg.ethereumReceiver with
      | true => simp
      | false =>
        cases state.getCethReceiverAccount env.chain with
        | none => simp
        | some receiver => simp [imp_iff_not_or]

/-- A withdrawal is clean exactly when it does not panic. -/
theorem withdraw_clean_iff {admitted : Bool} (kept : Kept context.locked state.bank)
    (free : ∀ denom, context.locked (env.chain.moduleAddress moduleName) denom = 0)
    (positive : 0 < msg.amount.val) (feePositive : 0 < msg.cethAmount.val)
    (checks : NeverPanics tokenCheck) (joins : ∀ coins, together = .ok coins → Joins msg coins)
    (joined : NeverPanics together ↔ admitted = true) :
    Clean env context state msg (withdraw env context state tokenCheck type msg together) ↔
      (tokenCheck = .ok () → admits env context state msg admitted = true) := by
  rw [← withdraw_neverPanics kept free positive feePositive checks joins joined]
  refine ⟨Clean.neverPanics, fun clean => ⟨clean, fun next events handled => ?_, ?_⟩⟩
  · obtain ⟨sender, signed, withdrawn, -⟩ := withdraw_ok joins handled
    exact ⟨sender, signed, withdrawn⟩
  · intro sender denom signed apart short
    match handled : withdraw env context state tokenCheck type msg together with
    | .error (.error error) => exact ⟨error, rfl⟩
    | .error (.panic reason) =>
      rw [handled] at clean
      exact absurd clean not_neverPanics_crash
    | .ok (next, events) =>
      obtain ⟨other, otherSigned, -, bank, payment⟩ := withdraw_ok joins handled
      obtain rfl : other = sender := Option.some.inj (otherSigned.symm.trans signed)
      have covered := payment.covered (fun coins made => (coinsOf_single made).2)
        (fun coins made => (joins coins made).amounts) apart denom
      omega

section Messages

variable {msg : MsgLock} (positive : 0 < msg.amount.val) (feePositive : 0 < msg.cethAmount.val)

include positive feePositive

/-- The coins of an amount and of a fee are made unless they are of one denomination or of an
invalid one. -/
theorem pair_neverPanics :
    NeverPanics (coinsOf [(msg.symbol, msg.amount), (cethSymbol, msg.cethAmount)]) ↔
      (validDenom msg.symbol && decide (msg.symbol ≠ cethSymbol)) = true := by
  rw [coinsOf_pair_neverPanics positive feePositive, and_iff_right ceth_valid, Bool.and_eq_true,
    decide_eq_true_iff]

/-- The coins of an amount and of a fee have both. -/
theorem pair_joins {coins : Coins}
    (made : coinsOf [(msg.symbol, msg.amount), (cethSymbol, msg.cethAmount)] = .ok coins) :
    Joins msg coins := by
  have clean : NeverPanics (coinsOf [(msg.symbol, msg.amount), (cethSymbol, msg.cethAmount)]) := by
    rw [made]
    exact Result.Blames.ok
  rw [coinsOf_pair_neverPanics positive feePositive] at clean
  exact ⟨coinsOf_isValid made, clean.1, coinsOf_pair made⟩

end Messages

/-- The coins of a burn without a fee receiver: one coin when the token is `ceth` itself. -/
theorem burn_joins {msg : MsgBurn} (positive : 0 < msg.amount.val)
    (feePositive : 0 < msg.cethAmount.val) {coins : Coins}
    (made : (if msg.symbol = cethSymbol then do
        let sum ← msg.cethAmount.add msg.amount
        coinsOf [(cethSymbol, sum)]
      else coinsOf [(msg.symbol, msg.amount), (cethSymbol, msg.cethAmount)]) = .ok coins) :
    Joins msg.toMsgLock coins := by
  split at made
  · rename_i same
    rw [Result.bind_ok] at made
    obtain ⟨sum, added, made⟩ := made
    rw [SInt.add_ok] at added
    refine ⟨coinsOf_isValid made, same ▸ ceth_valid, fun denom => ?_⟩
    have value : sum.val.toNat = msg.amount.val.toNat + msg.cethAmount.val.toNat := by omega
    rw [(coinsOf_single made).2, value, same]
    unfold only
    split <;> rfl
  · exact pair_joins positive feePositive made

/-- A sum of amounts stays in the range or panics. -/
theorem add_neverPanics {left right : SInt} (sign : 0 ≤ left.val + right.val) :
    NeverPanics (left.add right) ↔ left.val + right.val < 2 ^ 256 := by
  unfold SInt.add SInt.ofText
  split
  · rename_i bounded
    exact iff_of_true Result.Blames.ok (by omega)
  · rename_i unbounded
    exact iff_of_false not_neverPanics_crash (by omega)

/-- The coins of a burn are made unless the sum of ether and fee overflows or the denomination does
not pass. -/
theorem burn_coins_neverPanics {msg : MsgBurn} (positive : 0 < msg.amount.val)
    (feePositive : 0 < msg.cethAmount.val) :
    NeverPanics (if msg.symbol = cethSymbol then do
        let sum ← msg.cethAmount.add msg.amount
        coinsOf [(cethSymbol, sum)]
      else coinsOf [(msg.symbol, msg.amount), (cethSymbol, msg.cethAmount)]) ↔
      (if msg.symbol = cethSymbol then decide (msg.amount.val + msg.cethAmount.val < 2 ^ 256)
        else validDenom msg.symbol) = true := by
  split
  · rw [neverPanics_bind, add_neverPanics (by omega), decide_eq_true_iff, and_iff_left, add_comm]
    intro sum added
    rw [SInt.add_ok] at added
    exact (coinsOf_single_neverPanics (by omega)).1.mpr ceth_valid
  · rename_i different
    rw [pair_neverPanics positive feePositive, decide_eq_true different, Bool.and_true]

/-- Locks and burns are clean exactly when they get coins that do not panic. -/
theorem withdrawals_clean_iff (kept : Kept context.locked state.bank)
    (free : ∀ denom, context.locked (env.chain.moduleAddress moduleName) denom = 0) :
    (∀ msg : MsgLock, msg.validateBasic = .ok () →
      (Clean env context state msg (lock env context state msg) ↔
        lockAdmits env context state msg = true)) ∧
    ∀ msg : MsgBurn, msg.validateBasic = .ok () →
      (Clean env context state msg.toMsgLock (burn env context state msg) ↔
        burnAdmits env context state msg = true) := by
  constructor
  · intro msg checked
    simp only [MsgLock.validateBasic, Result.bind_ok, require_ok] at checked
    obtain ⟨-, -, -, -, -, -, -, -, -, positive, -, fee, -⟩ := checked
    have feePositive : 0 < msg.cethAmount.val := by unfold lockGasCost at fee; omega
    rw [lock_eq, withdraw_clean_iff kept free positive feePositive neverPanics_require
      (fun coins made => pair_joins positive feePositive made)
      (pair_neverPanics positive feePositive), require_ok]
    unfold lockAdmits
    cases state.existsPeggyToken msg.symbol <;> simp
  · intro msg checked
    simp only [MsgBurn.validateBasic, Result.bind_ok, require_ok] at checked
    obtain ⟨-, -, -, -, -, -, -, -, -, positive, -, -, -, -, -, fee, -⟩ := checked
    have feePositive : 0 < msg.cethAmount.val := by unfold burnGasCost at fee; omega
    rw [burn_eq, withdraw_clean_iff kept free positive feePositive neverPanics_require
      (fun coins made => burn_joins positive feePositive made)
      (burn_coins_neverPanics positive feePositive), require_ok]
    unfold burnAdmits
    cases state.existsPeggyToken msg.symbol <;> simp

end Handlers

/-- The sample bank is kept as between messages. -/
theorem fundedState_kept : Kept bridgeContext.locked fundedState.bank := by
  refine ⟨⟨fun addresses denom => ?_, fun denom => ?_⟩, fun address denom => Nat.zero_le _⟩
  · change ∑ address ∈ addresses, (if address = aliceAddress then 10 ^ 20 else 0) ≤ 10 ^ 20
    rw [Finset.sum_ite_eq']
    split
    · exact le_refl _
    · exact Nat.zero_le _
  · change 10 ^ 20 < 2 ^ 256
    norm_num

/-- A lock of rowan with no fee receiver. -/
theorem rowan_lock_clean : Clean bridgeEnvironment bridgeContext fundedState (rowanLock fiveRowan)
    (lock bridgeEnvironment bridgeContext fundedState (rowanLock fiveRowan)) :=
  ((withdrawals_clean_iff fundedState_kept fun _ => rfl).1 (rowanLock fiveRowan)
    (by decide +kernel)).mpr (by decide +kernel)

section Sample

/-- Half of what an amount can be. -/
def halfRange : SInt := ⟨2 ^ 255, by decide⟩

/-- A burn of ceth whose amount and fee are too large together. -/
def largeBurn : MsgBurn :=
  ⟨{ rowanLock halfRange with symbol := "ceth", cethAmount := halfRange }⟩

end Sample

/-- A lock of ceth by the same account panics: amount and fee are two coins of one denomination. So
does a lock of what is no denomination, and a burn of ceth past the range of amounts. -/
theorem ceth_lock_panics : Kept bridgeContext.locked fundedState.bank ∧
    (MsgLock.validateBasic { rowanLock fiveRowan with symbol := "ceth" } = .ok () ∧
      (lock bridgeEnvironment bridgeContext fundedState
        { rowanLock fiveRowan with symbol := "ceth" }).panicReason = some "invalid coin set") ∧
    (MsgLock.validateBasic { rowanLock fiveRowan with symbol := "x" } = .ok () ∧
      (lock bridgeEnvironment bridgeContext fundedState
        { rowanLock fiveRowan with symbol := "x" }).panicReason = some "invalid denom: x") ∧
    largeBurn.validateBasic = .ok () ∧
      (burn bridgeEnvironment bridgeContext { fundedState with peggyTokens := ["ceth"] }
        largeBurn).panicReason = some "Int overflow" := by
  refine ⟨fundedState_kept, ⟨?_, ?_⟩, ⟨?_, ?_⟩, ?_, ?_⟩ <;> decide +kernel

end Akhira.Verif.EthBridge
