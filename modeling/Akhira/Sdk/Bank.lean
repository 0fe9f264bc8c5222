import Akhira.Sdk.Coin

/-!
# The bank keeper

A ledger gives every address its balance of every denomination. A transfer debits the
unlocked part of the sender's balance and credits the recipient, one coin after the
other; a module account is an address like any other, except that the bank refuses to
pay a blocked one. `sendCoins_ok` is the one equation every proof about transfers uses:
what leaves the sender arrives at the recipient, also when the two are the same.
-/
namespace Akhira.Sdk

open Akhira.Base

/-- The bytes of an account address. -/
abbrev AccAddress := List UInt8

/-- What the modules take from the chain's configuration and account keeper. -/
structure Chain where
  /-- `sdk.AccAddressFromBech32`. -/
  accAddressFromBech32 : String → Option AccAddress
  /-- `AccAddress.String`. -/
  accAddressText : AccAddress → String
  /-- `authtypes.NewModuleAddress`. -/
  moduleAddress : String → AccAddress
  /-- The bank's `BlockedAddr`. -/
  blockedAddr : AccAddress → Bool

/-- The SDK's `ErrUnauthorized`. -/
def errUnauthorized : SdkError := .register "sdk" 4 "unauthorized"

/-- The SDK's `ErrInsufficientFunds`. -/
def errInsufficientFunds : SdkError := .register "sdk" 5 "insufficient funds"

/-- The SDK's `ErrInvalidAddress`. -/
def errInvalidAddress : SdkError := .register "sdk" 7 "invalid address"

/-- The SDK's `ErrInvalidCoins`. -/
def errInvalidCoins : SdkError := .register "sdk" 10 "invalid coins"

/-- The SDK's `ErrInvalidRequest`. -/
def errInvalidRequest : SdkError := .register "sdk" 18 "invalid request"

/-- The error of an address text that does not decode. -/
def errDecoding : SdkError := .register "undefined" 1 "decoding bech32 failed"

/-- Decode an address text or return the decoding error. -/
def Chain.decode (chain : Chain) (text : String) : Outcome AccAddress :=
  Outcome.present (chain.accAddressFromBech32 text) (.error errDecoding)

/-- `AccAddress.String`, which is empty for no address. -/
def Chain.textOf (chain : Chain) (address : AccAddress) : String :=
  if address = [] then "" else chain.accAddressText address

/-- The balances of the bank store. -/
structure Ledger where
  /-- The balance of an address in a denomination. -/
  balance : AccAddress → Denom → Nat

/-- The amounts of an address that are still vesting. -/
abbrev Locked := AccAddress → Denom → Nat

namespace Ledger

/-- Write one balance. -/
def setBalance (ledger : Ledger) (address : AccAddress) (denom : Denom) (amount : Nat) : Ledger where
  balance other otherDenom :=
    if other = address ∧ otherDenom = denom then amount else ledger.balance other otherDenom

/-- `HasBalance`. -/
def hasBalance (ledger : Ledger) (address : AccAddress) (coin : Coin) : Bool :=
  coin.amount ≤ ledger.balance address coin.denom

/-- Debit one coin from the unlocked part of a balance; the locked part above it panics. -/
def subCoin (locked : Locked) (ledger : Ledger) (address : AccAddress) (coin : Coin) :
    Outcome Ledger :=
  let balance := ledger.balance address coin.denom
  let lockedAmount := locked address coin.denom
  if balance < lockedAmount then Outcome.crash "negative coin amount"
  else if balance - lockedAmount < coin.amount then
    Outcome.fail (errInsufficientFunds.wrap
      (natText (balance - lockedAmount) ++ coin.denom ++ " is smaller than " ++ coin.text))
  else .ok (ledger.setBalance address coin.denom (balance - coin.amount))

/-- Credit one coin; a balance past 256 bits panics. -/
def addCoin (ledger : Ledger) (address : AccAddress) (coin : Coin) : Outcome Ledger :=
  let balance := ledger.balance address coin.denom
  if balance + coin.amount < 2 ^ 256 then
    .ok (ledger.setBalance address coin.denom (balance + coin.amount))
  else Outcome.crash "Int overflow"

/-- `subUnlockedCoins`. -/
def subUnlockedCoins (locked : Locked) (ledger : Ledger) (address : AccAddress) (coins : Coins) :
    Outcome Ledger := do
  Outcome.require (coins.isValid = true) errInvalidCoins
  coins.foldlM (fun ledger coin => subCoin locked ledger address coin) ledger

/-- `addCoins`. -/
def addCoins (ledger : Ledger) (address : AccAddress) (coins : Coins) : Outcome Ledger := do
  Outcome.require (coins.isValid = true) errInvalidCoins
  coins.foldlM (fun ledger coin => addCoin ledger address coin) ledger

/-- `SendCoins`. -/
def sendCoins (locked : Locked) (ledger : Ledger) (sender recipient : AccAddress) (coins : Coins) :
    Outcome Ledger := do
  let debited ← subUnlockedCoins locked ledger sender coins
  addCoins debited recipient coins

/-- The balances when `subUnlockedCoins` stops: the coins before the one not covered are debited. -/
def debitedBefore (locked : Locked) (address : AccAddress) : Ledger → Coins → Ledger
  | ledger, [] => ledger
  | ledger, coin :: rest =>
    match subCoin locked ledger address coin with
    | .ok next => debitedBefore locked address next rest
    | .error _ => ledger

/-- `SendCoinsFromAccountToModule`. -/
def sendCoinsFromAccountToModule (chain : Chain) (locked : Locked) (ledger : Ledger)
    (sender : AccAddress) (recipientModule : String) (coins : Coins) : Outcome Ledger :=
  sendCoins locked ledger sender (chain.moduleAddress recipientModule) coins

/-- `SendCoinsFromModuleToAccount`: a blocked recipient is refused. -/
def sendCoinsFromModuleToAccount (chain : Chain) (locked : Locked) (ledger : Ledger)
    (senderModule : String) (recipient : AccAddress) (coins : Coins) : Outcome Ledger := do
  Outcome.require (chain.blockedAddr recipient = false)
    (errUnauthorized.wrap (chain.accAddressText recipient ++ " is not allowed to receive funds"))
  sendCoins locked ledger (chain.moduleAddress senderModule) recipient coins

/-- What a `SendCoinsFromModuleToAccount` that returns an error has written: nothing when the
recipient or the coins are refused, and else the debits before the coin not covered. -/
def afterRefusal (chain : Chain) (locked : Locked) (ledger : Ledger) (senderModule : String)
    (recipient : AccAddress) (coins : Coins) : Ledger :=
  if chain.blockedAddr recipient = true ∨ coins.isValid = false then ledger
  else debitedBefore locked (chain.moduleAddress senderModule) ledger coins

/-- The amount an address takes part in, which is nothing for other addresses. -/
def share (address other : AccAddress) (amount : Nat) : Nat := if other = address then amount else 0

/-- The address itself takes part in the amount. -/
@[simp] theorem share_self (address : AccAddress) (amount : Nat) :
    share address address amount = amount := if_pos rfl

/-- Another address takes no part in the amount. -/
theorem share_other {address other : AccAddress} (different : other ≠ address) (amount : Nat) :
    share address other amount = 0 := if_neg different

/-- Shares of a sum add up. -/
theorem share_add (address other : AccAddress) (first second : Nat) :
    share address other (first + second) = share address other first + share address other second := by
  unfold share
  split <;> rfl

/-- Ledgers with the same balances are the same ledger. -/
theorem ext_balance {left right : Ledger}
    (same : ∀ address denom, left.balance address denom = right.balance address denom) :
    left = right := by
  cases left
  cases right
  congr
  funext address denom
  exact same address denom

/-- Crediting one coin raises one balance by its amount. -/
theorem addCoin_ok {ledger next : Ledger} {address : AccAddress} {coin : Coin}
    (credited : addCoin ledger address coin = .ok next) (other : AccAddress) (denom : Denom) :
    next.balance other denom = ledger.balance other denom +
      share address other (if coin.denom = denom then coin.amount else 0) := by
  simp only [addCoin] at credited
  split at credited
  · cases credited
    by_cases same : other = address <;> by_cases sameDenom : denom = coin.denom
    · subst same sameDenom
      simp [setBalance, share]
    · simp [setBalance, share, sameDenom, Ne.symm sameDenom]
    · simp [setBalance, share, same]
    · simp [setBalance, share, same]
  · cases credited

/-- Debiting one coin lowers one balance by its amount. -/
theorem subCoin_ok {locked : Locked} {ledger next : Ledger} {address : AccAddress} {coin : Coin}
    (debited : subCoin locked ledger address coin = .ok next) (other : AccAddress) (denom : Denom) :
    next.balance other denom + share address other (if coin.denom = denom then coin.amount else 0) =
      ledger.balance other denom := by
  simp only [subCoin] at debited
  split at debited
  · cases debited
  · split at debited
    · cases debited
    · cases debited
      by_cases same : other = address <;> by_cases sameDenom : denom = coin.denom
      · subst same sameDenom
        simp [setBalance, share]
        omega
      · simp [setBalance, share, sameDenom, Ne.symm sameDenom]
      · simp [setBalance, share, same]
      · simp [setBalance, share, same]

/-- Crediting coins raises the balances of the address by their amounts. -/
theorem addCoins_ok {ledger next : Ledger} {address : AccAddress} {coins : Coins}
    (credited : addCoins ledger address coins = .ok next) (other : AccAddress) (denom : Denom) :
    next.balance other denom =
      ledger.balance other denom + share address other (coins.amountOf denom) := by
  simp only [addCoins, Result.bind_ok] at credited
  obtain ⟨-, -, folded⟩ := credited
  induction coins generalizing ledger with
  | nil =>
    cases folded
    simp [share]
  | cons coin coins ih =>
    rw [List.foldlM_cons, Result.bind_ok] at folded
    obtain ⟨middle, first, rest⟩ := folded
    rw [ih rest, addCoin_ok first, Coins.amountOf_cons]
    unfold share
    split <;> omega

/-- Debiting coins lowers the balances of the address by their amounts. -/
theorem subUnlockedCoins_ok {locked : Locked} {ledger next : Ledger} {address : AccAddress}
    {coins : Coins} (debited : subUnlockedCoins locked ledger address coins = .ok next)
    (other : AccAddress) (denom : Denom) :
    next.balance other denom + share address other (coins.amountOf denom) =
      ledger.balance other denom := by
  simp only [subUnlockedCoins, Result.bind_ok] at debited
  obtain ⟨-, -, folded⟩ := debited
  induction coins generalizing ledger with
  | nil =>
    cases folded
    simp [share]
  | cons coin coins ih =>
    rw [List.foldlM_cons, Result.bind_ok] at folded
    obtain ⟨middle, first, rest⟩ := folded
    have later := ih rest
    have now := subCoin_ok first other denom
    rw [Coins.amountOf_cons]
    unfold share at now later ⊢
    split_ifs at now later ⊢ <;> omega

/-- What leaves the sender arrives at the recipient. -/
theorem sendCoins_ok {locked : Locked} {ledger next : Ledger} {sender recipient : AccAddress}
    {coins : Coins} (sent : sendCoins locked ledger sender recipient coins = .ok next)
    (other : AccAddress) (denom : Denom) :
    next.balance other denom + share sender other (coins.amountOf denom) =
      ledger.balance other denom + share recipient other (coins.amountOf denom) := by
  simp only [sendCoins, Result.bind_ok] at sent
  obtain ⟨debited, first, second⟩ := sent
  have credit := addCoins_ok second other denom
  have debit := subUnlockedCoins_ok first other denom
  omega

/-- Paying a module from another account raises the module's balances. -/
theorem toModule_ok {chain : Chain} {locked : Locked} {ledger next : Ledger} {sender : AccAddress}
    {recipientModule : String} {coins : Coins}
    (different : sender ≠ chain.moduleAddress recipientModule)
    (sent : sendCoinsFromAccountToModule chain locked ledger sender recipientModule coins = .ok next)
    (denom : Denom) :
    next.balance (chain.moduleAddress recipientModule) denom =
      ledger.balance (chain.moduleAddress recipientModule) denom + coins.amountOf denom := by
  have moved := sendCoins_ok sent (chain.moduleAddress recipientModule) denom
  rw [share_self, share_other different.symm] at moved
  exact moved

/-- Paying an account from a module lowers the module's balances by no more than the coins. -/
theorem fromModule_ok {chain : Chain} {locked : Locked} {ledger next : Ledger}
    {recipient : AccAddress} {senderModule : String} {coins : Coins}
    (sent : sendCoinsFromModuleToAccount chain locked ledger senderModule recipient coins = .ok next)
    (denom : Denom) :
    ledger.balance (chain.moduleAddress senderModule) denom ≤
      next.balance (chain.moduleAddress senderModule) denom + coins.amountOf denom := by
  simp only [sendCoinsFromModuleToAccount, Result.bind_ok] at sent
  obtain ⟨-, -, moved⟩ := sent
  have moved := sendCoins_ok moved (chain.moduleAddress senderModule) denom
  rw [share_self] at moved
  omega

/-- Covered coins of an address without vesting are debited. -/
theorem subCoins_covered {locked : Locked} {ledger : Ledger} {address : AccAddress} {coins : Coins}
    (free : ∀ denom, locked address denom = 0)
    (covered : ∀ denom, coins.amountOf denom ≤ ledger.balance address denom) :
    ∃ debited, coins.foldlM (fun ledger coin => subCoin locked ledger address coin) ledger =
      .ok debited := by
  refine @Result.foldlM_succeeds _ _ _ _ (fun ledger coins => ∀ denom,
    Coins.amountOf coins denom ≤ ledger.balance address denom) ?_ ledger coins covered
  intro ledger coin rest enough
  have own := enough coin.denom
  rw [Coins.amountOf_cons, if_pos rfl] at own
  have debit : subCoin locked ledger address coin = .ok (ledger.setBalance address coin.denom
      (ledger.balance address coin.denom - coin.amount)) := by
    unfold subCoin
    simp only [free coin.denom]
    rw [if_neg (by omega), if_neg (by omega)]
  refine ⟨_, debit, fun denom => ?_⟩
  have moved := subCoin_ok debit address denom
  have all := enough denom
  rw [Coins.amountOf_cons] at all
  rw [share_self] at moved
  omega

/-- Coins that keep the balances within 256 bits are credited. -/
theorem addCoins_fits {ledger : Ledger} {address : AccAddress} {coins : Coins}
    (valid : coins.isValid = true)
    (room : ∀ coin ∈ coins,
      ledger.balance address coin.denom + coins.amountOf coin.denom < 2 ^ 256) :
    ∃ credited, ledger.addCoins address coins = .ok credited := by
  unfold addCoins
  rw [Outcome.require, if_pos valid]
  refine @Result.foldlM_succeeds _ _ _ _ (fun ledger (coins : Coins) => ∀ coin ∈ coins,
    ledger.balance address coin.denom + coins.amountOf coin.denom < 2 ^ 256) ?_ ledger coins room
  intro ledger coin rest enough
  have own := enough coin List.mem_cons_self
  rw [Coins.amountOf_cons, if_pos rfl] at own
  have credit : addCoin ledger address coin = .ok (ledger.setBalance address coin.denom
      (ledger.balance address coin.denom + coin.amount)) := if_pos (by omega)
  refine ⟨_, credit, fun later listed => ?_⟩
  have moved := addCoin_ok credit address later.denom
  have all := enough later (List.mem_cons_of_mem _ listed)
  rw [Coins.amountOf_cons] at all
  rw [share_self] at moved
  omega

end Ledger

end Akhira.Sdk
