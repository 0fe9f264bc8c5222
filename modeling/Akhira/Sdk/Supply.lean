import Akhira.Sdk.Bank

/-!
# Minting and burning

The bank keeps the total supply of every denomination next to the balances. Only minting
raises a supply and only burning lowers one; both go through the account of a module that
the app has given the permission.
-/
namespace Akhira.Sdk

open Akhira.Base

/-- The bank store: balances and total supplies. -/
structure Bank where
  ledger : Ledger
  supply : Denom → Nat

namespace Bank

/-- `setSupply` of one denomination. -/
def setSupply (bank : Bank) (denom : Denom) (amount : Nat) : Bank :=
  { bank with supply := fun other => if other = denom then amount else bank.supply other }

/-- `supply.Add(amount)`; a supply past 256 bits panics. -/
def raiseSupply (bank : Bank) (coin : Coin) : Outcome Bank :=
  if bank.supply coin.denom + coin.amount < 2 ^ 256 then
    .ok (bank.setSupply coin.denom (bank.supply coin.denom + coin.amount))
  else Outcome.crash "Int overflow"

/-- `supply.Sub(amount)`; a negative supply panics. -/
def lowerSupply (bank : Bank) (coin : Coin) : Outcome Bank :=
  if coin.amount ≤ bank.supply coin.denom then
    .ok (bank.setSupply coin.denom (bank.supply coin.denom - coin.amount))
  else Outcome.crash "negative coin amount"

/-- `MintCoins`. -/
def mintCoins (chain : Chain) (bank : Bank) (moduleName : String) (coins : Coins) :
    Outcome Bank := do
  let ledger ← bank.ledger.addCoins (chain.moduleAddress moduleName) coins
  coins.foldlM raiseSupply { bank with ledger }

/-- `BurnCoins`. -/
def burnCoins (chain : Chain) (locked : Locked) (bank : Bank) (moduleName : String)
    (coins : Coins) : Outcome Bank := do
  let ledger ← bank.ledger.subUnlockedCoins locked (chain.moduleAddress moduleName) coins
  coins.foldlM lowerSupply { bank with ledger }

/-- `SendCoins`. -/
def sendCoins (locked : Locked) (bank : Bank) (sender recipient : AccAddress) (coins : Coins) :
    Outcome Bank := do
  let ledger ← bank.ledger.sendCoins locked sender recipient coins
  pure { bank with ledger }

/-- `SendCoinsFromAccountToModule`. -/
def sendCoinsFromAccountToModule (chain : Chain) (locked : Locked) (bank : Bank)
    (sender : AccAddress) (recipientModule : String) (coins : Coins) : Outcome Bank := do
  let ledger ← bank.ledger.sendCoinsFromAccountToModule chain locked sender recipientModule coins
  pure { bank with ledger }

/-- `SendCoinsFromModuleToAccount`. -/
def sendCoinsFromModuleToAccount (chain : Chain) (locked : Locked) (bank : Bank)
    (senderModule : String) (recipient : AccAddress) (coins : Coins) : Outcome Bank := do
  let ledger ← bank.ledger.sendCoinsFromModuleToAccount chain locked senderModule recipient coins
  pure { bank with ledger }

variable {chain : Chain} {locked : Locked} {bank next : Bank} {coins : Coins}

/-- Raising the supply by a coin leaves the accounts and every other denomination alone. -/
theorem raiseSupply_ok {coin : Coin} (raised : raiseSupply bank coin = .ok next) :
    next.ledger = bank.ledger ∧ ∀ denom, next.supply denom =
      bank.supply denom + if coin.denom = denom then coin.amount else 0 := by
  unfold raiseSupply at raised
  split at raised
  · cases raised
    refine ⟨rfl, fun denom => ?_⟩
    by_cases same : denom = coin.denom
    · simp [setSupply, same]
    · simp [setSupply, same, Ne.symm same]
  · cases raised

/-- Lowering the supply by a coin leaves the accounts and every other denomination alone. -/
theorem lowerSupply_ok {coin : Coin} (lowered : lowerSupply bank coin = .ok next) :
    next.ledger = bank.ledger ∧ ∀ denom,
      next.supply denom + (if coin.denom = denom then coin.amount else 0) = bank.supply denom := by
  unfold lowerSupply at lowered
  split at lowered
  · next enough =>
    cases lowered
    refine ⟨rfl, fun denom => ?_⟩
    by_cases same : denom = coin.denom
    · simp [setSupply, same, enough]
    · simp [setSupply, same, Ne.symm same]
  · cases lowered

/-- Minting credits the module and raises the supplies by the coins. -/
theorem mintCoins_ok {moduleName : String}
    (minted : mintCoins chain bank moduleName coins = .ok next) :
    (∀ address denom, next.ledger.balance address denom = bank.ledger.balance address denom +
      Ledger.share (chain.moduleAddress moduleName) address (coins.amountOf denom)) ∧
    ∀ denom, next.supply denom = bank.supply denom + coins.amountOf denom := by
  simp only [mintCoins, Result.bind_ok] at minted
  obtain ⟨ledger, credited, folded⟩ := minted
  have each : ∀ {coins : Coins} {middle : Bank}, coins.foldlM raiseSupply middle = .ok next →
      next.ledger = middle.ledger ∧
        ∀ denom, next.supply denom = middle.supply denom + coins.amountOf denom := by
    intro coins
    induction coins with
    | nil =>
      intro middle folded
      cases folded
      exact ⟨rfl, fun denom => rfl⟩
    | cons coin coins ih =>
      intro middle folded
      rw [List.foldlM_cons, Result.bind_ok] at folded
      obtain ⟨raised, first, rest⟩ := folded
      have now := raiseSupply_ok first
      have later := ih rest
      refine ⟨later.1.trans now.1, fun denom => ?_⟩
      rw [later.2, now.2, Coins.amountOf_cons, Nat.add_assoc]
  have supplied := each folded
  refine ⟨fun address denom => ?_, supplied.2⟩
  rw [supplied.1]
  exact Ledger.addCoins_ok credited address denom

/-- Burning debits the module and lowers the supplies by the coins. -/
theorem burnCoins_ok {moduleName : String}
    (burned : burnCoins chain locked bank moduleName coins = .ok next) :
    (∀ address denom, next.ledger.balance address denom +
      Ledger.share (chain.moduleAddress moduleName) address (coins.amountOf denom) =
        bank.ledger.balance address denom) ∧
    ∀ denom, next.supply denom + coins.amountOf denom = bank.supply denom := by
  simp only [burnCoins, Result.bind_ok] at burned
  obtain ⟨ledger, debited, folded⟩ := burned
  have each : ∀ {coins : Coins} {middle : Bank}, coins.foldlM lowerSupply middle = .ok next →
      next.ledger = middle.ledger ∧
        ∀ denom, next.supply denom + coins.amountOf denom = middle.supply denom := by
    intro coins
    induction coins with
    | nil =>
      intro middle folded
      cases folded
      exact ⟨rfl, fun denom => rfl⟩
    | cons coin coins ih =>
      intro middle folded
      rw [List.foldlM_cons, Result.bind_ok] at folded
      obtain ⟨lowered, first, rest⟩ := folded
      have now := lowerSupply_ok first
      have later := ih rest
      refine ⟨later.1.trans now.1, fun denom => ?_⟩
      have nowHere := now.2 denom
      have laterHere := later.2 denom
      rw [Coins.amountOf_cons]
      omega
  have supplied := each folded
  refine ⟨fun address denom => ?_, supplied.2⟩
  rw [supplied.1]
  exact Ledger.subUnlockedCoins_ok debited address denom

/-- Sending moves the coins and leaves the supplies. -/
theorem sendCoins_ok {sender recipient : AccAddress}
    (sent : sendCoins locked bank sender recipient coins = .ok next) :
    next.supply = bank.supply ∧ ∀ address denom, next.ledger.balance address denom +
      Ledger.share sender address (coins.amountOf denom) =
        bank.ledger.balance address denom +
          Ledger.share recipient address (coins.amountOf denom) := by
  simp only [sendCoins, Result.bind_ok, Result.pure_ok] at sent
  obtain ⟨ledger, moved, rfl⟩ := sent
  exact ⟨rfl, fun address denom => Ledger.sendCoins_ok moved address denom⟩

/-- A send to a module moves the coins and keeps the supply. -/
theorem toModule_ok {sender : AccAddress} {recipientModule : String}
    (sent : sendCoinsFromAccountToModule chain locked bank sender recipientModule coins =
      .ok next) :
    next.supply = bank.supply ∧ ∀ address denom, next.ledger.balance address denom +
      Ledger.share sender address (coins.amountOf denom) =
        bank.ledger.balance address denom +
          Ledger.share (chain.moduleAddress recipientModule) address (coins.amountOf denom) := by
  simp only [sendCoinsFromAccountToModule, Result.bind_ok, Result.pure_ok] at sent
  obtain ⟨ledger, moved, rfl⟩ := sent
  exact ⟨rfl, fun address denom => Ledger.sendCoins_ok moved address denom⟩

/-- A module pays no blocked account; otherwise the coins move and the supplies stay. -/
theorem fromModule_ok {senderModule : String} {recipient : AccAddress}
    (sent : sendCoinsFromModuleToAccount chain locked bank senderModule recipient coins =
      .ok next) :
    chain.blockedAddr recipient = false ∧ next.supply = bank.supply ∧
      ∀ address denom, next.ledger.balance address denom +
        Ledger.share (chain.moduleAddress senderModule) address (coins.amountOf denom) =
          bank.ledger.balance address denom +
            Ledger.share recipient address (coins.amountOf denom) := by
  simp only [sendCoinsFromModuleToAccount, Ledger.sendCoinsFromModuleToAccount, Result.bind_ok,
    Result.pure_ok, Outcome.require_ok] at sent
  obtain ⟨ledger, ⟨-, open_, moved⟩, rfl⟩ := sent
  exact ⟨open_, rfl, fun address denom => Ledger.sendCoins_ok moved address denom⟩

/-- Coins that keep the supplies and the module's balances within 256 bits are minted. -/
theorem mintCoins_fits {moduleName : String} (valid : coins.isValid = true)
    (room : ∀ coin ∈ coins, bank.ledger.balance (chain.moduleAddress moduleName) coin.denom +
      coins.amountOf coin.denom < 2 ^ 256)
    (supply : ∀ coin ∈ coins, bank.supply coin.denom + coins.amountOf coin.denom < 2 ^ 256) :
    ∃ minted, mintCoins chain bank moduleName coins = .ok minted := by
  obtain ⟨ledger, credited⟩ := Ledger.addCoins_fits valid room
  have raises := @Result.foldlM_succeeds _ _ _ raiseSupply
    (fun bank (coins : Coins) => ∀ coin ∈ coins,
      bank.supply coin.denom + coins.amountOf coin.denom < 2 ^ 256) (by
      intro bank coin rest enough
      have own := enough coin List.mem_cons_self
      rw [Coins.amountOf_cons, if_pos rfl] at own
      have raise : raiseSupply bank coin = .ok (bank.setSupply coin.denom
          (bank.supply coin.denom + coin.amount)) := if_pos (by omega)
      refine ⟨_, raise, fun later listed => ?_⟩
      have raised := (raiseSupply_ok raise).2 later.denom
      have all := enough later (List.mem_cons_of_mem _ listed)
      rw [Coins.amountOf_cons] at all
      omega) { bank with ledger } coins supply
  obtain ⟨minted, folded⟩ := raises
  refine ⟨minted, ?_⟩
  unfold mintCoins
  rw [credited]
  exact folded

/-- A module without vesting pays covered coins to an account that is not blocked and has room. -/
theorem fromModule_covered {senderModule : String} {recipient : AccAddress}
    (valid : coins.isValid = true) (unblocked : chain.blockedAddr recipient = false)
    (free : ∀ denom, locked (chain.moduleAddress senderModule) denom = 0)
    (covered : ∀ denom, coins.amountOf denom ≤
      bank.ledger.balance (chain.moduleAddress senderModule) denom)
    (room : ∀ coin ∈ coins, bank.ledger.balance recipient coin.denom +
      coins.amountOf coin.denom < 2 ^ 256 +
        Ledger.share (chain.moduleAddress senderModule) recipient (coins.amountOf coin.denom)) :
    ∃ paid, sendCoinsFromModuleToAccount chain locked bank senderModule recipient coins =
      .ok paid := by
  obtain ⟨debited, folded⟩ := Ledger.subCoins_covered free covered
  have debit : bank.ledger.subUnlockedCoins locked (chain.moduleAddress senderModule) coins =
      .ok debited := by
    unfold Ledger.subUnlockedCoins
    rw [Outcome.require, if_pos valid]
    exact folded
  have roomLeft : ∀ coin ∈ coins,
      debited.balance recipient coin.denom + coins.amountOf coin.denom < 2 ^ 256 := by
    intro coin listed
    have moved := Ledger.subUnlockedCoins_ok debit recipient coin.denom
    have enough := room coin listed
    omega
  obtain ⟨credited, credit⟩ := Ledger.addCoins_fits valid roomLeft
  refine ⟨{ bank with ledger := credited }, ?_⟩
  simp only [sendCoinsFromModuleToAccount, Ledger.sendCoinsFromModuleToAccount, Ledger.sendCoins,
    Result.bind_ok, Result.pure_ok, Outcome.require_ok]
  exact ⟨credited, ⟨(), unblocked, debited, debit, credit⟩, rfl⟩

end Bank

end Akhira.Sdk
