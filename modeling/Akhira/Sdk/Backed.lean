import Akhira.Sdk.Supply
import Akhira.Sdk.Transfers

/-!
# Balances within the supply

The bank keeps two invariants of its own: what any addresses hold together is within the supply,
and no address holds less than what vesting locks. Under them no transfer panics, whatever its
coins, and coins that a module holds can be burned.
-/
namespace Akhira.Sdk

open Akhira.Base Akhira.Sdk.Outcome

variable {chain : Chain} {locked : Locked} {ledger : Ledger} {bank next : Bank}
  {sender recipient address other : AccAddress} {coins : Coins} {denom : Denom}

namespace Ledger

/-- No address holds less than its locked amount. -/
def Vested (locked : Locked) (ledger : Ledger) : Prop :=
  ∀ address denom, locked address denom ≤ ledger.balance address denom

/-- Nothing panics on a debit from an account that owns what is locked of it. -/
theorem Vested.debitsCleanly (vested : Vested locked ledger) :
    DebitsCleanly locked ledger address coins := by
  induction coins with
  | nil => trivial
  | cons coin rest ih => exact ⟨vested address coin.denom, fun _ => ih⟩

/-- Only valid coins are sent. -/
theorem valid_of_sent {next : Ledger} (sent : sendCoins locked ledger sender recipient coins = .ok next) :
    coins.isValid = true := by
  simp only [sendCoins, subUnlockedCoins, Result.bind_ok, require_ok] at sent
  obtain ⟨-, ⟨-, valid, -⟩, -⟩ := sent
  exact valid

/-- What is sent is within the unlocked balance. -/
theorem sent_le {next : Ledger} (sent : sendCoins locked ledger sender recipient coins = .ok next)
    (denom : Denom) :
    coins.amountOf denom ≤ ledger.balance sender denom - locked sender denom := by
  have valid := valid_of_sent sent
  obtain ⟨spendable, -⟩ := (sendCoins_succeeds valid).mp ⟨next, sent⟩
  by_cases listed : ∃ coin ∈ coins, coin.denom = denom
  · obtain ⟨coin, member, rfl⟩ := listed
    rw [(Coins.distinct_of_isValid valid).amountOf_eq member]
    have covered := spendable coin member
    omega
  · rw [Coins.amountOf_eq_zero fun coin member same => listed ⟨coin, member, same⟩]
    exact Nat.zero_le _

/-- What was received is held. -/
theorem received_le {next : Ledger}
    (sent : sendCoins locked ledger sender recipient coins = .ok next) (denom : Denom) :
    coins.amountOf denom ≤ next.balance recipient denom := by
  simp only [sendCoins, Result.bind_ok] at sent
  obtain ⟨debited, -, credited⟩ := sent
  rw [addCoins_ok credited, share_self]
  exact Nat.le_add_left _ _

/-- A send keeps every account above what is locked of it. -/
theorem Vested.sent {next : Ledger} (vested : Vested locked ledger)
    (sent : sendCoins locked ledger sender recipient coins = .ok next) : Vested locked next := by
  intro address denom
  have before := vested address denom
  have moved := sendCoins_ok sent address denom
  by_cases same : address = sender
  · subst same
    have within := sent_le sent denom
    rw [share_self] at moved
    omega
  · rw [share_other same] at moved
    omega

end Ledger

namespace Bank

/-- What any addresses hold together is within the supply, and the supply fits an `sdk.Int`. -/
structure Backed (bank : Bank) : Prop where
  within : ∀ (addresses : Finset AccAddress) (denom : Denom),
    ∑ address ∈ addresses, bank.ledger.balance address denom ≤ bank.supply denom
  bounded : ∀ denom, bank.supply denom < 2 ^ 256

/-- An account owns no more than the supply. -/
theorem Backed.balance_le (backed : bank.Backed) (address : AccAddress) (denom : Denom) :
    bank.ledger.balance address denom ≤ bank.supply denom := by
  have single := backed.within {address} denom
  rwa [Finset.sum_singleton] at single

/-- Two accounts together own no more than the supply. -/
theorem Backed.pair_le (backed : bank.Backed) (different : address ≠ other) (denom : Denom) :
    bank.ledger.balance address denom + bank.ledger.balance other denom ≤ bank.supply denom := by
  have pair := backed.within {address, other} denom
  rwa [Finset.sum_pair different] at pair

/-- A recipient has room for what the sender holds. -/
theorem Backed.hasRoom (backed : bank.Backed)
    (spendable : Ledger.Spendable locked bank.ledger sender coins) :
    Ledger.HasRoom bank.ledger sender recipient coins := by
  intro coin listed
  have bounded := backed.bounded coin.denom
  have covered := spendable coin listed
  by_cases same : sender = recipient
  · subst same
    have held := backed.balance_le sender coin.denom
    rw [if_pos rfl]
    omega
  · have held := backed.pair_le (Ne.symm same) coin.denom
    rw [if_neg same]
    omega

/-- What leaves the sender arrives, so the balances stay within the supply. -/
theorem Backed.sent (backed : bank.Backed)
    (sent : bank.sendCoins locked sender recipient coins = .ok next) : next.Backed := by
  obtain ⟨sameSupply, moved⟩ := sendCoins_ok sent
  refine ⟨fun addresses denom => ?_, fun denom => ?_⟩
  · have all := Finset.sum_congr (rfl : insert sender (insert recipient addresses) = _)
      fun address _ => moved address denom
    rw [Finset.sum_add_distrib, Finset.sum_add_distrib,
      Ledger.share_sum (Finset.mem_insert_self _ _),
      Ledger.share_sum (Finset.mem_insert_of_mem (Finset.mem_insert_self _ _))] at all
    have before := backed.within (insert sender (insert recipient addresses)) denom
    have part : ∑ address ∈ addresses, next.ledger.balance address denom ≤
        ∑ address ∈ insert sender (insert recipient addresses), next.ledger.balance address denom :=
      Finset.sum_le_sum_of_subset (fun address listed => by simp [listed])
    rw [sameSupply]
    omega
  · rw [sameSupply]
    exact backed.bounded denom

/-- Valid coins are sent without a panic, and are sent when they are spendable. -/
theorem Backed.sends (backed : bank.Backed) (vested : bank.ledger.Vested locked)
    (valid : coins.isValid = true) :
    NeverPanics (bank.sendCoins locked sender recipient coins) ∧
      ((∃ next, bank.sendCoins locked sender recipient coins = .ok next) ↔
        Ledger.Spendable locked bank.ledger sender coins) := by
  have clean : NeverPanics (bank.ledger.sendCoins locked sender recipient coins) :=
    (Ledger.sendCoins_neverPanics valid).mpr ⟨vested.debitsCleanly, backed.hasRoom⟩
  constructor
  · unfold sendCoins
    rw [neverPanics_bind]
    exact ⟨clean, fun _ _ => Result.Blames.ok⟩
  · simp only [sendCoins, Result.bind_ok, Result.pure_ok]
    constructor
    · rintro ⟨_, ledger, sent, -⟩
      exact ((Ledger.sendCoins_succeeds valid).mp ⟨ledger, sent⟩).1
    · intro spendable
      obtain ⟨ledger, sent⟩ :=
        (Ledger.sendCoins_succeeds valid).mpr ⟨spendable, backed.hasRoom spendable⟩
      exact ⟨_, ledger, sent, rfl⟩

/-- A module without vesting burns what it holds. -/
theorem Backed.burns {moduleName : String} (backed : bank.Backed) (valid : coins.isValid = true)
    (free : ∀ denom, locked (chain.moduleAddress moduleName) denom = 0)
    (held : ∀ denom, coins.amountOf denom ≤
      bank.ledger.balance (chain.moduleAddress moduleName) denom) :
    ∃ burned, bank.burnCoins chain locked moduleName coins = .ok burned := by
  obtain ⟨debited, debit⟩ := Ledger.subCoins_covered free held
  obtain ⟨burned, lowered⟩ := @Result.foldlM_succeeds Fault Coin Bank lowerSupply
    (fun bank rest => ∀ denom, Coins.amountOf rest denom ≤ bank.supply denom)
    (by
      intro bank coin rest enough
      have own := enough coin.denom
      rw [Coins.amountOf_cons, if_pos rfl] at own
      have lower : lowerSupply bank coin =
          .ok (bank.setSupply coin.denom (bank.supply coin.denom - coin.amount)) :=
        if_pos (by omega)
      refine ⟨_, lower, fun denom => ?_⟩
      have left := (lowerSupply_ok lower).2 denom
      have all := enough denom
      rw [Coins.amountOf_cons] at all
      omega)
    ⟨debited, bank.supply⟩ coins
    (fun denom => (held denom).trans (backed.balance_le _ denom))
  refine ⟨burned, ?_⟩
  unfold burnCoins
  rw [Ledger.subUnlockedCoins_eq valid, debit]
  exact lowered

end Bank

end Akhira.Sdk
