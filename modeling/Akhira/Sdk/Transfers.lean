import Akhira.Sdk.Bank

/-!
# When a transfer panics

A transfer debits coin after coin and stops with an error at the first one the unlocked balance does
not cover. It panics when it reaches a coin of which more is locked than held, or when all coins are
debited and the recipient's balance would pass 256 bits. Valid coins are of different
denominations, so every balance is the one before the transfer.
-/
namespace Akhira.Sdk

open Akhira.Base Akhira.Sdk.Outcome

namespace Coins

/-- Coins of different denominations. -/
def Distinct (coins : Coins) : Prop := coins.Pairwise fun left right => left.denom ≠ right.denom

/-- Valid coins are of distinct denominations. -/
theorem distinct_of_isValid {coins : Coins} (valid : coins.isValid = true) : Distinct coins := by
  simp only [isValid, Bool.and_eq_true, decide_eq_true_eq] at valid
  exact valid.1.imp fun ordered => ordered.ne

/-- There is nothing of a denomination that no coin has. -/
theorem amountOf_eq_zero {coins : Coins} {denom : Denom}
    (apart : ∀ coin ∈ coins, coin.denom ≠ denom) : coins.amountOf denom = 0 := by
  induction coins with
  | nil => rfl
  | cons head tail ih =>
    obtain ⟨first, rest⟩ := List.forall_mem_cons.mp apart
    rw [amountOf_cons, if_neg first, ih rest]

/-- Among coins of different denominations, a coin is all there is of its own. -/
theorem Distinct.amountOf_eq {coins : Coins} (distinct : Distinct coins) {coin : Coin}
    (listed : coin ∈ coins) : coins.amountOf coin.denom = coin.amount := by
  induction coins with
  | nil => cases listed
  | cons head tail ih =>
    obtain ⟨apart, rest⟩ := List.pairwise_cons.mp distinct
    rw [amountOf_cons]
    rcases List.mem_cons.mp listed with rfl | later
    · rw [if_pos rfl, amountOf_eq_zero fun other member => (apart other member).symm]
      exact Nat.add_zero _
    · rw [if_neg (apart coin later), Nat.zero_add]
      exact ih rest later

end Coins

namespace Ledger

variable {locked : Locked} {ledger other : Ledger} {address sender recipient : AccAddress}
  {coins : Coins}

/-- No coin that the debits reach is held in less than its locked amount. -/
def DebitsCleanly (locked : Locked) (ledger : Ledger) (address : AccAddress) : Coins → Prop
  | [] => True
  | coin :: rest => locked address coin.denom ≤ ledger.balance address coin.denom ∧
    (locked address coin.denom + coin.amount ≤ ledger.balance address coin.denom →
      DebitsCleanly locked ledger address rest)

/-- The unlocked balances cover the coins. -/
def Spendable (locked : Locked) (ledger : Ledger) (address : AccAddress) (coins : Coins) : Prop :=
  ∀ coin ∈ coins, locked address coin.denom + coin.amount ≤ ledger.balance address coin.denom

/-- The recipient's balances stay within 256 bits. -/
def HasRoom (ledger : Ledger) (sender recipient : AccAddress) (coins : Coins) : Prop :=
  ∀ coin ∈ coins,
    ledger.balance recipient coin.denom + (if sender = recipient then 0 else coin.amount) < 2 ^ 256

/-- Whether a debit goes without a panic depends on the balances of its own denominations. -/
theorem debitsCleanly_congr
    (same : ∀ coin ∈ coins, other.balance address coin.denom = ledger.balance address coin.denom) :
    DebitsCleanly locked other address coins ↔ DebitsCleanly locked ledger address coins := by
  induction coins with
  | nil => exact Iff.rfl
  | cons coin rest ih =>
    unfold DebitsCleanly
    rw [same coin List.mem_cons_self, ih fun later listed => same later (List.mem_cons_of_mem _ listed)]

/-- A debit leaves the balances of other denominations. -/
theorem subCoin_frame {next : Ledger} {coin : Coin} {denom : Denom}
    (debited : subCoin locked ledger address coin = .ok next) (apart : coin.denom ≠ denom) :
    next.balance address denom = ledger.balance address denom := by
  have moved := subCoin_ok debited address denom
  rwa [if_neg apart, share_self, Nat.add_zero] at moved

/-- A credit leaves the other denominations alone. -/
theorem addCoin_frame {next : Ledger} {coin : Coin} {denom : Denom}
    (credited : addCoin ledger address coin = .ok next) (apart : coin.denom ≠ denom) :
    next.balance address denom = ledger.balance address denom := by
  rw [addCoin_ok credited, if_neg apart, share_self, Nat.add_zero]

/-- A debit panics exactly below what is locked, and succeeds exactly above what is locked with the
coin. -/
theorem subCoin_iff {coin : Coin} :
    (NeverPanics (subCoin locked ledger address coin) ↔
      locked address coin.denom ≤ ledger.balance address coin.denom) ∧
    ((∃ next, subCoin locked ledger address coin = .ok next) ↔
      locked address coin.denom + coin.amount ≤ ledger.balance address coin.denom) := by
  unfold subCoin
  dsimp only
  split
  · exact ⟨iff_of_false not_neverPanics_crash (by omega), iff_of_false (by simp) (by omega)⟩
  · split
    · exact ⟨iff_of_true neverPanics_fail (by omega), iff_of_false (by simp) (by omega)⟩
    · exact ⟨iff_of_true Result.Blames.ok (by omega), iff_of_true ⟨_, rfl⟩ (by omega)⟩

/-- The debits, coin by coin. -/
theorem debits_iff (distinct : coins.Distinct) :
    (NeverPanics (coins.foldlM (fun ledger coin => subCoin locked ledger address coin) ledger) ↔
      DebitsCleanly locked ledger address coins) ∧
    ((∃ next, coins.foldlM (fun ledger coin => subCoin locked ledger address coin) ledger =
        .ok next) ↔ Spendable locked ledger address coins) := by
  induction coins generalizing ledger with
  | nil => exact ⟨iff_of_true Result.Blames.ok trivial, iff_of_true ⟨_, rfl⟩ (by simp [Spendable])⟩
  | cons coin rest ih =>
    obtain ⟨apart, distinct⟩ := List.pairwise_cons.mp distinct
    obtain ⟨clean, covered⟩ := @subCoin_iff locked ledger address coin
    have kept : ∀ next, subCoin locked ledger address coin = .ok next → ∀ later ∈ rest,
        next.balance address later.denom = ledger.balance address later.denom :=
      fun next debited later listed => subCoin_frame debited (apart later listed)
    rw [List.foldlM_cons, neverPanics_bind, clean]
    constructor
    · unfold DebitsCleanly
      rw [← covered]
      refine and_congr_right fun _ => ⟨?_, ?_⟩
      · rintro later ⟨next, debited⟩
        exact (debitsCleanly_congr (kept next debited)).mp ((ih distinct).1.mp (later next debited))
      · intro later next debited
        exact (ih distinct).1.mpr ((debitsCleanly_congr (kept next debited)).mpr
          (later ⟨next, debited⟩))
    · unfold Spendable
      rw [List.forall_mem_cons, ← covered]
      constructor
      · rintro ⟨final, folded⟩
        rw [Result.bind_ok] at folded
        obtain ⟨next, debited, folded⟩ := folded
        refine ⟨⟨next, debited⟩, fun later listed => ?_⟩
        rw [← kept next debited later listed]
        exact (ih distinct).2.mp ⟨final, folded⟩ later listed
      · rintro ⟨⟨next, debited⟩, spendable⟩
        obtain ⟨final, folded⟩ := (@ih next distinct).2.mpr fun later listed => by
          rw [kept next debited later listed]
          exact spendable later listed
        exact ⟨final, Result.bind_ok.mpr ⟨next, debited, folded⟩⟩

/-- The credits, coin by coin: each succeeds or panics. -/
theorem credits_iff (distinct : coins.Distinct) :
    (NeverPanics (coins.foldlM (fun ledger coin => addCoin ledger address coin) ledger) ↔
      ∀ coin ∈ coins, ledger.balance address coin.denom + coin.amount < 2 ^ 256) ∧
    ((∃ next, coins.foldlM (fun ledger coin => addCoin ledger address coin) ledger = .ok next) ↔
      ∀ coin ∈ coins, ledger.balance address coin.denom + coin.amount < 2 ^ 256) := by
  induction coins generalizing ledger with
  | nil => exact ⟨iff_of_true Result.Blames.ok (by simp), iff_of_true ⟨_, rfl⟩ (by simp)⟩
  | cons coin rest ih =>
    obtain ⟨apart, distinct⟩ := List.pairwise_cons.mp distinct
    rw [List.foldlM_cons, List.forall_mem_cons]
    by_cases room : ledger.balance address coin.denom + coin.amount < 2 ^ 256
    · have credited : addCoin ledger address coin =
          .ok (ledger.setBalance address coin.denom
            (ledger.balance address coin.denom + coin.amount)) := if_pos room
      have kept : (∀ later ∈ rest, (ledger.setBalance address coin.denom
          (ledger.balance address coin.denom + coin.amount)).balance address later.denom +
            later.amount < 2 ^ 256) ↔
          ∀ later ∈ rest, ledger.balance address later.denom + later.amount < 2 ^ 256 :=
        forall₂_congr fun later listed => by rw [addCoin_frame credited (apart later listed)]
      rw [credited]
      have tail := @ih (ledger.setBalance address coin.denom
        (ledger.balance address coin.denom + coin.amount)) distinct
      rw [kept] at tail
      simp only [room, true_and]
      exact tail
    · have crashed : addCoin ledger address coin = crash "Int overflow" := if_neg room
      rw [crashed]
      exact ⟨iff_of_false not_neverPanics_crash (fun all => room all.1),
        iff_of_false (fun ⟨_, same⟩ => by cases same) (fun all => room all.1)⟩

/-- A debit of valid coins is the loop over them. -/
theorem subUnlockedCoins_eq (valid : coins.isValid = true) :
    subUnlockedCoins locked ledger address coins =
      coins.foldlM (fun ledger coin => subCoin locked ledger address coin) ledger := by
  unfold subUnlockedCoins
  rw [require, if_pos valid]
  rfl

/-- A credit of valid coins is the loop over them. -/
theorem addCoins_eq (valid : coins.isValid = true) : addCoins ledger address coins =
    coins.foldlM (fun ledger coin => addCoin ledger address coin) ledger := by
  unfold addCoins
  rw [require, if_pos valid]
  rfl

/-- What the recipient holds once valid coins are debited from the sender. -/
theorem room_after_debit {debited : Ledger} (valid : coins.isValid = true)
    (paid : subUnlockedCoins locked ledger sender coins = .ok debited) :
    (∀ coin ∈ coins, debited.balance recipient coin.denom + coin.amount < 2 ^ 256) ↔
      HasRoom ledger sender recipient coins := by
  refine forall₂_congr fun coin listed => ?_
  have moved := subUnlockedCoins_ok paid recipient coin.denom
  rw [(Coins.distinct_of_isValid valid).amountOf_eq listed] at moved
  by_cases same : sender = recipient
  · subst same
    rw [share_self] at moved
    rw [if_pos rfl, moved, Nat.add_zero]
  · rw [share_other (Ne.symm same)] at moved
    rw [if_neg same, ← moved, Nat.add_zero]

/-- A transfer of valid coins panics in the debits or, when all are made, in the credits. -/
theorem sendCoins_neverPanics (valid : coins.isValid = true) :
    NeverPanics (sendCoins locked ledger sender recipient coins) ↔
      DebitsCleanly locked ledger sender coins ∧
        (Spendable locked ledger sender coins → HasRoom ledger sender recipient coins) := by
  have distinct := Coins.distinct_of_isValid valid
  obtain ⟨clean, covered⟩ := @debits_iff locked ledger sender coins distinct
  rw [← subUnlockedCoins_eq valid] at clean covered
  have credits : ∀ debited : Ledger, subUnlockedCoins locked ledger sender coins = .ok debited →
      (NeverPanics (addCoins debited recipient coins) ↔
        HasRoom ledger sender recipient coins) := by
    intro debited paid
    rw [addCoins_eq valid, ← room_after_debit valid paid]
    exact (credits_iff distinct).1
  rw [sendCoins, neverPanics_bind, clean, ← covered]
  refine and_congr_right fun _ => ⟨?_, ?_⟩
  · rintro later ⟨debited, paid⟩
    exact (credits debited paid).mp (later debited paid)
  · intro later debited paid
    exact (credits debited paid).mpr (later ⟨debited, paid⟩)

/-- A transfer of valid coins succeeds when they are covered and the recipient has room. -/
theorem sendCoins_succeeds (valid : coins.isValid = true) :
    (∃ next, sendCoins locked ledger sender recipient coins = .ok next) ↔
      Spendable locked ledger sender coins ∧ HasRoom ledger sender recipient coins := by
  have distinct := Coins.distinct_of_isValid valid
  obtain ⟨-, covered⟩ := @debits_iff locked ledger sender coins distinct
  rw [← subUnlockedCoins_eq valid] at covered
  simp only [sendCoins, Result.bind_ok, addCoins_eq valid]
  rw [← covered]
  constructor
  · rintro ⟨next, debited, paid, credited⟩
    exact ⟨⟨debited, paid⟩,
      (room_after_debit valid paid).mp ((credits_iff distinct).2.mp ⟨next, credited⟩)⟩
  · rintro ⟨⟨debited, paid⟩, room⟩
    obtain ⟨next, credited⟩ :=
      (credits_iff distinct).2.mpr ((room_after_debit valid paid).mpr room)
    exact ⟨next, debited, paid, credited⟩

/-- Over addresses that include its owner, a share sums to the amount. -/
theorem share_sum {addresses : Finset AccAddress} (listed : address ∈ addresses) (amount : Nat) :
    ∑ other ∈ addresses, share address other amount = amount := by
  simp only [share, Finset.sum_ite_eq', listed, if_true]

/-- The balances after a transfer. -/
def transferred (ledger : Ledger) (sender recipient : AccAddress) (coins : Coins) : Ledger where
  balance address denom := ledger.balance address denom +
    share recipient address (coins.amountOf denom) - share sender address (coins.amountOf denom)

/-- A send that succeeds leaves the ledger with the coins moved. -/
theorem sendCoins_eq {next : Ledger} (sent : sendCoins locked ledger sender recipient coins = .ok next) :
    next = ledger.transferred sender recipient coins := by
  apply ext_balance
  intro address denom
  have moved := sendCoins_ok sent address denom
  unfold transferred
  dsimp only
  omega

/-- One coin of a debit is taken, and the rest is debited from what is left. -/
theorem debitedBefore_cons {next : Ledger} {coin : Coin} {rest : Coins} {taken : Denom → Nat}
    (debit : subCoin locked ledger address coin = .ok next)
    (later : ∀ other denom, (debitedBefore locked address next rest).balance other denom +
      share address other (taken denom) = next.balance other denom) (other : AccAddress)
    (denom : Denom) :
    (debitedBefore locked address ledger (coin :: rest)).balance other denom +
      share address other ((if coin.denom = denom then coin.amount else 0) + taken denom) =
        ledger.balance other denom := by
  have first := subCoin_ok debit other denom
  have second := later other denom
  rw [share_add, debitedBefore, debit]
  dsimp only
  omega

/-- The debits before an uncovered coin only lower the balances of the address. -/
theorem debitedBefore_lowers (locked : Locked) (ledger : Ledger) (address : AccAddress)
    (coins : Coins) : ∃ taken : Denom → Nat, ∀ other denom,
      (debitedBefore locked address ledger coins).balance other denom +
        share address other (taken denom) = ledger.balance other denom := by
  induction coins generalizing ledger with
  | nil => exact ⟨fun _ => 0, fun _ _ => by simp [debitedBefore, share]⟩
  | cons coin rest ih =>
    cases debit : subCoin locked ledger address coin with
    | ok next =>
      obtain ⟨taken, later⟩ := ih next
      exact ⟨_, debitedBefore_cons debit later⟩
    | error fault => exact ⟨fun _ => 0, fun _ _ => by simp [debitedBefore, debit, share]⟩

section Unlocked

variable (free : ∀ denom, locked address denom = 0)

include free

/-- Where nothing is locked no debit panics. -/
theorem debitsCleanly_unlocked : DebitsCleanly locked ledger address coins := by
  induction coins with
  | nil => trivial
  | cons coin rest ih =>
    refine ⟨?_, fun _ => ih⟩
    rw [free]
    exact Nat.zero_le _

/-- Where nothing is locked an account may spend what it has. -/
theorem spendable_unlocked : Spendable locked ledger address coins ↔
    (coins.all fun coin => ledger.hasBalance address coin) = true := by
  simp only [Spendable, free, Nat.zero_add, List.all_eq_true, hasBalance, decide_eq_true_eq]

/-- What the debits before an uncovered coin take is nothing exactly when the first coin is the one
not covered. -/
theorem debitedBefore_takes {coin : Coin} (positive : coin.amount ≠ 0) (rest : Coins) :
    ∃ taken : Denom → Nat,
      (∀ other denom, (debitedBefore locked address ledger (coin :: rest)).balance other denom +
        share address other (taken denom) = ledger.balance other denom) ∧
      ((∀ denom, taken denom = 0) ↔ ledger.hasBalance address coin = false) := by
  obtain ⟨-, covered⟩ := @subCoin_iff locked ledger address coin
  rw [free, Nat.zero_add] at covered
  cases debit : subCoin locked ledger address coin with
  | ok next =>
    have enough := covered.mp ⟨next, debit⟩
    obtain ⟨taken, later⟩ := debitedBefore_lowers locked next address rest
    refine ⟨_, debitedBefore_cons debit later,
      iff_of_false (fun nothing => ?_) (by simp [hasBalance, enough])⟩
    have own := nothing coin.denom
    simp only [if_true] at own
    omega
  | error fault =>
    have short : ¬coin.amount ≤ ledger.balance address coin.denom := by
      intro enough
      obtain ⟨next, debited⟩ := covered.mpr enough
      rw [debited] at debit
      cases debit
    refine ⟨fun _ => 0, fun other denom => ?_, iff_of_true (fun _ => rfl)
      (by simpa [hasBalance] using short)⟩
    simp [debitedBefore, debit, share]

/-- A transfer of valid coins from an address without vesting: it succeeds, panics because the
recipient has no room, or returns an error because a coin is not covered. -/
theorem sendCoins_unlocked (valid : coins.isValid = true) :
    ((coins.all fun coin => ledger.hasBalance address coin) = true ∧
        HasRoom ledger address recipient coins ∧
        sendCoins locked ledger address recipient coins =
          .ok (ledger.transferred address recipient coins)) ∨
      ((coins.all fun coin => ledger.hasBalance address coin) = true ∧
        ¬HasRoom ledger address recipient coins ∧
        ∃ reason, sendCoins locked ledger address recipient coins = .error (.panic reason)) ∨
      ((coins.all fun coin => ledger.hasBalance address coin) = false ∧
        ∃ error, sendCoins locked ledger address recipient coins = .error (.error error)) := by
  have succeeds := @sendCoins_succeeds locked ledger address recipient coins valid
  have clean := @sendCoins_neverPanics locked ledger address recipient coins valid
  rw [spendable_unlocked free] at succeeds clean
  cases covered : coins.all fun coin => ledger.hasBalance address coin with
  | true =>
    by_cases room : HasRoom ledger address recipient coins
    · obtain ⟨next, sent⟩ := succeeds.mpr ⟨covered, room⟩
      exact .inl ⟨rfl, room, sendCoins_eq sent ▸ sent⟩
    · refine .inr (.inl ⟨rfl, room, ?_⟩)
      match sent : sendCoins locked ledger address recipient coins with
      | .ok next => exact absurd (succeeds.mp ⟨next, sent⟩).2 room
      | .error (.panic reason) => exact ⟨reason, rfl⟩
      | .error (.error error) =>
        rw [sent] at clean
        exact absurd ((clean.mp neverPanics_fail).2 covered) room
  | false =>
    refine .inr (.inr ⟨rfl, ?_⟩)
    have never := clean.mpr ⟨debitsCleanly_unlocked free, fun all => by rw [covered] at all; cases all⟩
    match sent : sendCoins locked ledger address recipient coins with
    | .ok next =>
      have all := (succeeds.mp ⟨next, sent⟩).1
      rw [covered] at all
      cases all
    | .error (.panic reason) =>
      rw [sent] at never
      exact absurd never not_neverPanics_crash
    | .error (.error error) => exact ⟨error, rfl⟩

end Unlocked

/-- Whether there is room for coins is decided coin by coin. -/
instance (ledger : Ledger) (sender recipient : AccAddress) (coins : Coins) :
    Decidable (HasRoom ledger sender recipient coins) :=
  inferInstanceAs (Decidable (∀ coin ∈ coins, _))

end Ledger

end Akhira.Sdk
