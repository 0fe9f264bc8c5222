import Akhira.Sdk.Math

/-!
# Coins

A coin carries its own validity: the denomination matches the SDK's rule and the
amount is a natural number that fits an `sdk.Int`, so `NewCoin` is the one place
where an invalid coin panics. `amountOf` is the reading every proof about transfers
uses: sorting, dropping zero coins and merging keep it.
-/
namespace Akhira.Sdk

open Akhira.Base

/-- A coin denomination. -/
abbrev Denom := String

/-- `sdk.ValidateDenom`: a letter followed by 2 to 127 letters, digits, slashes or hyphens. -/
def validDenom (denom : Denom) : Bool :=
  match denom.toList with
  | [] => false
  | first :: rest =>
    first.isAlpha && decide (2 ≤ rest.length) && decide (rest.length ≤ 127) &&
      rest.all fun character => character.isAlphanum || character == '/' || character == '-'

/-- `sdk.Coin` as `NewCoin` admits it. -/
@[ext] structure Coin where
  /-- The denomination. -/
  denom : Denom
  /-- The amount. -/
  amount : Nat
  /-- The denomination matches the rule. -/
  denomValid : validDenom denom = true
  /-- The amount fits an `sdk.Int`. -/
  bounded : amount < 2 ^ 256
deriving Repr

/-- Coins are compared by denomination and amount. -/
instance : DecidableEq Coin := fun _ _ => decidable_of_iff _ Coin.ext_iff.symm

/-- `sdk.Coins`. -/
abbrev Coins := List Coin

namespace Coin

/-- `Coin.String`. -/
def text (coin : Coin) : String := natText coin.amount ++ coin.denom

/-- `sdk.NewCoin`: an invalid denomination or a negative amount panics. -/
def newCoin (denom : Denom) (amount : SInt) : Outcome Coin :=
  if denomValid : validDenom denom = true then
    if sign : 0 ≤ amount.val then
      .ok ⟨denom, amount.val.toNat, denomValid, by have := amount.bounded; omega⟩
    else Outcome.crash "negative coin amount"
  else Outcome.crash ("invalid denom: " ++ denom)

/-- A coin of the same denomination with another amount. -/
def withAmount (coin : Coin) (amount : Nat) : Outcome Coin :=
  if bounded : amount < 2 ^ 256 then .ok ⟨coin.denom, amount, coin.denomValid, bounded⟩
  else Outcome.crash "Int overflow"

/-- `Coin.Add`: different denominations panic. -/
def add (left right : Coin) : Outcome Coin :=
  if left.denom = right.denom then left.withAmount (left.amount + right.amount)
  else Outcome.crash ("invalid coin denominations; " ++ left.denom ++ ", " ++ right.denom)

/-- `Coin.Sub`: different denominations and a negative difference panic. -/
def sub (left right : Coin) : Outcome Coin :=
  if left.denom = right.denom then
    if right.amount ≤ left.amount then left.withAmount (left.amount - right.amount)
    else Outcome.crash "negative coin amount"
  else Outcome.crash ("invalid coin denominations; " ++ left.denom ++ ", " ++ right.denom)

/-- A new coin has the given denomination and amount. -/
theorem newCoin_ok {denom : Denom} {amount : SInt} {coin : Coin}
    (made : newCoin denom amount = .ok coin) :
    coin.denom = denom ∧ (coin.amount : Int) = amount.val := by
  unfold newCoin at made
  split at made
  · split at made
    · cases made
      exact ⟨rfl, by simp only; omega⟩
    · cases made
  · cases made

/-- Changing the amount keeps the denomination. -/
theorem withAmount_ok {coin result : Coin} {amount : Nat}
    (made : coin.withAmount amount = .ok result) :
    result.denom = coin.denom ∧ result.amount = amount := by
  unfold withAmount at made
  split at made
  · cases made
    exact ⟨rfl, rfl⟩
  · cases made

/-- A sum of coins is of their denomination. -/
theorem add_ok {left right result : Coin} (summed : left.add right = .ok result) :
    left.denom = right.denom ∧ result.denom = left.denom ∧
      result.amount = left.amount + right.amount := by
  unfold add at summed
  split at summed
  · rename_i same
    exact ⟨same, withAmount_ok summed⟩
  · cases summed

/-- A difference of coins is of their denomination and is not negative. -/
theorem sub_ok {left right result : Coin} (subtracted : left.sub right = .ok result) :
    left.denom = right.denom ∧ result.denom = left.denom ∧
      left.amount = right.amount + result.amount := by
  unfold sub at subtracted
  split at subtracted
  · rename_i same
    split at subtracted
    · obtain ⟨denom, amount⟩ := withAmount_ok subtracted
      exact ⟨same, denom, by omega⟩
    · cases subtracted
  · cases subtracted

/-- A coin is subtracted from a larger one of its denomination. -/
theorem sub_total {left right : Coin} (same : left.denom = right.denom)
    (enough : right.amount ≤ left.amount) : ∃ rest, left.sub right = .ok rest := by
  have bounded := left.bounded
  rw [sub, if_pos same, if_pos enough, withAmount, dif_pos (by omega)]
  exact ⟨_, rfl⟩

end Coin

namespace Coins

/-- The total amount of a denomination. -/
def amountOf (coins : Coins) (denom : Denom) : Nat :=
  (coins.map fun coin => if coin.denom = denom then coin.amount else 0).sum

/-- Drop the zero coins. -/
def removeZeroCoins (coins : Coins) : Coins := coins.filter fun coin => coin.amount ≠ 0

/-- `Coins.IsValid`: positive amounts in strictly increasing order of denomination. -/
def isValid (coins : Coins) : Bool :=
  decide (coins.Pairwise fun left right => left.denom < right.denom) &&
    coins.all fun coin => coin.amount ≠ 0

/-- `sdk.NewCoins`: drop zero coins and sort; a repeated denomination panics. -/
def newCoins (coins : Coins) : Outcome Coins :=
  let sorted := (removeZeroCoins coins).insertionSort fun left right => left.denom ≤ right.denom
  if isValid sorted then .ok sorted else Outcome.crash "invalid coin set"

/-- `Coins.Add` of one coin: merge it into a sorted list, dropping zero coins. -/
def add : Coins → Coin → Outcome Coins
  | [], coin => .ok (removeZeroCoins [coin])
  | head :: tail, coin =>
    if head.denom < coin.denom then do
      let rest ← add tail coin
      pure (removeZeroCoins [head] ++ rest)
    else if head.denom = coin.denom then do
      let sum ← head.add coin
      pure (removeZeroCoins (sum :: tail))
    else pure (removeZeroCoins (coin :: head :: tail))

/-- One level of `safeAdd`: merge a sorted list into a coin and what comes after it, where `rest`
adds to what comes after it. -/
def mergeCoin (coin : Coin) (after : Coins) (rest : Coins → Outcome Coins) : Coins → Outcome Coins
  | [] => pure (removeZeroCoins (coin :: after))
  | head :: tail =>
    if coin.denom < head.denom then do
      let sum ← rest (head :: tail)
      pure (removeZeroCoins [coin] ++ sum)
    else if coin.denom = head.denom then do
      let both ← coin.add head
      let sum ← rest tail
      pure (removeZeroCoins [both] ++ sum)
    else do
      let sum ← mergeCoin coin after rest tail
      pure (removeZeroCoins [head] ++ sum)

/-- `Coins.Add` of a list: merge two sorted lists, dropping zero coins. -/
def safeAdd : Coins → Coins → Outcome Coins
  | [], coins => pure (removeZeroCoins coins)
  | coin :: after, coins => mergeCoin coin after (safeAdd after) coins

/-- No coins hold nothing. -/
@[simp] theorem amountOf_nil (denom : Denom) : amountOf [] denom = 0 := rfl

/-- The first coin adds its amount to its denomination. -/
@[simp] theorem amountOf_cons (coin : Coin) (coins : Coins) (denom : Denom) :
    amountOf (coin :: coins) denom =
      (if coin.denom = denom then coin.amount else 0) + amountOf coins denom := by
  simp [amountOf]

/-- Two lists hold the sum of what each holds. -/
theorem amountOf_append (left right : Coins) (denom : Denom) :
    amountOf (left ++ right) denom = amountOf left denom + amountOf right denom := by
  simp [amountOf]

/-- Zero coins hold nothing. -/
@[simp] theorem amountOf_removeZeroCoins (coins : Coins) (denom : Denom) :
    amountOf (removeZeroCoins coins) denom = amountOf coins denom := by
  induction coins with
  | nil => rfl
  | cons coin coins ih =>
    have split : removeZeroCoins (coin :: coins) =
        if coin.amount ≠ 0 then coin :: removeZeroCoins coins else removeZeroCoins coins := by
      simp only [removeZeroCoins, List.filter_cons, decide_eq_true_eq]
    rw [split]
    by_cases zero : coin.amount = 0
    · simp [zero, ih]
    · simp [zero, ih]

/-- A new coin set holds what was given. -/
theorem newCoins_ok {coins result : Coins} (made : newCoins coins = .ok result) :
    isValid result = true ∧ ∀ denom, amountOf result denom = amountOf coins denom := by
  simp only [newCoins] at made
  split at made
  · rename_i valid
    cases made
    refine ⟨valid, fun denom => ?_⟩
    have sorted := List.perm_insertionSort (fun left right : Coin => left.denom ≤ right.denom)
      (removeZeroCoins coins)
    rw [← amountOf_removeZeroCoins coins denom]
    exact (sorted.map _).sum_eq
  · cases made

/-- Adding a coin adds its amount to its denomination. -/
theorem add_ok {coins result : Coins} {coin : Coin} (added : add coins coin = .ok result)
    (denom : Denom) :
    amountOf result denom =
      amountOf coins denom + if coin.denom = denom then coin.amount else 0 := by
  induction coins generalizing result with
  | nil =>
    cases added
    rw [amountOf_removeZeroCoins, amountOf_cons, Nat.add_comm]
  | cons head tail ih =>
    simp only [add] at added
    split at added
    · simp only [Result.bind_ok, Result.pure_ok] at added
      obtain ⟨rest, restEq, rfl⟩ := added
      rw [amountOf_append, amountOf_removeZeroCoins, ih restEq]
      simp only [amountOf_cons, amountOf_nil]
      omega
    · split at added
      · simp only [Result.bind_ok, Result.pure_ok] at added
        obtain ⟨sum, sumEq, rfl⟩ := added
        obtain ⟨same, denomEq, amountEq⟩ := Coin.add_ok sumEq
        rw [amountOf_removeZeroCoins, amountOf_cons, amountOf_cons, denomEq, amountEq, ← same]
        split <;> omega
      · rw [Result.pure_ok] at added
        subst added
        rw [amountOf_removeZeroCoins, amountOf_cons]
        omega

/-- One step of the merge of two sorted lists adds the amounts of each denomination. -/
theorem mergeCoin_ok {coin : Coin} {after coins result : Coins} {rest : Coins → Outcome Coins}
    {denom : Denom}
    (restAdds : ∀ others sum, rest others = .ok sum →
      amountOf sum denom = amountOf after denom + amountOf others denom)
    (merged : mergeCoin coin after rest coins = .ok result) :
    amountOf result denom = amountOf (coin :: after) denom + amountOf coins denom := by
  induction coins generalizing result with
  | nil =>
    cases merged
    rw [amountOf_removeZeroCoins, amountOf_nil, Nat.add_zero]
  | cons head tail ih =>
    simp only [mergeCoin] at merged
    split at merged
    · simp only [Result.bind_ok, Result.pure_ok] at merged
      obtain ⟨sum, summed, rfl⟩ := merged
      have later := restAdds _ _ summed
      rw [amountOf_append, amountOf_removeZeroCoins, later]
      simp only [amountOf_cons, amountOf_nil]
      omega
    · split at merged
      · simp only [Result.bind_ok, Result.pure_ok] at merged
        obtain ⟨both, bothEq, sum, summed, rfl⟩ := merged
        obtain ⟨same, denomEq, amountEq⟩ := Coin.add_ok bothEq
        have later := restAdds _ _ summed
        rw [amountOf_append, amountOf_removeZeroCoins, later]
        simp only [amountOf_cons, amountOf_nil, denomEq, amountEq, ← same]
        split <;> omega
      · simp only [Result.bind_ok, Result.pure_ok] at merged
        obtain ⟨sum, summed, rfl⟩ := merged
        have later := ih summed
        rw [amountOf_append, amountOf_removeZeroCoins, later]
        simp only [amountOf_cons, amountOf_nil]
        omega

/-- A sum of two lists holds what both hold. -/
theorem safeAdd_ok {left right result : Coins} (added : safeAdd left right = .ok result)
    (denom : Denom) : amountOf result denom = amountOf left denom + amountOf right denom := by
  induction left generalizing right result with
  | nil =>
    cases added
    rw [amountOf_removeZeroCoins, amountOf_nil, Nat.zero_add]
  | cons coin after ih => exact mergeCoin_ok (fun _ _ summed => ih summed) added

end Coins

end Akhira.Sdk
