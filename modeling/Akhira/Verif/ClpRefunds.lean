import Akhira.Verif.ClpWithdrawals

/-!
# The refunds of a decommissioned pool

The loop of `msgServer.DecommissionPool` computes every share from the pool as it was and rounds it
to the nearest unit. The shares add up to the reserve, the rounded ones need not: the loop runs
short when more is rounded up than down, and the subtraction panics. What is rounded down is the
sum of the remainders of the shares, which the reserve and the units decide; what is rounded up they
decide but for shares that are computed near a tie.
-/
namespace Akhira.Verif.Clp

open Akhira.Base Akhira.Base.Result Akhira.Sdk Akhira.Clp

section Shares

variable {balance units poolUnits : Nat}

/-- What is left of the share of some units in a balance after its whole units, in parts of the
units of the pool. -/
def leftOver (balance units poolUnits : Nat) : Nat := balance * units % poolUnits

/-- How far the computed share of some units can be from the exact one: by the last decimal of the
share, and by that of the units of the pool for each of them unless they are computed exactly. -/
def slack (balance units poolUnits : Nat) : ℚ :=
  ((if units ∣ poolUnits * 10 ^ 18 then 0 else (balance : ℚ) * ((units : ℚ) / poolUnits) ^ 2) + 1) /
    10 ^ 18

/-- A share that is computed exactly and lies in the middle of two units. -/
def IsTie (balance units poolUnits : Nat) : Prop :=
  units ∣ poolUnits * 10 ^ 18 ∧ 2 * leftOver balance units poolUnits = poolUnits

/-- A tie is decided by comparing products. -/
instance : Decidable (IsTie balance units poolUnits) := inferInstanceAs (Decidable (_ ∧ _))

/-- The units that a share is rounded up by: a tie goes to the even unit, and another share by a
given number. -/
def added (balance units poolUnits : Nat) (near : Int) : Int :=
  if IsTie balance units poolUnits then (balance * units / poolUnits % 2 : Nat) else near

end Shares

section Refunds

end Refunds

end Akhira.Verif.Clp
