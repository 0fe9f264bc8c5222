import Akhira.Contracts.Evm

/-!
# The validator set

`Valset.sol`: the validators of the current version and their powers. A reset starts a
new version and forgets nothing of the old ones. The bridge contract inherits this
storage, so the events of all its parts are one log.
-/
namespace Akhira.Contracts

open Akhira.Base

/-- `ClaimType`. -/
inductive ClaimType where
  | unsupported
  | burn
  | lock
deriving DecidableEq, Repr

/-- The events of the bridge contract. -/
inductive BridgeEvent where
  /-- `LogValidatorAdded`. -/
  | logValidatorAdded (validator : Address) (power version count total : Word)
  /-- `LogValidatorPowerUpdated`. -/
  | logValidatorPowerUpdated (validator : Address) (power version count total : Word)
  /-- `LogValidatorRemoved`. -/
  | logValidatorRemoved (validator : Address) (power version count total : Word)
  /-- `LogValsetReset`. -/
  | logValsetReset (version count total : Word)
  /-- `LogValsetUpdated`. -/
  | logValsetUpdated (version count total : Word)
  /-- `LogNewOracleClaim`. -/
  | logNewOracleClaim (prophecyID : Word) (validatorAddress : Address)
  /-- `LogBridgeBankSet`. -/
  | logBridgeBankSet (bridgeBank : Address)
  /-- `LogNewProphecyClaim`. -/
  | logNewProphecyClaim (prophecyID : Word) (claimType : ClaimType) (ethereumReceiver : Address)
      (symbol : Bytes) (amount : Word)
  /-- `LogProphecyCompleted`. -/
  | logProphecyCompleted (prophecyID : Word) (claimType : ClaimType)
deriving DecidableEq, Repr

/-- `ValsetStorage`, with the log of the contract. -/
structure Valset where
  /-- The sum of the powers of all validators, as the contract keeps it. -/
  totalPower : Word
  /-- The current version of the set. -/
  currentValsetVersion : Word
  /-- The number of validators, as the contract keeps it. -/
  validatorCount : Word
  /-- Who is a validator in which version. -/
  validators : Address → Word → Bool
  /-- The account that may change the set. -/
  operator : Address
  /-- The powers of validators in each version. -/
  powers : Address → Word → Word
  /-- The events emitted so far. -/
  events : List BridgeEvent

namespace Valset

/-- `onlyOperator`. -/
def onlyOperator (valset : Valset) (sender : Address) : Revertible Unit :=
  Revertible.require (sender = valset.operator) "Must be the operator."

/-- `isActiveValidator`. -/
def isActiveValidator (valset : Valset) (validatorAddress : Address) : Bool :=
  valset.validators validatorAddress valset.currentValsetVersion

/-- `getValidatorPower`. -/
def getValidatorPower (valset : Valset) (validatorAddress : Address) : Word :=
  valset.powers validatorAddress valset.currentValsetVersion

/-- `addValidatorInternal`. -/
def addValidatorInternal (valset : Valset) (validatorAddress : Address) (validatorPower : Word) :
    Revertible Valset := do
  let validatorCount ← SafeMath.add valset.validatorCount 1
  let totalPower ← SafeMath.add valset.totalPower validatorPower
  let version := valset.currentValsetVersion
  pure { valset with
    validatorCount
    totalPower
    validators := writeAt valset.validators validatorAddress version true
    powers := writeAt valset.powers validatorAddress version validatorPower
    events := valset.events ++
      [.logValidatorAdded validatorAddress validatorPower version validatorCount totalPower] }

/-- `resetValset`. -/
def resetValset (valset : Valset) : Revertible Valset := do
  let currentValsetVersion ← SafeMath.add valset.currentValsetVersion 1
  pure { valset with
    currentValsetVersion
    validatorCount := 0
    totalPower := 0
    events := valset.events ++ [.logValsetReset currentValsetVersion 0 0] }

/-- The loop of `_initialize` and `updateValset`. -/
def addValidators (valset : Valset) : List (Address × Word) → Revertible Valset
  | [] => pure valset
  | (validatorAddress, validatorPower) :: rest => do
    let valset ← valset.addValidatorInternal validatorAddress validatorPower
    valset.addValidators rest

/-- The common part of `_initialize` and `updateValset`: a new version with the given validators. -/
def replaceValidators (valset : Valset) (validators : List Address) (powers : List Word) :
    Revertible Valset := do
  Revertible.require (validators.length = powers.length)
    "Every validator must have a corresponding power"
  let valset ← valset.resetValset
  let valset ← valset.addValidators (validators.zip powers)
  pure { valset with
    events := valset.events ++
      [.logValsetUpdated valset.currentValsetVersion valset.validatorCount valset.totalPower] }

/-- `_initialize`. The flag that refuses a second call is the bridge's own. -/
def initializeValset (valset : Valset) (operator : Address) (initValidators : List Address)
    (initPowers : List Word) : Revertible Valset :=
  { valset with operator, currentValsetVersion := 0 }.replaceValidators initValidators initPowers

/-- `addValidator`. -/
def addValidator (valset : Valset) (sender validatorAddress : Address) (validatorPower : Word) :
    Revertible Valset := do
  valset.onlyOperator sender
  valset.addValidatorInternal validatorAddress validatorPower

/-- `updateValidatorPower`. -/
def updateValidatorPower (valset : Valset) (sender validatorAddress : Address)
    (newValidatorPower : Word) : Revertible Valset := do
  valset.onlyOperator sender
  Revertible.require (valset.isActiveValidator validatorAddress = true)
    "Can only update the power of active valdiators"
  let version := valset.currentValsetVersion
  let totalPower ← SafeMath.sub valset.totalPower (valset.powers validatorAddress version)
  let totalPower ← SafeMath.add totalPower newValidatorPower
  pure { valset with
    totalPower
    powers := writeAt valset.powers validatorAddress version newValidatorPower
    events := valset.events ++
      [.logValidatorPowerUpdated validatorAddress newValidatorPower version valset.validatorCount
        totalPower] }

/-- `removeValidator`. -/
def removeValidator (valset : Valset) (sender validatorAddress : Address) : Revertible Valset := do
  valset.onlyOperator sender
  Revertible.require (valset.isActiveValidator validatorAddress = true)
    "Can only remove active validators"
  let version := valset.currentValsetVersion
  let validatorCount ← SafeMath.sub valset.validatorCount 1
  let totalPower ← SafeMath.sub valset.totalPower (valset.powers validatorAddress version)
  pure { valset with
    validatorCount
    totalPower
    validators := writeAt valset.validators validatorAddress version false
    powers := writeAt valset.powers validatorAddress version 0
    events := valset.events ++
      [.logValidatorRemoved validatorAddress 0 version validatorCount totalPower] }

/-- `updateValset`. -/
def updateValset (valset : Valset) (sender : Address) (validators : List Address)
    (powers : List Word) : Revertible Valset := do
  valset.onlyOperator sender
  valset.replaceValidators validators powers

/-- `recoverGas`: although it asks for an earlier version, it deletes from the current one. -/
def recoverGas (valset : Valset) (sender : Address) (valsetVersion : Word)
    (validatorAddress : Address) : Revertible Valset := do
  valset.onlyOperator sender
  let version := valset.currentValsetVersion
  Revertible.require (valsetVersion.toNat < version.toNat)
    "Gas recovery only allowed for previous validator sets"
  pure { valset with
    validators := writeAt valset.validators validatorAddress version false
    powers := writeAt valset.powers validatorAddress version 0 }

end Valset

end Akhira.Contracts
