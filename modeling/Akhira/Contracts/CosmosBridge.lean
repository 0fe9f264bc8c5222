import Akhira.Contracts.Valset
import Akhira.Contracts.BridgeBank

/-!
# The bridge contract

`CosmosBridge.sol` and `Oracle.sol`. A validator's claim adds its power to the signed
power of the prophecy; whether a prophecy is complete is not stored but read off the
signed power and the current total power at each call. The bridge and the bank are one
system here, as a claim that completes a prophecy calls the bank.
-/
namespace Akhira.Contracts

open Akhira.Base

/-- `CosmosBridgeStorage` and `OracleStorage` over the validator set. -/
structure CosmosBridge extends Valset where
  /-- The address of the contract. -/
  self : Address
  /-- Whether the contract has been set up. -/
  isInitialized : Bool
  /-- The bank contract. -/
  bridgeBank : Address
  /-- Whether the bank has been set. -/
  hasBridgeBank : Bool
  /-- The percentage of the total power that completes a prophecy. -/
  consensusThreshold : Word
  /-- The power that has signed each prophecy. -/
  oracleClaimValidators : Word → Word
  /-- Who has claimed which prophecy. -/
  hasMadeClaim : Word → Address → Bool

/-- The two contracts. -/
structure BridgeSystem where
  /-- The bridge. -/
  bridge : CosmosBridge
  /-- The bank. -/
  bank : BridgeBank

/-- The arguments of `newProphecyClaim`. -/
structure ProphecyClaim where
  /-- Whether tokens are unlocked or minted. -/
  claimType : ClaimType
  /-- The address text of the sender on the other chain. -/
  cosmosSender : Bytes
  /-- The account sequence of the sender. -/
  cosmosSenderSequence : Word
  /-- The receiver. -/
  ethereumReceiver : Address
  /-- The token symbol. -/
  symbol : Bytes
  /-- The amount. -/
  amount : Word
deriving DecidableEq, Repr

/-- The byte of an enumeration value. -/
def ClaimType.byte : ClaimType → UInt8
  | .unsupported => 0
  | .burn => 1
  | .lock => 2

/-- `abi.encodePacked` of the arguments. -/
def ProphecyClaim.pack (claim : ProphecyClaim) : Bytes :=
  [claim.claimType.byte] ++ claim.cosmosSender ++ packWord claim.cosmosSenderSequence ++
    packAddress claim.ethereumReceiver ++ claim.symbol ++ packWord claim.amount

/-- `getProphecyID`. -/
def getProphecyID (keccak256 : Bytes → Word) (claim : ProphecyClaim) : Word :=
  keccak256 claim.pack

namespace CosmosBridge

/-- A contract before it is set up. -/
def deployed (self : Address) : CosmosBridge where
  totalPower := 0
  currentValsetVersion := 0
  validatorCount := 0
  validators _ _ := false
  operator := 0
  powers _ _ := 0
  events := []
  self
  isInitialized := false
  bridgeBank := 0
  hasBridgeBank := false
  consensusThreshold := 0
  oracleClaimValidators _ := 0
  hasMadeClaim _ _ := false

/-- `initialize`, with `Oracle._initialize`. -/
def initializeBridge (bridge : CosmosBridge) (operator : Address) (consensusThreshold : Word)
    (initValidators : List Address) (initPowers : List Word) : Revertible CosmosBridge := do
  Revertible.require (bridge.isInitialized = false) "Initialized"
  Revertible.require (0 < consensusThreshold.toNat) "Consensus threshold must be positive."
  Revertible.require (consensusThreshold.toNat ≤ 100) "Invalid consensus threshold."
  let valset ← bridge.toValset.initializeValset operator initValidators initPowers
  pure { bridge with
    toValset := valset
    isInitialized := true
    hasBridgeBank := false
    consensusThreshold }

/-- `changeOperator`. -/
def changeOperator (bridge : CosmosBridge) (sender newOperator : Address) :
    Revertible CosmosBridge := do
  bridge.onlyOperator sender
  Revertible.require (newOperator ≠ 0) "invalid address"
  pure { bridge with operator := newOperator }

/-- `setBridgeBank`. -/
def setBridgeBank (bridge : CosmosBridge) (sender bridgeBank : Address) :
    Revertible CosmosBridge := do
  bridge.onlyOperator sender
  Revertible.require (bridge.hasBridgeBank = false)
    "The Bridge Bank cannot be updated once it has been set"
  pure { bridge with
    hasBridgeBank := true
    bridgeBank
    events := bridge.events ++ [.logBridgeBankSet bridgeBank] }

/-- A change of the validator set that leaves the rest of the contract. -/
def withValset (bridge : CosmosBridge) (change : Revertible Valset) : Revertible CosmosBridge := do
  let valset ← change
  pure { bridge with toValset := valset }

/-- `getProphecyThreshold`: whether the signed power has reached the threshold, and both. -/
def getProphecyThreshold (bridge : CosmosBridge) (prophecyID : Word) :
    Revertible (Bool × Word × Word) := do
  let signedPower := bridge.oracleClaimValidators prophecyID
  let prophecyPowerThreshold ← SafeMath.mul bridge.totalPower bridge.consensusThreshold
  let prophecyPowerCurrent ← SafeMath.mul signedPower 100
  pure (decide (prophecyPowerThreshold.toNat ≤ prophecyPowerCurrent.toNat), prophecyPowerCurrent,
    prophecyPowerThreshold)

/-- `newOracleClaim`: record a claim and tell whether the prophecy is complete. -/
def newOracleClaim (bridge : CosmosBridge) (prophecyID : Word) (validatorAddress : Address) :
    Revertible (CosmosBridge × Bool) := do
  Revertible.require (bridge.hasMadeClaim prophecyID validatorAddress = false)
    "Cannot make duplicate oracle claims from the same address."
  let signedPower ← SafeMath.add (bridge.oracleClaimValidators prophecyID)
    (bridge.getValidatorPower validatorAddress)
  let bridge := { bridge with
    hasMadeClaim := writeAt bridge.hasMadeClaim prophecyID validatorAddress true
    oracleClaimValidators := write bridge.oracleClaimValidators prophecyID signedPower
    events := bridge.events ++ [.logNewOracleClaim prophecyID validatorAddress] }
  let valid ← bridge.getProphecyThreshold prophecyID
  pure (bridge, valid.1)

end CosmosBridge

namespace BridgeSystem

/-- The bank contract as the bridge calls it: without code at the address the call reverts. -/
def callBank (system : BridgeSystem) : Revertible BridgeBank := do
  Revertible.require (system.bridge.bridgeBank = system.bank.self) ""
  pure system.bank

/-- The token check of the first claim on a prophecy; a lock may deploy a bridge token. -/
def prepareToken (keccak256 : Bytes → Word) (world : World) (bank : BridgeBank) (sender : Address)
    (claimType : ClaimType) (symbol : Bytes) : Revertible BridgeBank :=
  match claimType with
  | .burn => do
    Revertible.require (¬(bank.getLockedTokenAddress symbol = 0 ∧
      keccak256 symbol ≠ keccak256 (ascii "eth"))) "Invalid token address"
    pure bank
  | .lock =>
    if bank.getBridgeToken symbol = 0 then bank.createNewBridgeToken world sender symbol
    else pure bank
  | .unsupported =>
    Revertible.revert "Invalid claim type, only burn and lock are supported."

/-- The first claim on a prophecy: look at the token and announce the prophecy. -/
def announceProphecy (keccak256 : Bytes → Word) (world : World) (system : BridgeSystem)
    (claim : ProphecyClaim) : Revertible BridgeSystem := do
  let bank ← system.callBank
  let symbol := bank.safeLowerToUpperTokens keccak256 claim.symbol
  let bridge := system.bridge
  let bank ← prepareToken keccak256 world bank bridge.self claim.claimType symbol
  pure { system with
    bank
    bridge := { bridge with
      events := bridge.events ++
        [.logNewProphecyClaim (getProphecyID keccak256 claim) claim.claimType
          claim.ethereumReceiver symbol claim.amount] } }

/-- `completeProphecyClaim`: unlock or mint, then log the completion. -/
def completeProphecyClaim (keccak256 : Bytes → Word) (world : World) (system : BridgeSystem)
    (claim : ProphecyClaim) : Revertible BridgeSystem := do
  let bank ← system.callBank
  let bridge := system.bridge
  let bank ← (if claim.claimType = .burn then
      bank.unlock keccak256 world bridge.self claim.ethereumReceiver claim.symbol claim.amount
    else
      bank.mintBridgeTokens keccak256 world bridge.self claim.ethereumReceiver claim.symbol
        claim.amount)
  pure { system with
    bank
    bridge := { bridge with
      events := bridge.events ++
        [.logProphecyCompleted (getProphecyID keccak256 claim) claim.claimType] } }

/-- `newProphecyClaim`. -/
def newProphecyClaim (keccak256 : Bytes → Word) (world : World) (system : BridgeSystem)
    (sender : Address) (claim : ProphecyClaim) : Revertible BridgeSystem := do
  Revertible.require (system.bridge.isActiveValidator sender = true) "Must be an active validator"
  let prophecyID := getProphecyID keccak256 claim
  let prophecyCompleted ← system.bridge.getProphecyThreshold prophecyID
  Revertible.require (prophecyCompleted.1 = false) "prophecyCompleted"
  let system ← (if system.bridge.oracleClaimValidators prophecyID = 0 then
      system.announceProphecy keccak256 world claim
    else pure system)
  let claimed ← system.bridge.newOracleClaim prophecyID sender
  let system := { system with bridge := claimed.1 }
  if claimed.2 then system.completeProphecyClaim keccak256 world claim else pure system

end BridgeSystem

/-- The functions accounts call. -/
inductive Action where
  /-- `initialize`. -/
  | initializeBridge (operator : Address) (consensusThreshold : Word)
      (initValidators : List Address) (initPowers : List Word)
  /-- `changeOperator`. -/
  | changeOperator (newOperator : Address)
  /-- `setBridgeBank`. -/
  | setBridgeBank (bridgeBank : Address)
  /-- `addValidator`. -/
  | addValidator (validatorAddress : Address) (validatorPower : Word)
  /-- `updateValidatorPower`. -/
  | updateValidatorPower (validatorAddress : Address) (newValidatorPower : Word)
  /-- `removeValidator`. -/
  | removeValidator (validatorAddress : Address)
  /-- `updateValset`. -/
  | updateValset (validators : List Address) (powers : List Word)
  /-- `recoverGas`. -/
  | recoverGas (valsetVersion : Word) (validatorAddress : Address)
  /-- `newProphecyClaim`. -/
  | newProphecyClaim (claim : ProphecyClaim)
  /-- A function of the bank. -/
  | bank (action : BankAction)
deriving DecidableEq, Repr

/-- A call by an account, with what other contracts answer during it. -/
structure Call where
  /-- `msg.sender`. -/
  sender : Address
  /-- The answers of other contracts. -/
  world : World
  /-- The function and its arguments. -/
  action : Action

/-- A call of the bridge contract that leaves the bank. -/
def BridgeSystem.withBridge (system : BridgeSystem) (change : Revertible CosmosBridge) : Revertible BridgeSystem := do
  let bridge ← change
  pure { system with bridge }

/-- Execute a call. -/
def execute (keccak256 : Bytes → Word) (system : BridgeSystem) (call : Call) : Revertible BridgeSystem :=
  let bridge := system.bridge
  let valset := bridge.toValset
  match call.action with
  | .initializeBridge operator consensusThreshold initValidators initPowers =>
    system.withBridge (bridge.initializeBridge operator consensusThreshold initValidators initPowers)
  | .changeOperator newOperator => system.withBridge (bridge.changeOperator call.sender newOperator)
  | .setBridgeBank bridgeBank => system.withBridge (bridge.setBridgeBank call.sender bridgeBank)
  | .addValidator validatorAddress validatorPower =>
    system.withBridge
      (bridge.withValset (valset.addValidator call.sender validatorAddress validatorPower))
  | .updateValidatorPower validatorAddress newValidatorPower =>
    system.withBridge (bridge.withValset
      (valset.updateValidatorPower call.sender validatorAddress newValidatorPower))
  | .removeValidator validatorAddress =>
    system.withBridge (bridge.withValset (valset.removeValidator call.sender validatorAddress))
  | .updateValset validators powers =>
    system.withBridge (bridge.withValset (valset.updateValset call.sender validators powers))
  | .recoverGas valsetVersion validatorAddress =>
    system.withBridge
      (bridge.withValset (valset.recoverGas call.sender valsetVersion validatorAddress))
  | .newProphecyClaim claim =>
    system.newProphecyClaim keccak256 call.world call.sender claim
  | .bank action => do
    let bank ← system.bank.call call.world call.sender action
    pure { system with bank }

end Akhira.Contracts
