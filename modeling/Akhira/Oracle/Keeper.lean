import Akhira.Oracle.Types
import Akhira.Sdk.Bank

/-!
# The oracle keeper

Claims are collected in prophecies until one content has the required share of the
power of the white-listed bonded validators, or none can reach it any more. The powers
are those of the moment a claim is processed, and the contents are walked in the order
the runtime enumerates a map, which differs between nodes. Ratios are compared exactly.
-/
namespace Akhira.Oracle

open Akhira.Base Akhira.Sdk

/-- A validator as the staking module returns it. -/
structure Validator where
  /-- The operator address. -/
  operator : ValAddress
  /-- The tokens delegated to it. -/
  tokens : Nat
  /-- Whether it is bonded. -/
  bonded : Bool
deriving DecidableEq, Repr

/-- `sdk.DefaultPowerReduction` as the app sets it. -/
def powerReduction : Nat := 10 ^ 18

/-- `GetConsensusPower`. -/
def Validator.getConsensusPower (validator : Validator) : Nat :=
  if validator.bonded then validator.tokens / powerReduction else 0

/-- The staking module at the moment a message is processed. -/
structure Staking where
  /-- `GetValidator`. -/
  getValidator : ValAddress → Option Validator
  /-- `GetBondedValidatorsByPower`. -/
  bondedValidators : List Validator
  /-- No operator is listed twice. -/
  distinct : (bondedValidators.map Validator.operator).Nodup
  /-- What is listed is bonded. -/
  listed : ∀ validator ∈ bondedValidators, validator.bonded = true

/-- The order in which a node enumerates a map. -/
structure MapOrder where
  /-- The enumeration. -/
  enumerate : List (String × List (Option ValAddress)) → List (String × List (Option ValAddress))
  /-- It visits every entry once. -/
  visits : ∀ entries, (enumerate entries).Perm entries

/-- The share of the power that makes a content succeed; `NewKeeper` refuses others. -/
structure Consensus where
  /-- The numerator. -/
  numerator : Nat
  /-- The denominator. -/
  denominator : Nat
  /-- The share is positive. -/
  positive : 0 < numerator
  /-- The share is at most one. -/
  atMostOne : numerator ≤ denominator

namespace Consensus

/-- `float64(power) / float64(total) >= consensusNeeded`; a division by zero is infinite, and zero
by zero is no number and compares false. -/
def reachedBy (needed : Consensus) (power total : Int) : Bool :=
  if total = 0 then decide (0 < power)
  else decide ((needed.numerator : Int) * total ≤ power * needed.denominator)

/-- `float64(power) / float64(total) < consensusNeeded`, with the same divisions by zero. -/
def outOfReachOf (needed : Consensus) (power total : Int) : Bool :=
  if total = 0 then decide (power < 0)
  else decide (power * needed.denominator < (needed.numerator : Int) * total)

end Consensus

/-- `inWhiteList`. -/
def inWhiteList (validator : Validator) (whiteList : List ValAddress) : Bool :=
  whiteList.any fun address => validator.operator.bytes = address.bytes

/-- The validators by the texts of their operators. -/
def validatorsByAddress (codec : ValCodec) (validators : List Validator) : Store String Validator :=
  validators.foldl (fun store validator => store.set (codec.text validator.operator) validator)
    Store.empty

/-- The power of one claimant; a validator that is not found counts nothing. -/
def claimantPower (codec : ValCodec) (validators : Store String Validator)
    (address : Option ValAddress) : Int :=
  match validators.get (codec.listedText address) with
  | some validator => validator.getConsensusPower
  | none => 0

/-- What the loop of `FindHighestClaim` carries. -/
structure Highest where
  /-- The content with the highest power so far. -/
  claim : String
  /-- Its power. -/
  power : Int
  /-- The power of all contents so far. -/
  totalClaims : Int
deriving DecidableEq, Repr

/-- One round of the loop. -/
def Highest.visit (power : List (Option ValAddress) → Int) (highest : Highest)
    (entry : String × List (Option ValAddress)) : Highest :=
  let claimPower := power entry.2
  let totalClaims := highest.totalClaims + claimPower
  if highest.power < claimPower then ⟨entry.1, claimPower, totalClaims⟩
  else { highest with totalClaims }

/-- `FindHighestClaim`: the highest content with its power, the power of all contents, and the
power of the white-listed bonded validators. -/
def Prophecy.findHighestClaim (codec : ValCodec) (staking : Staking) (order : MapOrder)
    (prophecy : Prophecy) (whiteList : List ValAddress) : Highest × Int :=
  let totalPower := ((staking.bondedValidators.filter fun validator =>
    inWhiteList validator whiteList).map fun validator =>
      (validator.getConsensusPower : Int)).sum
  let validators := validatorsByAddress codec staking.bondedValidators
  let power := fun addresses : List (Option ValAddress) =>
    (addresses.map (claimantPower codec validators)).sum
  ((order.enumerate prophecy.claimValidators.entries).foldl (Highest.visit power) ⟨"", -1, 0⟩,
    totalPower)

/-- What the oracle module is built with. -/
structure Environment where
  /-- The texts of validator addresses. -/
  codec : ValCodec
  /-- The share of the power that makes a content succeed. -/
  consensusNeeded : Consensus

/-- The share the app requires. -/
def defaultConsensusNeeded : Consensus := ⟨7, 10, by decide, by decide⟩

/-- The oracle store. The white list is stored as texts, which are read back when it is used. -/
structure State where
  /-- The validators that may claim. -/
  whiteList : List ValAddress
  /-- The account that may change the white list; empty when unset. -/
  adminAccount : AccAddress
  /-- The stored prophecies by key. -/
  prophecies : Store String DBProphecy

/-- What a message finds besides the oracle store. -/
structure Context where
  /-- The staking module. -/
  staking : Staking
  /-- The order in which the node enumerates maps. -/
  order : MapOrder

/-- The key of a prophecy. -/
def prophecyKey (id : String) : String := "\x02_" ++ id

namespace State

/-- `GetProphecy`. -/
def getProphecy (codec : ValCodec) (state : State) (id : String) : Option Prophecy := do
  let db ← state.prophecies.get (prophecyKey id)
  db.deserializeFromDB codec

/-- The prophecy of an id, or a new one. -/
def prophecyOrNew (codec : ValCodec) (state : State) (id : String) : Prophecy :=
  (state.getProphecy codec id).getD (newProphecy id)

/-- `SetProphecy`. -/
def setProphecy (codec : ValCodec) (state : State) (prophecy : Prophecy) : State :=
  { state with
    prophecies :=
      state.prophecies.set (prophecyKey prophecy.id) (prophecy.serializeForDB codec) }

/-- `EnsureAddressIsInWhitelist`. -/
def ensureAddressIsInWhitelist (codec : ValCodec) (state : State) (validatorAddress : String) :
    Outcome Unit :=
  Outcome.require (∃ address ∈ state.whiteList, codec.text address = validatorAddress)
    errValidatorNotInWhiteList

/-- `IsAdminAccount`. -/
def isAdminAccount (state : State) (account : AccAddress) : Bool :=
  state.adminAccount ≠ [] ∧ state.adminAccount = account

/-- `AddOracleWhiteList`. -/
def addOracleWhiteList (state : State) (validator : ValAddress) : State :=
  { state with whiteList := state.whiteList ++ [validator] }

/-- `RemoveOracleWhiteList`. -/
def removeOracleWhiteList (state : State) (validator : ValAddress) : State :=
  { state with whiteList := state.whiteList.filter fun address => address ≠ validator }

/-- `ProcessUpdateWhiteListValidator`. -/
def processUpdateWhiteListValidator (state : State) (cosmosSender : AccAddress)
    (validator : ValAddress) (operationtype : String) : Outcome State := do
  Outcome.require (state.isAdminAccount cosmosSender = true) errNotAdminAccount
  if operationtype = "add" then pure (state.addOracleWhiteList validator)
  else if operationtype = "remove" then pure (state.removeOracleWhiteList validator)
  else Outcome.fail errInvalidOperationType

end State

/-- `checkActiveValidator`. -/
def checkActiveValidator (staking : Staking) (validatorAddress : ValAddress) : Bool :=
  match staking.getValidator validatorAddress with
  | some validator => validator.bonded
  | none => false

/-- `processCompletion`: the prophecy with the status its claims give it. -/
def processCompletion (env : Environment) (context : Context) (whiteList : List ValAddress)
    (prophecy : Prophecy) : Prophecy :=
  let (highest, totalPower) :=
    prophecy.findHighestClaim env.codec context.staking context.order whiteList
  let remainingPossibleClaimPower := totalPower - highest.totalClaims
  let highestPossibleClaimPower := highest.power + remainingPossibleClaimPower
  if env.consensusNeeded.reachedBy highest.power totalPower then
    { prophecy with status := ⟨.success, highest.claim⟩ }
  else if env.consensusNeeded.outOfReachOf highestPossibleClaimPower totalPower then
    { prophecy with status := ⟨.failed, prophecy.status.finalClaim⟩ }
  else prophecy

/-- `ProcessClaim`. -/
def processClaim (env : Environment) (context : Context) (state : State) (claim : Claim) :
    Outcome (State × Status) := do
  state.ensureAddressIsInWhitelist env.codec claim.validatorAddress
  let valAddr ← Outcome.present (env.codec.valAddressFromBech32 claim.validatorAddress)
    (.error (.register "bech32" 0 "decoding bech32 failed"))
  Outcome.require (checkActiveValidator context.staking valAddr = true) errInvalidValidator
  Outcome.require (claim.id ≠ "") errInvalidIdentifier
  Outcome.require (claim.content ≠ "") errInvalidClaim
  let prophecy := state.prophecyOrNew env.codec claim.id
  Outcome.require (prophecy.status.text = .pending) errProphecyFinalized
  Outcome.require (prophecy.contentOf claim.validatorAddress = "") errDuplicateMessage
  let prophecy := prophecy.addClaim env.codec valAddr claim.content
  let prophecy := processCompletion env context state.whiteList prophecy
  pure (state.setProphecy env.codec prophecy, prophecy.status)

/-- A message to the oracle module. -/
inductive Msg where
  /-- A claim. -/
  | claim (claim : Claim)
  /-- A change of the white list. -/
  | updateWhiteListValidator (cosmosSender : AccAddress) (validator : ValAddress)
      (operationtype : String)
deriving DecidableEq, Repr

/-- A message with what it finds. -/
structure Delivery where
  /-- What the message finds. -/
  context : Context
  /-- The message. -/
  msg : Msg

/-- Deliver a message. -/
def deliver (env : Environment) (state : State) (delivery : Delivery) : Outcome State :=
  match delivery.msg with
  | .claim claim => do
    let processed ← processClaim env delivery.context state claim
    pure processed.1
  | .updateWhiteListValidator cosmosSender validator operationtype =>
    state.processUpdateWhiteListValidator cosmosSender validator operationtype

end Akhira.Oracle
