import Akhira.Base.Store
import Akhira.Dispensation.Types

/-!
# The dispensation keeper

Records are kept in one store for each status, since the status is the first byte of the key.
`DistributeDrops` goes on after a refused payout, so what the bank and the record store have
written by then stays; a call whose error the loop swallows returns the state it leaves.
-/
namespace Akhira.Dispensation

open Akhira.Base Akhira.Sdk

/-- What the module takes from its surroundings. -/
structure Environment extends Chain where
  /-- `DistributionRecord.String`. -/
  recordText : DistributionRecord → String
  /-- `UserClaim.String`. -/
  claimText : UserClaim → String

/-- `GetDistributionModuleAddress`. -/
def Environment.moduleAccount (env : Environment) : AccAddress := env.moduleAddress moduleName

/-- What a message finds besides the store and the balances. A module account does not vest. -/
structure Context (env : Environment) where
  blockHeight : Int
  /-- The block time in seconds. -/
  blockTime : Int
  locked : Locked
  unlocked : ∀ denom, locked env.moduleAccount denom = 0

/-- The dispensation store and the bank. -/
structure State where
  pending : Store String DistributionRecord
  completed : Store String DistributionRecord
  failed : Store String DistributionRecord
  distributions : Store String Distribution
  claims : Store String UserClaim
  bank : Ledger

/-- The key of a record within the store of its status. -/
def DistributionRecord.key (record : DistributionRecord) : String :=
  getDistributionRecordKey record.distributionName record.recipientAddress record.distributionType

namespace State

/-- The records behind the byte of a status. -/
def records (state : State) : DistributionStatus → Store String DistributionRecord
  | .pending => state.pending
  | .failed => state.failed
  | .completed | .unspecified => state.completed

/-- The records under the prefix of a status. Only two statuses have prefixes of their own. -/
def setRecords (state : State) (status : DistributionStatus)
    (records : Store String DistributionRecord) : State :=
  match status with
  | .pending => { state with pending := records }
  | .failed => { state with failed := records }
  | .completed | .unspecified => { state with completed := records }

/-- `SetDistributionRecord`. -/
def setDistributionRecord (env : Environment) (state : State) (record : DistributionRecord) :
    Outcome State := do
  Outcome.require (record.validate = true)
    (errInvalid.wrap ("unable to set record : " ++ env.recordText record))
  pure (state.setRecords record.distributionStatus
    ((state.records record.distributionStatus).set record.key record))

/-- `GetDistributionRecord`. -/
def getDistributionRecord (state : State) (name recipient : String) (status : DistributionStatus)
    (distributionType : DistributionType) : Option DistributionRecord :=
  (state.records status).get (getDistributionRecordKey name recipient distributionType)

/-- `DeleteDistributionRecord`. -/
def deleteDistributionRecord (state : State) (name recipient : String)
    (status : DistributionStatus) (distributionType : DistributionType) : Outcome State := do
  let key := getDistributionRecordKey name recipient distributionType
  Outcome.require ((state.records status).has key = true) (errInvalid.wrap "record Does not exist : ")
  pure (state.setRecords status ((state.records status).delete key))

/-- `ChangeRecordStatus`: the state it leaves, with the error when it returns one. -/
def changeRecordStatus (env : Environment) (state : State) (record : DistributionRecord)
    (height : Int) (newStatus : DistributionStatus) : State × Option SdkError :=
  let moved := { record with
    distributionStatus := newStatus
    distributionCompletedHeight := height }
  match state.setDistributionRecord env moved with
  | .error _ =>
    (state, some (errDistribution.wrap ("error setting distribution record  : " ++
      env.recordText moved)))
  | .ok set =>
    match set.deleteDistributionRecord record.distributionName record.recipientAddress
        record.distributionStatus record.distributionType with
    | .error _ =>
      (set, some (errDistribution.wrap ("error deleting distribution record  : " ++
        env.recordText moved)))
    | .ok next => (next, none)

/-- `GetLimitedRecordsForRunner`: the first matching records in the order of their keys. -/
def getLimitedRecordsForRunner (state : State) (distributionName authorizedRunner : String)
    (distributionType : DistributionType) (status : DistributionStatus) : List DistributionRecord :=
  ((state.records status).values.filter fun record =>
    record.distributionName = distributionName && record.distributionStatus = .pending &&
      record.authorizedRunner = authorizedRunner &&
      record.distributionType = distributionType).take maxRecordsPerBlock

/-- `VerifyAndSetDistribution`. -/
def verifyAndSetDistribution (state : State) (distributionName : String)
    (distributionType : DistributionType) (authorizedRunner : String) : Outcome State := do
  let key := getDistributionsKey distributionName distributionType authorizedRunner
  Outcome.require (state.distributions.has key = false)
    (errDistribution.wrap ("airdrop with same name already exists : " ++ distributionName ++ " "))
  let distribution : Distribution := ⟨distributionType, distributionName, authorizedRunner⟩
  Outcome.require (distribution.validate = true)
    (errDistribution.wrap ("unable to set airdrop :  " ++ distributionName ++ " "))
  pure { state with distributions := state.distributions.set key distribution }

/-- `AccumulateDrops`. -/
def accumulateDrops (env : Environment) (context : Context env) (state : State) (addr : String)
    (amount : Coins) : Outcome State := do
  let address ← (env.decode addr).replacing
    (errDecoding.wrap ("Invalid address for distribute : " ++ addr))
  let bank ← (state.bank.sendCoinsFromAccountToModule env.toChain context.locked address moduleName
    amount).replacing (errFailedInputs.wrap ("for address  : " ++ addr))
  pure { state with bank }

/-- One round of `CreateDrops`: a pending record under the same key is merged into the new one. -/
def createDrop (env : Environment) (height : Int) (name : String)
    (distributionType : DistributionType) (authorizedRunner : String) (state : State)
    (receiver : Output Coins) : Outcome State := do
  let fresh : DistributionRecord :=
    ⟨.pending, distributionType, name, receiver.address, receiver.coins, height, -1,
      authorizedRunner⟩
  let record ← (match state.getDistributionRecord name receiver.address .pending distributionType with
    | some oldRecord => fresh.add oldRecord
    | none => pure fresh)
  (state.setDistributionRecord env record).replacing
    (errFailedOutputs.wrap ("error setting distibution record  : " ++ env.recordText record))

/-- `CreateDrops`. -/
def createDrops (env : Environment) (height : Int) (state : State) (output : List (Output Coins))
    (name : String) (distributionType : DistributionType) (authorizedRunner : String) :
    Outcome State :=
  output.foldlM (createDrop env height name distributionType authorizedRunner) state

/-- What follows a payout: the record is completed; if that fails, the coins are taken back. -/
def completeDrop (env : Environment) (context : Context env) (state : State)
    (record : DistributionRecord) (recipient : AccAddress) : Outcome State :=
  match state.changeRecordStatus env record context.blockHeight .completed with
  | (next, none) =>
    if record.distributionType.isValidClaimType then
      let key := getUserClaimKey record.recipientAddress record.distributionType
      .ok { next with claims := next.claims.delete key }
    else .ok next
  | (left, some _) => do
    let bank ← (match left.bank.sendCoinsFromAccountToModule env.toChain context.locked recipient
        moduleName record.coins with
      | .ok bank => pure bank
      | .error _ => Outcome.crash ("Unable to set Distribution Records to completed : " ++
          env.recordText record))
    pure { left with bank }

/-- What follows a refused payout: the record is marked failed, and the coins stay. -/
def failDrop (env : Environment) (context : Context env) (state : State)
    (record : DistributionRecord) : Outcome State :=
  match state.changeRecordStatus env record context.blockHeight .failed with
  | (next, none) => .ok next
  | (_, some _) =>
    Outcome.crash ("Unable to set Distribution Records to Failed : " ++ env.recordText record)

/-- One round of `DistributeDrops`. -/
def distributeDrop (env : Environment) (context : Context env) (state : State)
    (record : DistributionRecord) : Outcome State :=
  match env.accAddressFromBech32 record.recipientAddress with
  | none => .ok state
  | some recipient =>
    match state.bank.sendCoinsFromModuleToAccount env.toChain context.locked moduleName recipient
        record.coins with
    | .ok bank => completeDrop env context { state with bank } record recipient
    | .error (.error _) =>
      failDrop env context { state with
        bank := state.bank.afterRefusal env.toChain context.locked moduleName recipient
          record.coins } record
    | .error (.panic reason) => Outcome.crash reason

/-- `DistributeDrops`. -/
def distributeDrops (env : Environment) (context : Context env) (state : State)
    (distributionName authorizedRunner : String) (distributionType : DistributionType) :
    Outcome State :=
  (state.getLimitedRecordsForRunner distributionName authorizedRunner distributionType
    .pending).foldlM (distributeDrop env context) state

end State

end Akhira.Dispensation
