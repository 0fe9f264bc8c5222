import Akhira.Sdk.Bank

/-!
# Distributions and their records

The types of the dispensation module with their stateless checks and store keys. A record's key
holds the name and type of its distribution and the recipient, but not the runner, and a name is
the block height with the distributor's text.
-/
namespace Akhira.Dispensation

open Akhira.Base Akhira.Sdk

/-- The name of the module and of its account. -/
def moduleName : String := "dispensation"

/-- `MaxRecordsPerBlock`. -/
def maxRecordsPerBlock : Nat := 10

/-- The error for fields that do not pass. -/
def errInvalid : SdkError := .register moduleName 1 "invalid"

/-- The error for coins that cannot be collected. -/
def errFailedInputs : SdkError := .register moduleName 4 "Failed in collecting funds"

/-- The error for coins that cannot be paid out. -/
def errFailedOutputs : SdkError := .register moduleName 5 "Failed in distributing funds"

/-- The error for a distribution that cannot be made. -/
def errDistribution : SdkError := .register moduleName 6 "DistributionFailed"

/-- The bank's `ErrNoOutputs`. -/
def errNoOutputs : SdkError := .register "bank" 3 "no outputs to send transaction"

/-- `DistributionType`; a number without a name is checked like the unspecified one. -/
inductive DistributionType where
  | unspecified
  | airdrop
  | validatorSubsidy
  | liquidityMining
deriving DecidableEq, Repr

/-- The number of a type on the wire, as record names spell it. -/
def DistributionType.number : DistributionType → Nat
  | .unspecified => 0
  | .airdrop => 1
  | .validatorSubsidy => 2
  | .liquidityMining => 3

/-- `DistributionType.String`. -/
def DistributionType.text : DistributionType → String
  | .unspecified => "DISTRIBUTION_TYPE_UNSPECIFIED"
  | .airdrop => "DISTRIBUTION_TYPE_AIRDROP"
  | .validatorSubsidy => "DISTRIBUTION_TYPE_VALIDATOR_SUBSIDY"
  | .liquidityMining => "DISTRIBUTION_TYPE_LIQUIDITY_MINING"

/-- `IsValidDistributionType`. -/
def DistributionType.isValidDistributionType (distributionType : DistributionType) : Bool :=
  distributionType ≠ .unspecified

/-- `IsValidClaimType`, and `DoesTypeSupportClaim` of a record. -/
def DistributionType.isValidClaimType : DistributionType → Bool
  | .liquidityMining | .validatorSubsidy => true
  | .unspecified | .airdrop => false

/-- `DistributionStatus`. -/
inductive DistributionStatus where
  | unspecified
  | pending
  | completed
  | failed
deriving DecidableEq, Repr

/-- `Distribution`. -/
structure Distribution where
  distributionType : DistributionType
  distributionName : String
  runner : String
deriving DecidableEq, Repr

/-- `Distribution.Validate`. -/
def Distribution.validate (distribution : Distribution) : Bool := distribution.distributionName ≠ ""

/-- `DistributionRecord`. -/
structure DistributionRecord where
  distributionStatus : DistributionStatus
  distributionType : DistributionType
  distributionName : String
  recipientAddress : String
  coins : Coins
  distributionStartHeight : Int
  distributionCompletedHeight : Int
  authorizedRunner : String
deriving DecidableEq, Repr

/-- `DistributionRecord.Validate`. -/
def DistributionRecord.validate (record : DistributionRecord) : Bool :=
  record.recipientAddress ≠ "" && record.coins.isValid && record.coins ≠ []

/-- `DistributionRecord.Add`: the coins of both, and everything else of the first. -/
def DistributionRecord.add (record other : DistributionRecord) : Outcome DistributionRecord := do
  let coins ← record.coins.safeAdd other.coins
  pure { record with coins }

/-- `UserClaim`, with the time in seconds. -/
structure UserClaim where
  userAddress : String
  userClaimType : DistributionType
  userClaimTime : Int
deriving DecidableEq, Repr

/-- `UserClaim.Validate`. -/
def UserClaim.validate (claim : UserClaim) : Bool := claim.userAddress ≠ ""

/-- `GetDistributionRecordKey` behind the status byte. -/
def getDistributionRecordKey (name recipient : String) (distributionType : DistributionType) :
    String :=
  name ++ "_" ++ natText distributionType.number ++ "_" ++ recipient

/-- `GetDistributionsKey` behind its byte. -/
def getDistributionsKey (name : String) (distributionType : DistributionType)
    (authorizedRunner : String) : String :=
  name ++ "_" ++ natText distributionType.number ++ "_" ++ authorizedRunner

/-- `GetUserClaimKey` behind its byte. -/
def getUserClaimKey (userAddress : String) (userClaimType : DistributionType) : String :=
  userAddress ++ "_" ++ natText userClaimType.number

/-- A coin of a message before it is checked. -/
structure RawCoin where
  denom : Denom
  amount : SInt
deriving DecidableEq, Repr

/-- A coin whose denomination matches the rule and whose amount is not negative. -/
def RawCoin.coin (raw : RawCoin) : Option Coin :=
  (Coin.newCoin raw.denom raw.amount).toOption

/-- `out.Coins.Sort()` followed by `IsValid`, with the sorted coins. -/
def checkCoins (coins : List RawCoin) : Option Coins := do
  let sorted ← (coins.insertionSort fun left right => left.denom ≤ right.denom).mapM RawCoin.coin
  if Coins.isValid sorted then some sorted else none

/-- `banktypes.Output`, with the coins as given or as checked. -/
structure Output (coins : Type) where
  address : String
  coins : coins
deriving DecidableEq, Repr

/-- `MsgCreateDistribution`. -/
structure MsgCreateDistribution where
  distributor : String
  authorizedRunner : String
  distributionType : DistributionType
  output : List (Output (List RawCoin))
deriving DecidableEq, Repr

/-- `MsgCreateUserClaim`. -/
structure MsgCreateUserClaim where
  userClaimAddress : String
  userClaimType : DistributionType
deriving DecidableEq, Repr

/-- `MsgRunDistribution`. -/
structure MsgRunDistribution where
  authorizedRunner : String
  distributionName : String
  distributionType : DistributionType
deriving DecidableEq, Repr

/-- Replace the decoding error of an address. -/
def requireAddress (chain : Chain) (address : String) (error : SdkError) : Outcome Unit :=
  Outcome.require ((chain.accAddressFromBech32 address).isSome = true) error

/-- One round of the loop over the outputs. -/
def checkOutput (chain : Chain) (out : Output (List RawCoin)) : Outcome (Output Coins) := do
  requireAddress chain out.address (errInvalid.wrap "Invalid Recipient Address")
  let coins ← Outcome.present (checkCoins out.coins) (.error (errInvalid.wrap "Invalid Coins"))
  pure ⟨out.address, coins⟩

/-- `MsgCreateDistribution.ValidateBasic`. It sorts the coins in place, so the handler sees the
outputs it returns. -/
def MsgCreateDistribution.validateBasic (chain : Chain) (msg : MsgCreateDistribution) :
    Outcome (List (Output Coins)) := do
  Outcome.require (msg.distributionType.isValidDistributionType = true)
    (errInvalid.wrap "Invalid Distribution Type")
  Outcome.require (msg.output ≠ []) (errInvalid.wrap "Outputlist cannot be empty")
  requireAddress chain msg.distributor
    (errInvalid.wrap ("Invalid Distributor Address : " ++ msg.distributor))
  requireAddress chain msg.authorizedRunner
    (errInvalid.wrap ("Invalid Authorized Address : " ++ msg.authorizedRunner))
  msg.output.mapM (checkOutput chain)

/-- `MsgCreateUserClaim.ValidateBasic`. -/
def MsgCreateUserClaim.validateBasic (chain : Chain) (msg : MsgCreateUserClaim) : Outcome Unit := do
  requireAddress chain msg.userClaimAddress (errInvalidAddress.wrap msg.userClaimAddress)
  Outcome.require (msg.userClaimType.isValidClaimType = true)
    (errInvalid.wrap msg.userClaimType.text)

/-- `MsgRunDistribution.ValidateBasic`. -/
def MsgRunDistribution.validateBasic (chain : Chain) (msg : MsgRunDistribution) : Outcome Unit := do
  Outcome.require (msg.distributionType.isValidDistributionType = true)
    (errInvalid.wrap "Invalid Distribution Type")
  Outcome.require (msg.distributionName ≠ "") (errInvalid.wrap msg.distributionName)
  requireAddress chain msg.authorizedRunner (errInvalid.wrap "Invalid Runner Address")

end Akhira.Dispensation
