import Akhira.Base.Hex
import Akhira.Contracts.Evm
import Akhira.Oracle.Types
import Akhira.Sdk.Supply

/-!
# Records of the bridge module

Claims that validators make about deposits on Ethereum, the messages of the module with
their stateless checks, and the events it emits. A claim becomes a claim of the oracle
module: its id joins the decimal chain id, the decimal nonce and the sender as written, and
its content is the JSON text of what is to be paid out.
-/
namespace Akhira.EthBridge

open Akhira.Base Akhira.Sdk Akhira.Contracts

/-- The name of the module and of its account. -/
def moduleName : String := "ethbridge"

/-- What stands in front of the symbol of a token from Ethereum. -/
def peggedCoinPrefix : String := "c"

/-- The denomination of pegged ether, in which the fees of withdrawals are paid. -/
def cethSymbol : Denom := "ceth"

/-- The least fee of a burn. -/
def burnGasCost : Nat := 60000000000 * 393000

/-- The least fee of a lock. -/
def lockGasCost : Nat := 60000000000 * 393000

section Errors

/-- The error for a negative nonce. -/
def errInvalidEthNonce : SdkError :=
  .register moduleName 1 "invalid ethereum nonce provided, must be >= 0"

/-- The error for a text that is not an address of Ethereum. -/
def errInvalidEthAddress : SdkError :=
  .register moduleName 2
    "invalid ethereum address provided, must be a valid hex-encoded Ethereum address"

/-- The error for a claim content that does not read. -/
def errJSONMarshalling : SdkError :=
  .register moduleName 3 "error marshalling JSON for this claim"

/-- The error for ether with a token address. -/
def errInvalidEthSymbol : SdkError :=
  .register moduleName 4
    "invalid symbol provided, symbol 'eth' must have null address set as token contract address"

/-- The error for a claim type that names no denomination. -/
def errInvalidClaimType : SdkError := .register moduleName 5 "invalid claim type provided"

/-- The error for a chain id that does not pass. -/
def errInvalidEthereumChainID : SdkError := .register moduleName 6 "invalid ethereum chain id"

/-- The error for an amount that is not positive. -/
def errInvalidAmount : SdkError := .register moduleName 7 "amount must be a valid integer > 0"

/-- The error for an empty symbol. -/
def errInvalidSymbol : SdkError := .register moduleName 8 "symbol must be 1 character or more"

/-- The error for a burn of a symbol without the prefix, or with nothing after it. -/
def errInvalidBurnSymbol : SdkError :=
  .register moduleName 9 "symbol of token to burn must be in the form c\x7bethereumSymbol\x7d"

/-- The error for a fee below the least one. -/
def errCethAmount : SdkError := .register moduleName 10 "not enough ceth provided"

end Errors

section Hex

/-- Drop a leading `0x` or `0X`. -/
def strip0x : List Char → List Char
  | '0' :: 'x' :: digits => digits
  | '0' :: 'X' :: digits => digits
  | digits => digits

/-- `common.IsHexAddress`. -/
def isHexAddress (text : String) : Bool :=
  let digits := strip0x text.toList
  decide (digits.length = 40) && digits.all fun char => (hexValue char).isSome

/-- `hex.DecodeString`, which returns what it has read before a character it cannot read. -/
def decodeHex : List Char → Bytes
  | high :: low :: rest =>
    match hexValue high, hexValue low with
    | some left, some right => UInt8.ofNat (16 * left + right) :: decodeHex rest
    | _, _ => []
  | _ => []

/-- `common.HexToAddress`: the last twenty bytes. -/
def hexToAddress (text : String) : Address :=
  let digits := strip0x text.toList
  let padded := if digits.length % 2 = 1 then '0' :: digits else digits
  BitVec.ofNat 160 (fromBytes (decodeHex padded))

end Hex

/-- `ClaimType`; the wire format admits numbers that have no name. -/
inductive ClaimType where
  | unspecified
  | burn
  | lock
  | other (value : Int32) (unnamed : value ≠ 0 ∧ value ≠ 1 ∧ value ≠ 2)
deriving DecidableEq, Repr

/-- `ClaimType.String`. -/
def ClaimType.text : ClaimType → String
  | .unspecified => "CLAIM_TYPE_UNSPECIFIED"
  | .burn => "CLAIM_TYPE_BURN"
  | .lock => "CLAIM_TYPE_LOCK"
  | .other value _ => intText value.toInt

/-- `EthBridgeClaim`. -/
structure EthBridgeClaim where
  ethereumChainId : Int64
  bridgeContractAddress : String
  nonce : Int64
  symbol : String
  tokenContractAddress : String
  ethereumSender : String
  cosmosReceiver : String
  validatorAddress : String
  amount : SInt
  claimType : ClaimType
deriving DecidableEq, Repr

/-- `OracleClaimContent`. -/
structure OracleClaimContent where
  cosmosReceiver : AccAddress
  amount : SInt
  symbol : String
  tokenContractAddress : Address
  claimType : ClaimType
deriving DecidableEq, Repr

/-- The JSON texts of claim contents. -/
structure ContentCodec where
  /-- `json.Marshal`. -/
  marshal : OracleClaimContent → String
  /-- `json.Unmarshal`. -/
  unmarshal : String → Option OracleClaimContent

/-- The id the oracle module knows a claim by. -/
def EthBridgeClaim.oracleID (ethClaim : EthBridgeClaim) : String :=
  intText ethClaim.ethereumChainId.toInt ++ intText ethClaim.nonce.toInt ++ ethClaim.ethereumSender

/-- `CreateOracleClaimFromEthClaim`. -/
def createOracleClaimFromEthClaim (chain : Chain) (contents : ContentCodec)
    (ethClaim : EthBridgeClaim) : Outcome Oracle.Claim := do
  let cosmosReceiver ← chain.decode ethClaim.cosmosReceiver
  let content := contents.marshal ⟨cosmosReceiver, ethClaim.amount, ethClaim.symbol,
    hexToAddress ethClaim.tokenContractAddress, ethClaim.claimType⟩
  pure ⟨ethClaim.oracleID, ethClaim.validatorAddress, content⟩

/-- `CreateOracleClaimFromOracleString`. -/
def createOracleClaimFromOracleString (contents : ContentCodec) (text : String) :
    Outcome OracleClaimContent :=
  Outcome.present (contents.unmarshal text)
    (.error (errJSONMarshalling.wrap "failed to parse claim"))

section Messages

/-- `MsgLock`. -/
structure MsgLock where
  cosmosSender : String
  amount : SInt
  symbol : String
  ethereumChainId : Int64
  ethereumReceiver : String
  cethAmount : SInt
deriving DecidableEq, Repr

/-- `MsgBurn`, which has the fields of `MsgLock`. -/
structure MsgBurn extends MsgLock
deriving DecidableEq, Repr

/-- `MsgUpdateWhiteListValidator`. -/
structure MsgUpdateWhiteListValidator where
  cosmosSender : String
  validator : String
  operationType : String
deriving DecidableEq, Repr

/-- `MsgUpdateCethReceiverAccount`. -/
structure MsgUpdateCethReceiverAccount where
  cosmosSender : String
  cethReceiverAccount : String
deriving DecidableEq, Repr

/-- `MsgRescueCeth`. -/
structure MsgRescueCeth where
  cosmosSender : String
  cosmosReceiver : String
  cethAmount : SInt
deriving DecidableEq, Repr

/-- `MsgSetBlacklist`. -/
structure MsgSetBlacklist where
  sender : String
  addresses : List String
deriving DecidableEq, Repr

/-- The messages of the module. -/
inductive Msg where
  | lock (msg : MsgLock)
  | burn (msg : MsgBurn)
  | createEthBridgeClaim (claim : EthBridgeClaim)
  | updateWhiteListValidator (msg : MsgUpdateWhiteListValidator)
  | updateCethReceiverAccount (msg : MsgUpdateCethReceiverAccount)
  | rescueCeth (msg : MsgRescueCeth)
  | setBlacklist (msg : MsgSetBlacklist)
deriving DecidableEq, Repr

/-- The check for an address text that must not be empty. -/
def requireAddress (text : String) : Outcome Unit :=
  Outcome.require (text ≠ "") (errInvalidAddress.wrap text)

/-- `MsgLock.ValidateBasic`. -/
def MsgLock.validateBasic (msg : MsgLock) : Outcome Unit := do
  Outcome.require (intText msg.ethereumChainId.toInt ≠ "")
    (errInvalidEthereumChainID.wrap (intText msg.ethereumChainId.toInt))
  requireAddress msg.cosmosSender
  Outcome.require (msg.ethereumReceiver ≠ "") errInvalidEthAddress
  Outcome.require (isHexAddress msg.ethereumReceiver = true) errInvalidEthAddress
  Outcome.require (0 < msg.amount.val) errInvalidAmount
  Outcome.require (lockGasCost ≤ msg.cethAmount.val) errCethAmount
  Outcome.require (msg.symbol ≠ "") errInvalidSymbol

/-- `MsgBurn.ValidateBasic`. -/
def MsgBurn.validateBasic (msg : MsgBurn) : Outcome Unit := do
  Outcome.require (msg.ethereumChainId.toInt ≠ 0)
    (errInvalidEthereumChainID.wrap (intText msg.ethereumChainId.toInt))
  requireAddress msg.cosmosSender
  Outcome.require (msg.ethereumReceiver ≠ "") errInvalidEthAddress
  Outcome.require (isHexAddress msg.ethereumReceiver = true) errInvalidEthAddress
  Outcome.require (0 < msg.amount.val) errInvalidAmount
  Outcome.require (peggedCoinPrefix.utf8ByteSize + 1 < msg.symbol.utf8ByteSize)
    errInvalidBurnSymbol
  Outcome.require (peggedCoinPrefix.toList.isPrefixOf msg.symbol.toList = true)
    errInvalidBurnSymbol
  Outcome.require (burnGasCost ≤ msg.cethAmount.val) errCethAmount
  Outcome.require (msg.symbol.toList.drop peggedCoinPrefix.length ≠ []) errInvalidBurnSymbol

/-- `MsgCreateEthBridgeClaim.ValidateBasic`. -/
def EthBridgeClaim.validateBasic (claim : EthBridgeClaim) : Outcome Unit := do
  requireAddress claim.cosmosReceiver
  requireAddress claim.validatorAddress
  Outcome.require (0 ≤ claim.nonce.toInt) errInvalidEthNonce
  Outcome.require (isHexAddress claim.ethereumSender = true) errInvalidEthAddress
  Outcome.require (isHexAddress claim.bridgeContractAddress = true) errInvalidEthAddress
  Outcome.require (isHexAddress claim.tokenContractAddress = true) errInvalidEthAddress
  Outcome.require (claim.symbol.toLower = "eth" → hexToAddress claim.tokenContractAddress =
    hexToAddress "0x0000000000000000000000000000000000000000") errInvalidEthSymbol

/-- `ValidateBasic`. -/
def Msg.validateBasic : Msg → Outcome Unit
  | .lock msg => msg.validateBasic
  | .burn msg => msg.validateBasic
  | .createEthBridgeClaim claim => claim.validateBasic
  | .updateWhiteListValidator msg => do
    requireAddress msg.cosmosSender
    requireAddress msg.validator
  | .updateCethReceiverAccount msg => do
    requireAddress msg.cosmosSender
    requireAddress msg.cethReceiverAccount
  | .rescueCeth msg => do
    requireAddress msg.cosmosSender
    requireAddress msg.cosmosReceiver
  | .setBlacklist _ => pure ()

end Messages

/-- An event with its attributes. -/
structure Event where
  type : String
  attributes : List (String × String)
deriving DecidableEq, Repr

end Akhira.EthBridge
