import Akhira.Base.Json
import Akhira.Base.Utf8
import Akhira.EthBridge.Types

/-!
# Claim contents as JSON

The content of a claim is the JSON of five values. On the wire a symbol is a string of any
bytes, and `json.Marshal` writes U+FFFD for a byte that begins no character. An address of
Ethereum is written with the digits whose case a hash decides, and it is read in any case.
-/
namespace Akhira.EthBridge

open Akhira.Base Akhira.Sdk Akhira.Contracts

/-- What contents are written and read with. -/
structure JsonEnv where
  chain : Chain
  /-- `crypto.Keccak256`, on which the case of the digits of an address depends. -/
  keccak256 : Bytes → Word
  /-- `big.Int.UnmarshalText`. -/
  unmarshalText : String → Option Int
  unmarshalText_text : ∀ value, unmarshalText (intText value) = some value

/-- The claim type of a number. -/
def ClaimType.ofNumber (value : Int32) : ClaimType :=
  if unspecified : value = 0 then .unspecified
  else if burn : value = 1 then .burn
  else if lock : value = 2 then .lock
  else .other value ⟨unspecified, burn, lock⟩

/-- The number of a claim type. -/
def ClaimType.number : ClaimType → Int32
  | .unspecified => 0
  | .burn => 1
  | .lock => 2
  | .other value _ => value

section Addresses

/-- A digit of a hash. -/
def hashDigit (hash : Word) (index : Nat) : Nat := hash.toNat / 16 ^ (63 - index) % 16

/-- `common.Address.Hex`. -/
def addressText (keccak256 : Bytes → Word) (address : Address) : List Char :=
  let digits := hexEncode (bigEndian 20 address.toNat)
  let hash := keccak256 (digits.map fun digit => UInt8.ofNat digit.toNat)
  '0' :: 'x' :: digits.mapIdx fun index digit =>
    if '9' < digit ∧ 7 < hashDigit hash index then digit.toUpper else digit

/-- `hexutil.UnmarshalFixedJSON` of twenty bytes. -/
def unmarshalFixedJSON : List Char → Option Address
  | zero :: mark :: digits =>
    if zero = '0' ∧ (mark = 'x' ∨ mark = 'X') ∧ digits.length = 40 ∧
        digits.all (fun digit => (hexValue digit).isSome) then
      some (BitVec.ofNat 160 (fromBytes (decodeHex digits)))
    else none
  | _ => none

end Addresses

section Contents

/-- The fields of `OracleClaimContent`. -/
inductive ContentField where
  | cosmosReceiver
  | amount
  | symbol
  | tokenContractAddress
  | claimType
deriving DecidableEq, Repr

/-- The fields in the order in which they are written. -/
def ContentField.all : List ContentField :=
  [.cosmosReceiver, .amount, .symbol, .tokenContractAddress, .claimType]

/-- The tag of a field. -/
def ContentField.tag : ContentField → List Char
  | .cosmosReceiver => "cosmos_receiver".toList
  | .amount => "amount".toList
  | .symbol => "symbol".toList
  | .tokenContractAddress => "token_contract_address".toList
  | .claimType => "claim_type".toList

/-- `json.Marshal` of a content whose symbol has these characters. -/
def contentText (env : JsonEnv) (cosmosReceiver : AccAddress) (amount : SInt)
    (symbol : List (Option Char)) (tokenContractAddress : Address) (claimType : Int32) : String :=
  String.ofList (Json.object
    [(ContentField.cosmosReceiver.tag,
        .text ((env.chain.textOf cosmosReceiver).toList.map some)),
      (ContentField.amount.tag, .text ((intText amount.val).toList.map some)),
      (ContentField.symbol.tag, .text symbol),
      (ContentField.tokenContractAddress.tag,
        .text ((addressText env.keccak256 tokenContractAddress).map some)),
      (ContentField.claimType.tag, .number claimType.toInt)])

/-- A key in the case of the tags; two characters beyond ASCII fold to letters. -/
def foldKey (key : List Char) : List Char :=
  key.map fun char =>
    if char = '\u017f' then 's' else if char = '\u212a' then 'k' else char.toLower

/-- The field of a key. -/
def contentField (key : List Char) : Option ContentField :=
  ContentField.all.find? fun field => field.tag = foldKey key

/-- Store a member of an object in its field. -/
def setField (env : JsonEnv) (content : OracleClaimContent) :
    List Char × Json.Value → Option OracleClaimContent
  | (key, value) =>
    match contentField key, value with
    | none, _ => some content
    | some .cosmosReceiver, .text _ value =>
      -- an empty text is no address
      (if value = [] then some [] else env.chain.accAddressFromBech32 (String.ofList value)).map
        fun cosmosReceiver => { content with cosmosReceiver }
    | some .amount, .text _ value =>
      ((env.unmarshalText (String.ofList value)).bind SInt.ofText).map
        fun amount => { content with amount }
    | some .symbol, .text _ value => some { content with symbol := String.ofList value }
    | some .tokenContractAddress, .text raw _ =>
      (unmarshalFixedJSON raw).map
        fun tokenContractAddress => { content with tokenContractAddress }
    | some .claimType, .number value =>
      if -2 ^ 31 ≤ value ∧ value < 2 ^ 31 then
        some { content with claimType := .ofNumber (Int32.ofInt value) }
      else none
    | some _, _ => none

/-- A content of which no field is set. -/
def emptyContent : OracleClaimContent := ⟨[], ⟨0, by decide⟩, "", 0, .unspecified⟩

/-- The characters that `json.Unmarshal` reads in the bytes of a text. -/
def jsonCharacters (text : String) : List Char :=
  (Utf8.characters text.toUTF8.data.toList).map (Option.getD · Json.replacement)

/-- `json.Unmarshal` into a content. -/
def unmarshalContent (env : JsonEnv) (text : String) : Option OracleClaimContent := do
  let members ← Json.readObject (jsonCharacters text)
  members.foldlM (setField env) emptyContent

/-- The JSON texts of contents. -/
def jsonContents (env : JsonEnv) : ContentCodec where
  marshal content := contentText env content.cosmosReceiver content.amount
    (content.symbol.toList.map some) content.tokenContractAddress content.claimType.number
  unmarshal := unmarshalContent env

end Contents

/-- `EthBridgeClaim` as the wire format admits it: a symbol of any bytes, a claim type of any
number. The other texts that a content depends on are refused unless they are hexadecimal or
bech32. -/
structure WireClaim where
  ethereumChainId : Int64
  bridgeContractAddress : String
  nonce : Int64
  symbol : Bytes
  tokenContractAddress : String
  ethereumSender : String
  cosmosReceiver : String
  validatorAddress : String
  amount : SInt
  claimType : Int32
deriving DecidableEq, Repr

/-- The claim with U+FFFD for every byte of the symbol that begins no character. -/
def WireClaim.shown (claim : WireClaim) : EthBridgeClaim where
  ethereumChainId := claim.ethereumChainId
  bridgeContractAddress := claim.bridgeContractAddress
  nonce := claim.nonce
  symbol := String.ofList ((Utf8.characters claim.symbol).map (Option.getD · Json.replacement))
  tokenContractAddress := claim.tokenContractAddress
  ethereumSender := claim.ethereumSender
  cosmosReceiver := claim.cosmosReceiver
  validatorAddress := claim.validatorAddress
  amount := claim.amount
  claimType := .ofNumber claim.claimType

/-- `MsgCreateEthBridgeClaim.ValidateBasic`: of the symbol it reads the lower case, in which
`strings.ToLower` writes U+FFFD for a byte that begins no character. -/
def WireClaim.validateBasic (claim : WireClaim) : Outcome Unit := claim.shown.validateBasic

/-- `CreateOracleClaimFromEthClaim`. -/
def WireClaim.createOracleClaim (env : JsonEnv) (ethClaim : WireClaim) : Outcome Oracle.Claim := do
  let cosmosReceiver ← env.chain.decode ethClaim.cosmosReceiver
  let content := contentText env cosmosReceiver ethClaim.amount (Utf8.characters ethClaim.symbol)
    (hexToAddress ethClaim.tokenContractAddress) ethClaim.claimType
  pure ⟨ethClaim.shown.oracleID, ethClaim.validatorAddress, content⟩

end Akhira.EthBridge
