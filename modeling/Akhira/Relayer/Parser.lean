import Akhira.Contracts.CosmosBridge
import Akhira.EthBridge.Types

/-!
# The relayer's parsers

A lock or burn event of the chain becomes the arguments of `newProphecyClaim` on Ethereum, and
a lock or burn event of Ethereum becomes a claim on the chain.
-/
namespace Akhira.Relayer

open Akhira.Base Akhira.Sdk Akhira.Contracts Akhira.EthBridge

/-- `types.Event`, as far as the chain emits it. -/
inductive EventKind where
  | unsupported
  | msgBurn
  | msgLock
deriving DecidableEq, Repr

/-- `getOracleClaimType`. -/
def getOracleClaimType (eventType : String) : EventKind :=
  if eventType = "burn" then .msgBurn else if eventType = "lock" then .msgLock else .unsupported

/-- The bytes of a Go string. -/
def utf8 (text : String) : Bytes := text.toUTF8.data.toList

/-- The bytes of a text are those of its characters. -/
theorem utf8_eq (text : String) : utf8 text = text.toList.flatMap String.utf8EncodeChar := by
  rw [← @String.ofList_toList text, String.toList_ofList]
  exact List.toList_data_toByteArray

/-- Different texts have different bytes. -/
theorem utf8_injective {left right : String} (same : utf8 left = utf8 right) : left = right := by
  have arrays := Array.toList_inj.mp same
  exact String.toByteArray_inj.mp (ByteArray.ext arrays)

/-- Two texts of the same bytes are the same text. -/
@[simp]
theorem utf8_inj {left right : String} : utf8 left = utf8 right ↔ left = right :=
  ⟨utf8_injective, congrArg utf8⟩

/-- The text that bytes encode. -/
def textOf (bytes : Bytes) : Option String := String.fromUTF8? ⟨bytes.toArray⟩

/-- The bytes of a text encode it. -/
theorem textOf_utf8 (text : String) : textOf (utf8 text) = some text := by
  have same : (⟨(utf8 text).toArray⟩ : ByteArray) = text.toByteArray :=
    ByteArray.ext Array.toArray_toList
  rw [textOf, same, String.fromUTF8?, dif_pos text.isValidUTF8]
  exact congrArg some (String.toByteArray_inj.mp rfl)

/-- The bytes of texts one after the other. -/
theorem utf8_append (left right : String) : utf8 (left ++ right) = utf8 left ++ utf8 right := by
  simp [utf8]

/-- The characters of ASCII bytes. -/
def asciiText (bytes : Bytes) : String := String.ofList (bytes.map fun byte => Char.ofNat byte.toNat)

/-- A Go string. Bytes that are not UTF-8 stand for one character each. -/
def goText (bytes : Bytes) : String := (textOf bytes).getD (asciiText bytes)

/-- The bytes of a text are read as the text itself. -/
@[simp]
theorem goText_utf8 (text : String) : goText (utf8 text) = text := by
  rw [goText, textOf_utf8]
  rfl

/-- `CosmosMsg`. -/
structure CosmosMsg where
  claimType : EventKind
  cosmosSender : Bytes
  cosmosSenderSequence : Int
  ethereumReceiver : Address
  symbol : Bytes
  amount : SInt
deriving DecidableEq, Repr

/-- The table between the symbols of the two chains. -/
structure SymbolTranslator where
  forward : String → Option String
  inverse : String → Option String

/-- `SifchainToEthereum`. -/
def SymbolTranslator.sifchainToEthereum (translator : SymbolTranslator) (denom : String) : String :=
  (translator.forward denom).getD denom

/-- `EthereumToSifchain`. -/
def SymbolTranslator.ethereumToSifchain (translator : SymbolTranslator) (symbol : String) :
    String :=
  (translator.inverse symbol).getD symbol

/-- The symbol of a denomination in bytes. The tables hold texts only. -/
def SymbolTranslator.ethereumSymbol (translator : SymbolTranslator) (denom : Bytes) : Bytes :=
  match textOf denom with
  | some text => utf8 (translator.sifchainToEthereum text)
  | none => denom

/-- The symbol table is read by the bytes of a denomination as by its text. -/
@[simp]
theorem SymbolTranslator.ethereumSymbol_utf8 (translator : SymbolTranslator) (denom : String) :
    translator.ethereumSymbol (utf8 denom) = utf8 (translator.sifchainToEthereum denom) := by
  rw [ethereumSymbol, textOf_utf8]

/-- The readers of numbers, which read the decimal texts they write. -/
structure Decimals where
  /-- `SetString` with base 10. -/
  setString : String → Option Int
  /-- `sdk.NewIntFromString`. -/
  newIntFromString : String → Option SInt
  setString_text : ∀ value, setString (intText value) = some value
  newIntFromString_text : ∀ value : SInt, newIntFromString value.text = some value

/-- What events are parsed with. -/
structure Parser where
  decimals : Decimals
  translator : SymbolTranslator

/-- `defaultSifchainPrefix`. -/
def prefixByte : UInt8 := 0x63

/-- What stands after the first prefix letter: the parts of `strings.SplitAfter` but the first. -/
def afterPrefix (text : Bytes) : Bytes := (text.dropWhile fun byte => byte ≠ prefixByte).drop 1

/-- The variables of `BurnLockEventToCosmosMsg`. -/
structure Parsed where
  cosmosSender : Bytes
  cosmosSenderSequence : Int
  ethereumReceiver : Address
  symbol : Bytes
  amount : SInt
  attributeNumber : Nat

/-- The variables before the loop. -/
def Parsed.start : Parsed := ⟨[], 0, 0, [], ⟨0, SInt.zero_bounded⟩, 0⟩

/-- One round of the loop over the attributes. -/
def parseAttribute (relayer : Parser) (claimType : EventKind) (parsed : Parsed)
    (pair : Bytes × Bytes) : Except String Parsed :=
  let (key, bytes) := pair
  let val := goText bytes
  let attributeNumber := parsed.attributeNumber + 1
  if key = utf8 "cosmos_sender" then
    .ok { parsed with cosmosSender := bytes, attributeNumber }
  else if key = utf8 "cosmos_sender_sequence" then
    match relayer.decimals.setString val with
    | some cosmosSenderSequence => .ok { parsed with cosmosSenderSequence, attributeNumber }
    | none => .error ("invalid account sequence: " ++ val)
  else if key = utf8 "ethereum_receiver" then
    if isHexAddress val then
      .ok { parsed with ethereumReceiver := hexToAddress val, attributeNumber }
    else .error ("invalid recipient address: " ++ val)
  else if key = utf8 "symbol" then
    match claimType with
    | .msgLock =>
      let symbol := relayer.translator.ethereumSymbol bytes
      .ok { parsed with symbol, attributeNumber }
    | .msgBurn =>
      if prefixByte ∈ bytes then
        .ok { parsed with symbol := afterPrefix bytes, attributeNumber }
      else .error "can only relay burns of '%v' prefixed coinsc"
    | .unsupported => .ok { parsed with attributeNumber }
  else if key = utf8 "amount" then
    match relayer.decimals.newIntFromString val with
    | some amount => .ok { parsed with amount, attributeNumber }
    | none => .error ("invalid amount:" ++ val)
  else .ok parsed

/-- `BurnLockEventToCosmosMsg`. -/
def burnLockEventToCosmosMsg (relayer : Parser) (claimType : EventKind)
    (attributes : List (Bytes × Bytes)) : Except String CosmosMsg := do
  let parsed ← attributes.foldlM (parseAttribute relayer claimType) Parsed.start
  if parsed.attributeNumber < 5 then .error "message not complete"
  else .ok ⟨claimType, parsed.cosmosSender, parsed.cosmosSenderSequence, parsed.ethereumReceiver,
    parsed.symbol, parsed.amount⟩

/-- `uint8(claim.ClaimType)` as the enumeration of the contract. -/
def EventKind.claimType : EventKind → Contracts.ClaimType
  | .unsupported => .unsupported
  | .msgBurn => .burn
  | .msgLock => .lock

/-- `RelayProphecyClaimToEthereum`: the arguments of the call. -/
def CosmosMsg.prophecyClaim (msg : CosmosMsg) : ProphecyClaim where
  claimType := msg.claimType.claimType
  cosmosSender := msg.cosmosSender
  cosmosSenderSequence := BitVec.ofInt 256 msg.cosmosSenderSequence
  ethereumReceiver := msg.ethereumReceiver
  symbol := msg.symbol
  amount := BitVec.ofInt 256 msg.amount.val

/-- The attributes of an event as they are transmitted. -/
def attributeBytes (event : Event) : List (Bytes × Bytes) :=
  event.attributes.map fun pair => (utf8 pair.1, utf8 pair.2)

/-- What the relayer makes of one event: nothing for other events and for those it cannot parse. -/
def relayEvent (relayer : Parser) (event : Event) : Option CosmosMsg :=
  match getOracleClaimType event.type with
  | .unsupported => none
  | claimType => (burnLockEventToCosmosMsg relayer claimType (attributeBytes event)).toOption

/-- `EthereumEvent`. Its id is neither set nor read. -/
structure EthereumEvent where
  /-- `To`. -/
  recipient : Bytes
  symbol : Bytes
  ethereumChainID : Int
  value : Word
  nonce : Word
  claimType : EthBridge.ClaimType
  bridgeContractAddress : Address
  /-- `From`. -/
  sender : Address
  token : Address
deriving DecidableEq, Repr

/-- The texts that the libraries make. -/
structure Texts where
  chain : Chain
  validators : Oracle.ValCodec
  /-- `common.Address.Hex`. -/
  hex : Address → String
  /-- `strings.Map(unicode.ToLower, text)`, which `strings.ToLower` takes for texts with bytes that
  are not ASCII. -/
  mapLower : Bytes → String

/-- `strings.ToLower`. -/
def Texts.toLower (texts : Texts) (text : Bytes) : String :=
  if text.all fun byte => byte < 128 then asciiText (Contracts.toLower text) else texts.mapLower text

/-- `NewEthereumAddress(address.Hex()).String()`. -/
def Texts.ethereumAddress (texts : Texts) (address : Address) : String :=
  texts.hex (hexToAddress (texts.hex address))

/-- `sdk.AccAddressFromBech32(string(bytes))`; bytes that are no text are no bech32 text either. -/
def Texts.account (texts : Texts) (bytes : Bytes) : Outcome AccAddress := do
  let text ← Outcome.present (textOf bytes)
    (.error (.register "bech32" 0 "decoding bech32 failed"))
  texts.chain.decode text

/-- The symbol on the chain. -/
def claimSymbol (texts : Texts) (translator : SymbolTranslator) (event : EthereumEvent) :
    Outcome String :=
  match event.claimType with
  | .lock => do
    let symbol := texts.toLower event.symbol
    Outcome.require (symbol = "eth" → event.token = 0)
      (.register "relayer" 0 "symbol \"eth\" must have null address set as token address")
    pure symbol
  | .burn => pure (translator.ethereumToSifchain (goText event.symbol))
  | _ => pure (goText event.symbol)

/-- `EthereumEventToEthBridgeClaim`. The chain id and the nonce keep their lowest 64 bits. -/
def ethereumEventToEthBridgeClaim (texts : Texts) (translator : SymbolTranslator)
    (valAddr : Oracle.ValAddress) (event : EthereumEvent) : Outcome EthBridgeClaim := do
  let recipient ← texts.account event.recipient
  Outcome.require (recipient ≠ []) (.register "relayer" 0 "empty recipient address")
  let symbol ← claimSymbol texts translator event
  let amount ← SInt.ofInt event.value.toNat
  pure {
    ethereumChainId := Int64.ofInt event.ethereumChainID
    bridgeContractAddress := texts.ethereumAddress event.bridgeContractAddress
    nonce := Int64.ofInt event.nonce.toNat
    symbol := symbol
    tokenContractAddress := texts.ethereumAddress event.token
    ethereumSender := texts.ethereumAddress event.sender
    cosmosReceiver := texts.chain.accAddressText recipient
    validatorAddress := texts.validators.text valAddr
    amount := amount
    claimType := event.claimType }

end Akhira.Relayer
