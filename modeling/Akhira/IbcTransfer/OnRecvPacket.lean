import Akhira.Sdk.Supply
import Akhira.TokenRegistry.Keeper

/-!
# Incoming transfers

A packet is first received by the transfer module of the SDK, which credits the receiver with the
coins of the packet. When the registry gives the denomination fewer decimals than its unit, the
coins are taken back and burned, and the same value of the unit is released from the escrow of the
channel. An error acknowledgement is returned as its error; the caller then reverts what was done.
-/
namespace Akhira.IbcTransfer

open Akhira.Base Akhira.Sdk Akhira.TokenRegistry

/-- The name of the module and of its account. -/
def moduleName : String := "scibctransfer"

/-- `ErrConvertingToUnitDenom`. -/
def errConvertingToUnitDenom : SdkError := .register moduleName 1 "error converting to unit denom"

/-- `channeltypes.Packet`. -/
structure Packet where
  sourcePort : String
  sourceChannel : String
  destinationPort : String
  destinationChannel : String
  data : List UInt8
deriving DecidableEq, Repr

/-- `FungibleTokenPacketData`. The sender is not read. -/
structure FungibleTokenPacketData where
  denom : String
  amount : String
  receiver : String
deriving DecidableEq, Repr

/-- What the module is built with. -/
structure Environment where
  chain : Chain
  locked : Locked
  /-- `sdk.NewIntFromString`. -/
  newIntFromString : String → Option SInt
  /-- The SHA-256 of a text, in hexadecimal. -/
  hash : String → String
  /-- `GetEscrowAddress` of this module. -/
  getEscrowAddress : String → String → AccAddress
  /-- `GetEscrowAddress` of the transfer module of the SDK. -/
  transferEscrowAddress : String → String → AccAddress
  /-- `ModuleCdc.UnmarshalJSON`. -/
  unmarshalJSON : List UInt8 → Option FungibleTokenPacketData

section Denominations

/-- `DenomTrace`. -/
structure DenomTrace where
  path : String
  baseDenom : String
deriving DecidableEq, Repr

/-- `GetDenomPrefix`. -/
def getDenomPrefix (port channel : String) : String := port ++ "/" ++ channel ++ "/"

/-- `ReceiverChainIsSource`. -/
def receiverChainIsSource (port channel denom : String) : Bool :=
  (getDenomPrefix port channel).toList.isPrefixOf denom.toList

/-- `ParseDenomTrace`: the base stands after the last slash. -/
def parseDenomTrace (rawDenom : String) : DenomTrace :=
  let reversed := rawDenom.toList.reverse
  match reversed.dropWhile fun char => char ≠ '/' with
  | [] => ⟨"", rawDenom⟩
  | _ :: path =>
    ⟨String.ofList path.reverse,
      String.ofList (reversed.takeWhile fun char => char ≠ '/').reverse⟩

/-- `DenomTrace.IBCDenom`. -/
def DenomTrace.ibcDenom (hash : String → String) (trace : DenomTrace) : String :=
  if trace.path ≠ "" then "ibc/" ++ hash (trace.path ++ "/" ++ trace.baseDenom)
  else trace.baseDenom

/-- The packet returns coins that were sent from here. -/
def Packet.returns (packet : Packet) (data : FungibleTokenPacketData) : Bool :=
  receiverChainIsSource packet.sourcePort packet.sourceChannel data.denom

/-- `GetMintedDenomFromPacket`. -/
def getMintedDenomFromPacket (env : Environment) (packet : Packet)
    (data : FungibleTokenPacketData) : Denom :=
  if packet.returns data then
    let denom := String.ofList (data.denom.toList.drop
      (getDenomPrefix packet.sourcePort packet.sourceChannel).length)
    let trace := parseDenomTrace denom
    if trace.path ≠ "" then trace.ibcDenom env.hash else denom
  else
    (parseDenomTrace (getDenomPrefix packet.destinationPort packet.destinationChannel ++
      data.denom)).ibcDenom env.hash

end Denominations

section Transfer

/-- So much of one denomination. -/
def amountIn (denom : Denom) (amount : Nat) (other : Denom) : Nat :=
  if denom = other then amount else 0

/-- The receiver of a packet is credited with its amount, which is released from the escrow of the
transfer module when it returns and minted when it does not. -/
structure Credits (env : Environment) (packet : Packet) (data : FungibleTokenPacketData)
    (bank next : Bank) (receiver : AccAddress) (amount : SInt) : Prop where
  decoded : env.chain.accAddressFromBech32 data.receiver = some receiver
  parsed : env.newIntFromString data.amount = some amount
  supply : ∀ denom, next.supply denom = bank.supply denom +
    if packet.returns data then 0
    else amountIn (getMintedDenomFromPacket env packet data) amount.val.toNat denom
  balance : ∀ address denom, next.ledger.balance address denom +
      (if packet.returns data then Ledger.share
        (env.transferEscrowAddress packet.destinationPort packet.destinationChannel) address
        (amountIn (getMintedDenomFromPacket env packet data) amount.val.toNat denom) else 0) =
    bank.ledger.balance address denom + Ledger.share receiver address
      (amountIn (getMintedDenomFromPacket env packet data) amount.val.toNat denom)

/-- The keeper of the transfer module. -/
structure TransferKeeper (env : Environment) where
  onRecvPacket : Packet → FungibleTokenPacketData → Bank → Outcome Bank
  credits : ∀ packet data bank next, onRecvPacket packet data bank = .ok next →
    ∃ receiver amount, Credits env packet data bank next receiver amount

end Transfer

section Conversion

/-- `sdk.NewCoins` of one new coin. -/
def singleCoin (denom : Denom) (amount : SInt) : Outcome Coins := do
  let coin ← Coin.newCoin denom amount
  Coins.newCoins [coin]

/-- `IncreasePrecision`. -/
def increasePrecision (dec : Dec) (po : Nat) : Outcome Dec := do
  let p ← (Dec.ofInt 10).power po
  dec.mulTruncate p

/-- `ConvertIncomingCoins`. -/
def convertIncomingCoins (env : Environment) (amount : String) (diff : Nat) : Outcome SInt := do
  let intAmount ← Outcome.present (env.newIntFromString amount)
    (.error (.plain "Failed to convert to int from string"))
  let increased ← increasePrecision (Dec.ofInt intAmount.val) diff
  let truncated ← increased.truncateInt
  SInt.ofInt truncated.val

/-- `ExecConvForIncomingCoins`. -/
def execConvForIncomingCoins (env : Environment) (bank : Bank)
    (mintedDenomEntry convertToDenomEntry : RegistryEntry) (packet : Packet)
    (data : FungibleTokenPacketData) : Outcome Bank := do
  let receiver ← env.chain.decode data.receiver
  let amount ← Outcome.present (env.newIntFromString data.amount)
    (.error (.plain "Unable to get string amount"))
  let incomingCoins ← singleCoin mintedDenomEntry.denom amount
  let bank ← bank.sendCoinsFromAccountToModule env.chain env.locked receiver moduleName
    incomingCoins
  let bank ← bank.burnCoins env.chain env.locked moduleName incomingCoins
  let finalCoins ← singleCoin convertToDenomEntry.denom amount
  let finalCoins ←
    if mintedDenomEntry.decimals < convertToDenomEntry.decimals then do
      let convAmount ← convertIncomingCoins env data.amount
        (convertToDenomEntry.decimals - mintedDenomEntry.decimals).toNat
      singleCoin convertToDenomEntry.denom convAmount
    else pure finalCoins
  let escrowAddress := env.getEscrowAddress packet.destinationPort packet.destinationChannel
  (bank.sendCoins env.locked escrowAddress receiver finalCoins).noting
    "unable to unescrow original tokens"

/-- `IsRecvPacketAllowed`. -/
def isRecvPacketAllowed (packet : Packet) (data : FungibleTokenPacketData)
    (mintedDenomEntry : RegistryEntry) : Bool :=
  packet.returns data || checkEntryPermissions mintedDenomEntry [.ibcImport]

/-- The decimals call for a conversion. -/
def converts (mintedDenomEntry convertToDenomEntry : RegistryEntry) : Bool :=
  0 < convertToDenomEntry.decimals ∧ 0 < mintedDenomEntry.decimals ∧
    mintedDenomEntry.decimals < convertToDenomEntry.decimals

/-- `OnRecvPacketWhitelistConvert`. -/
def onRecvPacketWhitelistConvert (env : Environment) (keeper : TransferKeeper env)
    (registry : Registry) (bank : Bank) (packet : Packet) : Outcome Bank := do
  let data ← Outcome.present (env.unmarshalJSON packet.data)
    (.error (.plain "cannot unmarshal packet data"))
  let bank ← keeper.onRecvPacket packet data bank
  let mintedDenom := getMintedDenomFromPacket env packet data
  let notWhitelisted := errInvalidCoins.wrap "denom not whitelisted"
  let mintedDenomEntry ← (getEntry registry mintedDenom).replacing notWhitelisted
  Outcome.require (isRecvPacketAllowed packet data mintedDenomEntry = true) notWhitelisted
  match getEntry registry mintedDenomEntry.unitDenom with
  | .error _ => pure bank
  | .ok convertToDenomEntry =>
    if converts mintedDenomEntry convertToDenomEntry then
      (execConvForIncomingCoins env bank mintedDenomEntry convertToDenomEntry packet
        data).wrapping errConvertingToUnitDenom
    else pure bank

end Conversion

end Akhira.IbcTransfer
