import Akhira.Base.Abi
import Akhira.Relayer.Parser

/-!
# The Cosmos relayer's replay

The calls of `newProphecyClaim` that the relayer has sent are found again in the blocks of
Ethereum and decoded by hand, and a message of the chain is sent again unless one of them has its
sender and its sequence.
-/
namespace Akhira.Relayer

open Akhira.Base Akhira.Contracts Akhira.EthBridge

/-- `AccountAddressPrefix`. -/
def accountAddressPrefix : Bytes := ascii "ak"

/-- The method id of `newProphecyClaim`. -/
def newProphecyClaimID : Bytes := [0x5d, 0x4c, 0x66, 0xa3]

/-- `uint8(claimType)`. -/
def EventKind.number : EventKind → Nat
  | .unsupported => 0
  | .msgBurn => 1
  | .msgLock => 2

/-- The data of the transaction that `RelayProphecyClaimToEthereum` sends. -/
def CosmosMsg.callData (msg : CosmosMsg) : Bytes :=
  newProphecyClaimID ++ Abi.encode [
    .static msg.claimType.number,
    .dynamic msg.prophecyClaim.cosmosSender,
    .static msg.prophecyClaim.cosmosSenderSequence.toNat,
    .static msg.prophecyClaim.ethereumReceiver.toNat,
    .dynamic msg.prophecyClaim.symbol,
    .static msg.prophecyClaim.amount.toNat]

/-- `ProphecyClaimUnique`. -/
structure ProphecyClaimUnique where
  cosmosSenderSequence : Int
  cosmosSender : Bytes
deriving DecidableEq, Repr

/-- `strconv.ParseUint` with base 16. -/
def parseUint (digits : List Char) (bitSize : Nat) : Except String Nat :=
  match digits.mapM hexValue with
  | none => .error "invalid syntax"
  | some [] => .error "invalid syntax"
  | some values =>
    let value := values.foldl (fun value digit => value * 16 + digit) 0
    if value < 2 ^ bitSize then .ok value else .error "value out of range"

/-- `MyDecode`. -/
def myDecode (data : Bytes) : Except String ProphecyClaimUnique :=
  if data.length < 32 * 7 + 42 then .error "tx data length not enough"
  else do
    let sequence ← parseUint (hexEncode (Abi.slice 64 96 data)) 32
    pure ⟨sequence, Abi.slice (32 * 7) (32 * 7 + 42) data⟩

/-- `GetAllProphecyClaim`, on the data of the transactions that the relayer has sent. -/
def getAllProphecyClaim (txs : List Bytes) : List ProphecyClaimUnique :=
  txs.filterMap fun data =>
    if data.length < 4 then none
    else if data.take 4 ≠ newProphecyClaimID then none
    else (myDecode (data.drop 4)).toOption

/-- `MessageProcessed`. -/
def messageProcessed (message : CosmosMsg) (prophecyClaims : List ProphecyClaimUnique) : Bool :=
  prophecyClaims.any fun prophecyClaim =>
    decide (message.cosmosSender = prophecyClaim.cosmosSender) &&
      decide (message.cosmosSenderSequence = prophecyClaim.cosmosSenderSequence)

end Akhira.Relayer
