import Akhira.Base.Run
import Akhira.Base.Span
import Akhira.Relayer.Parser
import Akhira.Relayer.ToCosmos

/-!
# The Ethereum relayer's loop

For every head the relayer asks for the logs of its contract from the last processed block up to
a block that trails the head, broadcasts the claims of the lock and burn events among them as one
transaction, and stores the block after the last one it asked for. A failed query is asked again
with the next head; a failed broadcast is only logged.
-/
namespace Akhira.Relayer

open Akhira.Base Akhira.Sdk Akhira.Contracts Akhira.EthBridge

/-- How many blocks a log has to be old before it is reported. -/
def trailingBlocks : Nat := 50

/-- `types.Log`, as far as it is read. -/
structure Log where
  topics : List Word
  data : Bytes
deriving DecidableEq, Repr

/-- The two logs of the bank that the relayer reads. -/
inductive LogName where
  | logBurn
  | logLock
deriving DecidableEq, Repr

/-- The arguments of a `LogLock` or `LogBurn`. -/
structure LogArguments where
  /-- `_from`. -/
  sender : Address
  /-- `_to`. -/
  recipient : Bytes
  token : Address
  symbol : Bytes
  value : Word
  nonce : Word
deriving DecidableEq, Repr

/-- The interface of the `BridgeBank`. -/
structure BridgeBankABI where
  /-- The id of an event. -/
  eventID : LogName → Word
  /-- `UnpackIntoInterface`. -/
  unpack : LogName → Bytes → Option LogArguments

/-- `EthereumSub` and what its loop is started with. -/
structure EthereumSub where
  texts : Texts
  translator : SymbolTranslator
  abi : BridgeBankABI
  /-- The address of the validator's key. -/
  valAddr : Oracle.ValAddress
  bridgeBankAddress : Address
  clientChainID : Int

/-- A loop that logs returned errors and goes on; a panic ends it. -/
def collect {α β : Type} (call : α → Outcome (Option β)) : List α → Outcome (List β)
  | [] => pure []
  | item :: rest =>
    match call item with
    | .ok (some value) => do
      let values ← collect call rest
      pure (value :: values)
    | .ok none => collect call rest
    | .error (.error _) => collect call rest
    | .error (.panic reason) => Outcome.crash reason

namespace EthereumSub

variable (sub : EthereumSub)

/-- The event of a first topic. -/
def eventName (topic : Word) : Option LogName :=
  if topic = sub.abi.eventID .logBurn then some .logBurn
  else if topic = sub.abi.eventID .logLock then some .logLock
  else none

/-- `logToEvent`; a log without topics panics. -/
def logToEvent (cLog : Log) : Outcome (Option EthereumEvent) :=
  match cLog.topics with
  | [] => Outcome.crash "index out of range [0] with length 0"
  | topic :: _ =>
    match sub.eventName topic with
    | none => pure none
    | some name => do
      let arguments ← Outcome.present (sub.abi.unpack name cLog.data)
        (.error (.register "abi" 0 "abi: cannot unpack"))
      pure (some {
        recipient := arguments.recipient
        symbol := arguments.symbol
        ethereumChainID := sub.clientChainID
        value := arguments.value
        nonce := arguments.nonce
        claimType := if name = .logBurn then .burn else .lock
        bridgeContractAddress := sub.bridgeBankAddress
        sender := arguments.sender
        token := arguments.token })

/-- The claim of an event. -/
def eventToClaim (event : EthereumEvent) : Outcome (Option EthBridgeClaim) := do
  let claim ← ethereumEventToEthBridgeClaim sub.texts sub.translator sub.valAddr event
  pure (some claim)

end EthereumSub

/-- A head, with how the calls go that are made for it. -/
structure Head where
  number : Nat
  /-- `FilterLogs` returns no error. -/
  answered : Bool
  /-- `GetValAddressFromKeyring` returns no error. -/
  keyFound : Bool
  /-- `BroadcastTx` returns no error. -/
  accepted : Bool
deriving DecidableEq, Repr

/-- `FilterLogs`, where the blocks of the contract's logs are given. An empty range is answered. -/
def filterLogs (history : Nat → List Log) (head : Head) (fromBlock toBlock : Nat) :
    Option (List Log) :=
  if toBlock < fromBlock then some []
  else if head.answered then some (between history fromBlock (toBlock + 1))
  else none

/-- `handleEthereumEvent`: the messages of the broadcast if it is accepted. -/
def EthereumSub.handleEthereumEvent (sub : EthereumSub) (head : Head)
    (events : List EthereumEvent) : Outcome (Option (List EthBridgeClaim)) :=
  if head.keyFound then do
    let prophecyClaims ← collect sub.eventToClaim events
    pure (if events ≠ [] ∧ head.accepted then some (messagesOf prophecyClaims) else none)
  else pure none

/-- What is done with the logs of a query. -/
def EthereumSub.relayLogs (sub : EthereumSub) (head : Head) (ethLogs : List Log) :
    Outcome (Option (List EthBridgeClaim)) := do
  let events ← collect sub.logToEvent ethLogs
  if events ≠ [] then sub.handleEthereumEvent head events else pure none

/-- What the relayer has done. -/
structure Progress where
  lastProcessedBlock : Nat
  /-- The block in the database. -/
  stored : Nat
  /-- The messages of the accepted broadcasts. -/
  broadcasts : List (List EthBridgeClaim)
deriving DecidableEq, Repr

namespace Progress

/-- The loop begins with the stored block. -/
def load (stored : Nat) (broadcasts : List (List EthBridgeClaim)) : Progress :=
  ⟨stored, stored, broadcasts⟩

/-- One round of the loop of `Start`. The numbers of a round are changed in place, but the block
kept from the last round is a number of its own, so values are enough. -/
def processHead (sub : EthereumSub) (history : Nat → List Log) (progress : Progress) (head : Head) :
    Outcome Progress :=
  -- a negative ending block ends the round
  if head.number < trailingBlocks then pure progress
  else
    let endingBlock := head.number - trailingBlocks
    let lastProcessedBlock :=
      if progress.lastProcessedBlock = 0 then endingBlock else progress.lastProcessedBlock
    match filterLogs history head lastProcessedBlock endingBlock with
    | none => pure { progress with lastProcessedBlock }
    | some ethLogs => do
      let sent ← sub.relayLogs head ethLogs
      pure ⟨endingBlock + 1, endingBlock + 1, progress.broadcasts ++ sent.toList⟩

/-- A round as a step; a panic ends the process, and the next one loads the stored block. -/
def stepHead (sub : EthereumSub) (history : Nat → List Log) (progress : Progress) (head : Head) :
    Outcome Progress :=
  match progress.processHead sub history head with
  | .ok next => .ok next
  | .error _ => .ok (load progress.stored progress.broadcasts)

end Progress

end Akhira.Relayer
