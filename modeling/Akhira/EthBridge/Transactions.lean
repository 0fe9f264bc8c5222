import Akhira.EthBridge.MsgServer

/-!
# Transactions

A transaction carries messages, of the bridge and of other modules. The ante handler checks
the messages and the accounts of the signers and raises the sequence of each signer by one;
this stays when a message fails afterwards, while the effects of the messages are then dropped.
-/
namespace Akhira.EthBridge

open Akhira.Base Akhira.Sdk

/-- A message of another module. It may do anything but change the sequence of an account. -/
structure Foreign where
  signers : List AccAddress
  run : State → Outcome State
  keeps : ∀ state next, run state = .ok next → ∀ address sequence,
    state.accounts address = some sequence → next.accounts address = some sequence

/-- The messages of a transaction: those of the bridge, and those of all other modules. -/
inductive ChainMsg where
  | bridge (msg : Msg)
  | foreign (msg : Foreign)

/-- A transaction, with the context of the block it is in. -/
structure Tx where
  context : Context
  msgs : List ChainMsg

/-- An executed message of the bridge with its events. -/
structure Receipt where
  msg : Msg
  events : List Event
deriving DecidableEq, Repr

/-- `GetSigners`; a text that does not decode panics. -/
def Msg.signer (env : Environment) : Msg → Option AccAddress
  | .lock msg => env.chain.accAddressFromBech32 msg.cosmosSender
  | .burn msg => env.chain.accAddressFromBech32 msg.cosmosSender
  | .createEthBridgeClaim claim =>
    (env.oracle.codec.valAddressFromBech32 claim.validatorAddress).map Oracle.ValAddress.bytes
  | .updateWhiteListValidator msg => env.chain.accAddressFromBech32 msg.cosmosSender
  | .updateCethReceiverAccount msg => env.chain.accAddressFromBech32 msg.cosmosSender
  | .rescueCeth msg => env.chain.accAddressFromBech32 msg.cosmosSender
  | .setBlacklist msg => env.chain.accAddressFromBech32 msg.sender

/-- The accounts that have to sign a message. An address of the bridge that does not decode panics.
-/
def ChainMsg.signers (env : Environment) : ChainMsg → Outcome (List AccAddress)
  | .bridge msg => do
    let signer ← Outcome.present (msg.signer env) (.panic "decoding bech32 failed")
    pure [signer]
  | .foreign msg => pure msg.signers

/-- The checks of a message that need no state. Those of other modules are left open. -/
def ChainMsg.validateBasic : ChainMsg → Outcome Unit
  | .bridge msg => msg.validateBasic
  | .foreign _ => pure ()

/-- `IncrementSequenceDecorator`; sequences have 64 bits. -/
def increment (accounts : AccAddress → Option Nat) (signers : List AccAddress) :
    AccAddress → Option Nat := fun address =>
  (accounts address).map fun sequence =>
    if address ∈ signers then (sequence + 1) % 2 ^ 64 else sequence

/-- The checks before the messages run, and the new sequences. -/
def ante (env : Environment) (state : State) (msgs : List ChainMsg) : Outcome State := do
  Outcome.require (msgs ≠ []) errInvalidRequest
  msgs.forM ChainMsg.validateBasic
  let signers ← msgs.mapM (ChainMsg.signers env)
  Outcome.require (∀ signer ∈ signers.flatten, (state.accounts signer).isSome = true)
    errUnknownAddress
  pure { state with accounts := increment state.accounts signers.flatten }

/-- `runMsgs`: all messages or none. -/
def runMsgs (env : Environment) (context : Context) :
    State → List ChainMsg → Outcome (State × List Receipt)
  | state, [] => pure (state, [])
  | state, .bridge msg :: rest => do
    let (next, events) ← handle env context state msg
    let (final, receipts) ← runMsgs env context next rest
    pure (final, ⟨msg, events⟩ :: receipts)
  | state, .foreign msg :: rest => do
    let next ← msg.run state
    runMsgs env context next rest

/-- `DeliverTx`: the state it leaves and what was executed. -/
def deliverTx (env : Environment) (state : State) (tx : Tx) : State × List Receipt :=
  match ante env state tx.msgs with
  | .error _ => (state, [])
  | .ok checked =>
    match runMsgs env tx.context checked tx.msgs with
    | .error _ => (checked, [])
    | .ok result => result

/-- A transaction as a step of the chain, which always goes on. -/
def stepTx (env : Environment) (state : State) (tx : Tx) : Outcome State :=
  .ok (deliverTx env state tx).1

end Akhira.EthBridge
