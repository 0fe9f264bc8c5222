import Akhira.EthBridge.Keeper

/-!
# The message server of the bridge

Each handler returns the state it leaves and the events it emits. The event of a lock or
burn carries the sequence the sender's account has when the message runs.
-/
namespace Akhira.EthBridge

open Akhira.Base Akhira.Sdk

/-- The registered error for an account that does not exist. -/
def errUnknownAddress : SdkError := .register "sdk" 9 "unknown address"

/-- The event every message of the module begins with. -/
def messageEvent (sender : String) : Event :=
  ⟨"message", [("module", moduleName), ("sender", sender)]⟩

/-- The event of a lock or burn. -/
def withdrawalEvent (type : String) (msg : MsgLock) (sequence : Nat) : Event :=
  ⟨type,
    [("ethereum_chain_id", intText msg.ethereumChainId.toInt),
     ("cosmos_sender", msg.cosmosSender),
     ("cosmos_sender_sequence", natText sequence),
     ("ethereum_receiver", msg.ethereumReceiver),
     ("amount", msg.amount.text),
     ("symbol", msg.symbol),
     ("ceth_amount", msg.cethAmount.text)]⟩

/-- `GetAccount`, whose absence is an error. -/
def getAccount (state : State) (address : AccAddress) (missing : SdkError) : Outcome Nat :=
  Outcome.present (state.accounts address) (.error missing)

/-- `Lock`. -/
def lock (env : Environment) (context : Context) (state : State) (msg : MsgLock) :
    Outcome (State × List Event) := do
  Outcome.require (state.existsPeggyToken msg.symbol = false)
    (.register "undefined" 1 ("Pegged token " ++ msg.symbol ++ " can't be lock."))
  let cosmosSender ← env.chain.decode msg.cosmosSender
  let sequence ← getAccount state cosmosSender (errInvalidAddress.wrap msg.cosmosSender)
  let state ← processLock env context.locked state cosmosSender msg
  pure (state, [messageEvent msg.cosmosSender, withdrawalEvent "lock" msg sequence])

/-- `Burn`. -/
def burn (env : Environment) (context : Context) (state : State) (msg : MsgBurn) :
    Outcome (State × List Event) := do
  Outcome.require (state.existsPeggyToken msg.symbol = true)
    (.register "undefined" 1 ("Native token " ++ msg.symbol ++ " can't be burn."))
  let cosmosSender ← env.chain.decode msg.cosmosSender
  let sequence ← getAccount state cosmosSender (errInvalidAddress.wrap msg.cosmosSender)
  let state ← processBurn env context.locked state cosmosSender msg
  pure (state, [messageEvent msg.cosmosSender, withdrawalEvent "burn" msg.toMsgLock sequence])

/-- `StatusText.String`. -/
def statusText : Oracle.StatusText → String
  | .pending => "STATUS_TEXT_PENDING"
  | .success => "STATUS_TEXT_SUCCESS"
  | .failed => "STATUS_TEXT_FAILED"

/-- `ProcessClaim`. -/
def processClaim (env : Environment) (context : Context) (state : State) (claim : EthBridgeClaim) :
    Outcome (State × Oracle.Status) := do
  let oracleClaim ← createOracleClaimFromEthClaim env.chain env.contents claim
  let (oracle, status) ← Oracle.processClaim env.oracle context.oracle state.oracle oracleClaim
  pure ({ state with oracle }, status)

/-- `CreateEthBridgeClaim`. -/
def createEthBridgeClaim (env : Environment) (context : Context) (state : State)
    (claim : EthBridgeClaim) : Outcome (State × List Event) := do
  let (state, status) ← processClaim env context state claim
  let state ← (if status.text = .success then
      processSuccessfulClaim env context.locked state status.finalClaim
    else pure state)
  pure (state,
    [messageEvent claim.validatorAddress,
     ⟨"create_claim",
       [("cosmos_sender", claim.validatorAddress),
        ("ethereum_sender", claim.ethereumSender),
        ("ethereum_sender_nonce", intText claim.nonce.toInt),
        ("cosmos_receiver", claim.cosmosReceiver),
        ("amount", claim.amount.text),
        ("symbol", claim.symbol),
        ("token_contract_address", claim.tokenContractAddress),
        ("claim_type", claim.claimType.text)]⟩,
     ⟨"prophecy_status", [("status", statusText status.text)]⟩])

/-- `UpdateWhiteListValidator`; its event has the type of a lock. -/
def updateWhiteListValidator (env : Environment) (state : State)
    (msg : MsgUpdateWhiteListValidator) : Outcome (State × List Event) := do
  let cosmosSender ← env.chain.decode msg.cosmosSender
  let _ ← getAccount state cosmosSender (errUnknownAddress.wrap msg.cosmosSender)
  let validator ← Outcome.present (env.oracle.codec.valAddressFromBech32 msg.validator)
    (.error (errInvalidAddress.wrap msg.validator))
  let oracle ← state.oracle.processUpdateWhiteListValidator cosmosSender validator
    msg.operationType
  pure ({ state with oracle },
    [messageEvent msg.cosmosSender,
     ⟨"lock",
       [("cosmos_sender", msg.cosmosSender),
        ("validator", msg.validator),
        ("operation_type", msg.operationType)]⟩])

/-- `UpdateCethReceiverAccount`; its event has the type of a lock. -/
def updateCethReceiverAccount (env : Environment) (state : State)
    (msg : MsgUpdateCethReceiverAccount) : Outcome (State × List Event) := do
  let cosmosSender ← env.chain.decode msg.cosmosSender
  let cethReceiver ← env.chain.decode msg.cethReceiverAccount
  let _ ← getAccount state cosmosSender (errInvalidAddress.wrap msg.cosmosSender)
  let state ← processUpdateCethReceiverAccount env state cosmosSender cethReceiver
  pure (state,
    [messageEvent msg.cosmosSender,
     ⟨"lock",
       [("cosmos_sender", msg.cosmosSender),
        ("ceth_receiver_account", msg.cethReceiverAccount)]⟩])

/-- `RescueCeth`. -/
def rescueCeth (env : Environment) (context : Context) (state : State) (msg : MsgRescueCeth) :
    Outcome (State × List Event) := do
  let cosmosSender ← env.chain.decode msg.cosmosSender
  let _ ← getAccount state cosmosSender (errInvalidAddress.wrap msg.cosmosSender)
  let state ← processRescueCeth env context.locked state msg
  pure (state, [])

/-- Handle a message that has passed its stateless checks. -/
def handle (env : Environment) (context : Context) (state : State) : Msg →
    Outcome (State × List Event)
  | .lock msg => lock env context state msg
  | .burn msg => burn env context state msg
  | .createEthBridgeClaim claim => createEthBridgeClaim env context state claim
  | .updateWhiteListValidator msg => updateWhiteListValidator env state msg
  | .updateCethReceiverAccount msg => updateCethReceiverAccount env state msg
  | .rescueCeth msg => rescueCeth env context state msg
  | .setBlacklist msg => do
    let state ← setBlacklist env context state msg
    pure (state, [])

/-- A message with what it finds. -/
structure Delivery where
  context : Context
  msg : Msg

/-- Deliver a message. -/
def deliver (env : Environment) (state : State) (delivery : Delivery) : Outcome State := do
  delivery.msg.validateBasic
  let handled ← handle env delivery.context state delivery.msg
  pure handled.1

end Akhira.EthBridge
