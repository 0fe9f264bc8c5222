import Akhira.EthBridge.Types
import Akhira.Oracle.Keeper

/-!
# The bridge keeper

A claim that succeeds mints coins and pays them to the receiver its final content names; a
lock or burn takes coins from the sender and burns them. The fee in `ceth` goes to the
receiver account when one is set and to the module otherwise.
-/
namespace Akhira.EthBridge

open Akhira.Base Akhira.Sdk

/-- What the module is built with. -/
structure Environment where
  chain : Chain
  oracle : Oracle.Environment
  contents : ContentCodec

/-- The stores the module reads and writes. -/
structure State where
  oracle : Oracle.State
  bank : Bank
  peggyTokens : List String
  /-- The stored address text; empty when none is set. -/
  cethReceiverAccount : String
  /-- The blacklisted address texts. -/
  blacklist : List String
  /-- The sequences of the accounts that exist. -/
  accounts : AccAddress → Option Nat

/-- What a message finds besides these stores. -/
structure Context where
  oracle : Oracle.Context
  locked : Locked
  /-- `IsAdminAccount` of the token registry. -/
  registryAdmin : AccAddress → Bool

/-- `panic(err)` on an error. -/
def orPanic {α : Type} (call : Outcome α) : Outcome α :=
  match call with
  | .ok value => .ok value
  | .error (.error error) => Outcome.crash error.text
  | .error (.panic reason) => Outcome.crash reason

namespace State

/-- `ExistsPeggyToken`. -/
def existsPeggyToken (state : State) (token : String) : Bool :=
  state.peggyTokens.any fun value => value = token

/-- `AddPeggyToken`. -/
def addPeggyToken (state : State) (token : String) : State :=
  if state.existsPeggyToken token then state
  else { state with peggyTokens := state.peggyTokens ++ [token] }

/-- `GetCethReceiverAccount`; a text that does not decode counts as none. -/
def getCethReceiverAccount (chain : Chain) (state : State) : Option AccAddress :=
  if state.cethReceiverAccount = "" then none
  else chain.accAddressFromBech32 state.cethReceiverAccount

/-- `IsBlacklisted`. -/
def isBlacklisted (state : State) (address : String) : Bool :=
  state.blacklist.any fun listed => listed = address

end State

/-- `sdk.NewCoins` of coins that `sdk.NewCoin` makes. -/
def coinsOf (amounts : List (Denom × SInt)) : Outcome Coins := do
  let coins ← amounts.mapM fun entry => Coin.newCoin entry.1 entry.2
  Coins.newCoins coins

/-- The denomination that a content is minted in. -/
def OracleClaimContent.denom (content : OracleClaimContent) : Option Denom :=
  match content.claimType with
  | .lock => some (peggedCoinPrefix ++ content.symbol)
  | .burn => some content.symbol
  | _ => none

/-- `ProcessSuccessfulClaim`. -/
def processSuccessfulClaim (env : Environment) (locked : Locked) (state : State) (claim : String) :
    Outcome State := do
  let oracleClaim ← createOracleClaimFromOracleString env.contents claim
  let symbol ← Outcome.present oracleClaim.denom (.error errInvalidClaimType)
  let state := if oracleClaim.claimType = .lock then state.addPeggyToken symbol else state
  let coins ← coinsOf [(symbol, oracleClaim.amount)]
  let minted ← state.bank.mintCoins env.chain moduleName coins
  let bank ← orPanic (minted.sendCoinsFromModuleToAccount env.chain locked moduleName
    oracleClaim.cosmosReceiver coins)
  pure { state with bank }

/-- The fee in `ceth`, and what goes to the module then. -/
def payCeth (env : Environment) (locked : Locked) (state : State) (cosmosSender : AccAddress)
    (cethAmount : SInt) (withReceiver withoutReceiver : Outcome Coins) : Outcome Bank := do
  let (bank, coins) ← (match state.getCethReceiverAccount env.chain with
    | some receiver => do
      let fee ← coinsOf [(cethSymbol, cethAmount)]
      let bank ← state.bank.sendCoins locked cosmosSender receiver fee
      let coins ← withReceiver
      pure (bank, coins)
    | none => do
      let coins ← withoutReceiver
      pure (state.bank, coins))
  bank.sendCoinsFromAccountToModule env.chain locked cosmosSender moduleName coins

/-- `ProcessBurn`. -/
def processBurn (env : Environment) (locked : Locked) (state : State) (cosmosSender : AccAddress)
    (msg : MsgBurn) : Outcome State := do
  Outcome.require (state.isBlacklisted msg.ethereumReceiver = false) errInvalidEthAddress
  let bank ← payCeth env locked state cosmosSender msg.cethAmount
    (coinsOf [(msg.symbol, msg.amount)])
    (if msg.symbol = cethSymbol then do
      let sum ← msg.cethAmount.add msg.amount
      coinsOf [(cethSymbol, sum)]
    else coinsOf [(msg.symbol, msg.amount), (cethSymbol, msg.cethAmount)])
  let coins ← coinsOf [(msg.symbol, msg.amount)]
  let bank ← bank.burnCoins env.chain locked moduleName coins
  pure { state with bank }

/-- `ProcessLock`. -/
def processLock (env : Environment) (locked : Locked) (state : State) (cosmosSender : AccAddress)
    (msg : MsgLock) : Outcome State := do
  Outcome.require (state.isBlacklisted msg.ethereumReceiver = false) errInvalidEthAddress
  let bank ← payCeth env locked state cosmosSender msg.cethAmount
    (coinsOf [(msg.symbol, msg.amount)])
    (coinsOf [(msg.symbol, msg.amount), (cethSymbol, msg.cethAmount)])
  let coins ← coinsOf [(msg.symbol, msg.amount)]
  let bank ← bank.burnCoins env.chain locked moduleName coins
  pure { state with bank }

/-- `ProcessUpdateCethReceiverAccount`. -/
def processUpdateCethReceiverAccount (env : Environment) (state : State)
    (cosmosSender cethReceiverAccount : AccAddress) : Outcome State := do
  Outcome.require (state.oracle.isAdminAccount cosmosSender = true)
    (.register "undefined" 1 "only admin account can update ceth receiver account")
  pure { state with cethReceiverAccount := env.chain.accAddressText cethReceiverAccount }

/-- `ProcessRescueCeth`. -/
def processRescueCeth (env : Environment) (locked : Locked) (state : State) (msg : MsgRescueCeth) :
    Outcome State := do
  let cosmosSender ← env.chain.decode msg.cosmosSender
  let cosmosReceiver ← env.chain.decode msg.cosmosReceiver
  Outcome.require (state.oracle.isAdminAccount cosmosSender = true)
    (.register "undefined" 1 "only admin account can call rescue ceth")
  let coins ← coinsOf [(cethSymbol, msg.cethAmount)]
  let bank ← state.bank.sendCoinsFromModuleToAccount env.chain locked moduleName cosmosReceiver
    coins
  pure { state with bank }

/-- `SetBlacklist`; the empty text is never taken off, since the iterator skips its key. -/
def setBlacklist (env : Environment) (context : Context) (state : State) (msg : MsgSetBlacklist) :
    Outcome State := do
  let sender ← env.chain.decode msg.sender
  Outcome.require (context.registryAdmin sender = true) Oracle.errNotAdminAccount
  let remaining := state.blacklist.filter fun address => address = "" ∨ address ∈ msg.addresses
  pure { state with blacklist := remaining ++ msg.addresses }

end Akhira.EthBridge
