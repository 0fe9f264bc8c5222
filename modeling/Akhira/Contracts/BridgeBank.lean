import Akhira.Contracts.Evm

/-!
# The bridge bank

`BridgeBank.sol` with `CosmosBank.sol`, `EthereumBank.sol`, the two token lists and
`Pausable.sol`. Tokens, ether receivers and the blocklist are other contracts: what they
answer during a call is its `World`. `unlock`, `mintBridgeTokens` and
`createNewBridgeToken` are called by the bridge contract, the rest by accounts.
-/
namespace Akhira.Contracts

open Akhira.Base

/-- What the contracts around the bank answer during one call. A token or a receiver of ether that
calls the bridge again while it is paid is left out: each call ends before the next one starts. -/
structure World where
  /-- The address a new `BridgeToken` is deployed at. -/
  newBridgeToken : Address
  /-- `BridgeToken(token).symbol()`, which may revert. -/
  symbol : Address → Option Bytes
  /-- Whether `mint(recipient, amount)` of a token returns true. -/
  mint : Address → Address → Word → Bool
  /-- Whether `burnFrom(owner, amount)` of a token returns. -/
  burnFrom : Address → Address → Word → Bool
  /-- Whether `safeTransferFrom(owner, bank, amount)` of a token returns. -/
  safeTransferFrom : Address → Address → Word → Bool
  /-- Whether `safeTransfer(recipient, amount)` of a token returns. -/
  safeTransfer : Address → Address → Word → Bool
  /-- Whether a receiver takes an amount of ether. -/
  sendEther : Address → Word → Bool
  /-- `isBlocklisted` of the blocklist contract. -/
  isBlocklisted : Address → Bool

/-- The events of the bank contract. -/
inductive BankEvent where
  /-- `LogNewBridgeToken`. -/
  | logNewBridgeToken (token : Address) (symbol : Bytes)
  /-- `LogBridgeTokenMint`. -/
  | logBridgeTokenMint (token : Address) (symbol : Bytes) (amount : Word) (beneficiary : Address)
  /-- `LogBurn`. -/
  | logBurn (sender : Address) (recipient : Bytes) (token : Address) (symbol : Bytes)
      (value nonce : Word)
  /-- `LogLock`. -/
  | logLock (sender : Address) (recipient : Bytes) (token : Address) (symbol : Bytes)
      (value nonce : Word)
  /-- `LogUnlock`. -/
  | logUnlock (recipient token : Address) (symbol : Bytes) (value : Word)
  /-- `LogWhiteListUpdate`. -/
  | logWhiteListUpdate (token : Address) (value : Bool)
  /-- `Paused`. -/
  | paused (account : Address)
  /-- `Unpaused`. -/
  | unpaused (account : Address)
deriving DecidableEq, Repr

/-- The storage of the bank contract, with its log. -/
structure BridgeBank where
  /-- The address of the contract. -/
  self : Address
  /-- The account that keeps the lists of tokens. -/
  operator : Address
  /-- The account that adds existing bridge tokens. -/
  owner : Address
  /-- The bridge contract. -/
  cosmosBridge : Address
  /-- The accounts that may pause the bank. -/
  pausers : Address → Bool
  /-- Whether the bank is paused. -/
  paused : Bool
  /-- Whether a blocklist has been set. -/
  hasBlocklist : Bool
  /-- The number of bridge tokens. -/
  bridgeTokenCount : Word
  /-- The bridge token of each symbol. -/
  controlledBridgeTokens : Bytes → Address
  /-- The symbol of each lower case symbol. -/
  lowerToUpperTokens : Bytes → Bytes
  /-- The number of the last deposit. -/
  lockBurnNonce : Word
  /-- The locked token of each symbol. -/
  lockedTokenList : Bytes → Address
  /-- The tokens that may be burned. -/
  cosmosTokenWhiteList : Address → Bool
  /-- The tokens that may be locked. -/
  ethereumTokenWhiteList : Address → Bool
  /-- The events emitted so far. -/
  events : List BankEvent

/-- One byte of `toLower`. -/
def lowerByte (byte : UInt8) : UInt8 := if 65 ≤ byte ∧ byte ≤ 90 then byte + 32 else byte

/-- `toLower`. -/
def toLower (text : Bytes) : Bytes := text.map lowerByte

/-- `verifySifPrefix`, on a text of 42 bytes. -/
def verifySifPrefix (sifAddress : Bytes) : Bool := sifAddress.take 3 == [0x73, 0x69, 0x66]

namespace BridgeBank

/-- `onlyOperator`. -/
def onlyOperator (bank : BridgeBank) (sender : Address) : Revertible Unit :=
  Revertible.require (sender = bank.operator) "!operator"

/-- `onlyOwner`. -/
def onlyOwner (bank : BridgeBank) (sender : Address) : Revertible Unit :=
  Revertible.require (sender = bank.owner) "!owner"

/-- `onlyCosmosBridge`. -/
def onlyCosmosBridge (bank : BridgeBank) (sender : Address) : Revertible Unit :=
  Revertible.require (sender = bank.cosmosBridge) "!cosmosbridge"

/-- `whenNotPaused`. -/
def whenNotPaused (bank : BridgeBank) : Revertible Unit :=
  Revertible.require (bank.paused = false) "Pausable: paused"

/-- `onlyNotBlocklisted`. -/
def onlyNotBlocklisted (bank : BridgeBank) (world : World) (account : Address) : Revertible Unit :=
  Revertible.require (bank.hasBlocklist = true → world.isBlocklisted account = false)
    "Address is blocklisted"

/-- `validSifAddress`. -/
def validSifAddress (sifAddress : Bytes) : Revertible Unit := do
  Revertible.require (sifAddress.length = 42) "Invalid len"
  Revertible.require (verifySifPrefix sifAddress = true) "Invalid sif address"

/-- `BridgeToken(token).symbol()`. -/
def symbolOf (world : World) (token : Address) : Revertible Bytes :=
  match world.symbol token with
  | some symbol => .ok symbol
  | none => Revertible.revert ""

/-- `getBridgeToken`. -/
def getBridgeToken (bank : BridgeBank) (symbol : Bytes) : Address :=
  bank.controlledBridgeTokens symbol

/-- `getLockedTokenAddress`. -/
def getLockedTokenAddress (bank : BridgeBank) (symbol : Bytes) : Address :=
  bank.lockedTokenList symbol

/-- `safeLowerToUpperTokens`. -/
def safeLowerToUpperTokens (keccak256 : Bytes → Word) (bank : BridgeBank) (symbol : Bytes) :
    Bytes :=
  let retrievedSymbol := bank.lowerToUpperTokens symbol
  if keccak256 retrievedSymbol = keccak256 [] then symbol else retrievedSymbol

/-- `setTokenInCosmosWhiteList`. -/
def setTokenInCosmosWhiteList (bank : BridgeBank) (token : Address) (inList : Bool) : BridgeBank :=
  { bank with
    cosmosTokenWhiteList := write bank.cosmosTokenWhiteList token inList
    events := bank.events ++ [.logWhiteListUpdate token inList] }

/-- `setTokenInEthWhiteList`. -/
def setTokenInEthWhiteList (bank : BridgeBank) (token : Address) (inList : Bool) : BridgeBank :=
  { bank with
    ethereumTokenWhiteList := write bank.ethereumTokenWhiteList token inList
    events := bank.events ++ [.logWhiteListUpdate token inList] }

/-- Record the spelling of a symbol under its lower case. -/
def setLowerToUpper (bank : BridgeBank) (symbol : Bytes) : BridgeBank :=
  { bank with
    lowerToUpperTokens := write bank.lowerToUpperTokens (toLower symbol) symbol }

/-- The common part of `deployNewBridgeToken` and `useExistingBridgeToken`. -/
def controlBridgeToken (bank : BridgeBank) (token : Address) (symbol : Bytes) :
    Revertible BridgeBank := do
  let bridgeTokenCount ← SafeMath.add bank.bridgeTokenCount 1
  let bank := { bank with
    bridgeTokenCount
    controlledBridgeTokens := write bank.controlledBridgeTokens symbol token }
  let bank := bank.setLowerToUpper symbol
  pure { bank with events := bank.events ++ [.logNewBridgeToken token symbol] }

/-- `createNewBridgeToken`, called by the bridge contract. -/
def createNewBridgeToken (world : World) (bank : BridgeBank) (sender : Address) (symbol : Bytes) :
    Revertible BridgeBank := do
  bank.onlyCosmosBridge sender
  let bank ← bank.controlBridgeToken world.newBridgeToken symbol
  pure (bank.setTokenInCosmosWhiteList world.newBridgeToken true)

/-- `addExistingBridgeToken`. -/
def addExistingBridgeToken (world : World) (bank : BridgeBank) (sender token : Address) :
    Revertible BridgeBank := do
  bank.onlyOwner sender
  let symbol ← symbolOf world token
  (bank.setTokenInCosmosWhiteList token true).controlBridgeToken token symbol

/-- `updateEthWhiteList`. -/
def updateEthWhiteList (world : World) (bank : BridgeBank) (sender token : Address)
    (inList : Bool) : Revertible BridgeBank := do
  bank.onlyOperator sender
  let symbol ← symbolOf world token
  let listAddress := bank.lockedTokenList symbol
  if inList then Revertible.require (listAddress = 0) "whitelisted"
  else Revertible.require (listAddress ≠ 0) "!whitelisted"
  pure ((bank.setLowerToUpper symbol).setTokenInEthWhiteList token inList)

/-- `bulkWhitelistUpdateLimits`. -/
def bulkWhitelistUpdateLimits (world : World) (bank : BridgeBank) (sender : Address)
    (tokenAddresses : List Address) : Revertible BridgeBank := do
  bank.onlyOperator sender
  tokenAddresses.foldlM (fun bank token => do
    let symbol ← symbolOf world token
    pure ((bank.setTokenInEthWhiteList token true).setLowerToUpper symbol)) bank

/-- `mintNewBridgeTokens`. -/
def mintNewBridgeTokens (world : World) (bank : BridgeBank) (intendedRecipient : Address)
    (bridgeTokenAddress : Address) (symbol : Bytes) (amount : Word) : Revertible BridgeBank := do
  Revertible.require (bank.controlledBridgeTokens symbol = bridgeTokenAddress)
    "Token must be a controlled bridge token"
  Revertible.require (world.mint bridgeTokenAddress intendedRecipient amount = true)
    "Attempted mint of bridge tokens failed"
  pure { bank with
    events := bank.events ++
      [.logBridgeTokenMint bridgeTokenAddress symbol amount intendedRecipient] }

/-- `mintBridgeTokens`, called by the bridge contract. -/
def mintBridgeTokens (keccak256 : Bytes → Word) (world : World) (bank : BridgeBank)
    (sender intendedRecipient : Address) (symbol : Bytes) (amount : Word) :
    Revertible BridgeBank := do
  bank.onlyCosmosBridge sender
  bank.whenNotPaused
  bank.onlyNotBlocklisted world intendedRecipient
  let symbol := bank.safeLowerToUpperTokens keccak256 symbol
  bank.mintNewBridgeTokens world intendedRecipient (bank.controlledBridgeTokens symbol) symbol
    amount

/-- `burn`. -/
def burn (world : World) (bank : BridgeBank) (sender : Address) (recipient : Bytes)
    (token : Address) (amount : Word) : Revertible BridgeBank := do
  validSifAddress recipient
  Revertible.require (bank.cosmosTokenWhiteList token = true)
    "Only token in whitelist can be transferred to cosmos"
  bank.onlyNotBlocklisted world sender
  bank.whenNotPaused
  let symbol ← symbolOf world token
  Revertible.require (world.burnFrom token sender amount = true) ""
  let lockBurnNonce ← SafeMath.add bank.lockBurnNonce 1
  pure { bank with
    lockBurnNonce
    events := bank.events ++ [.logBurn sender recipient token symbol amount lockBurnNonce] }

/-- What `lock` takes and the symbol it is known by: ether sent along, or a token. -/
def takeDeposit (world : World) (sender token : Address) (value amount : Word) :
    Revertible Bytes := do
  if value ≠ 0 then
    Revertible.require (token = 0) "!address(0)"
    Revertible.require (value = amount) "incorrect eth amount"
    pure (ascii "eth")
  else
    Revertible.require (world.safeTransferFrom token sender amount = true) ""
    symbolOf world token

/-- `lock`, with the ether sent along. -/
def lock (world : World) (bank : BridgeBank) (sender : Address) (value : Word)
    (recipient : Bytes) (token : Address) (amount : Word) : Revertible BridgeBank := do
  Revertible.require (bank.ethereumTokenWhiteList token = true)
    "Only token in whitelist can be transferred to cosmos"
  validSifAddress recipient
  bank.onlyNotBlocklisted world sender
  bank.whenNotPaused
  let symbol ← takeDeposit world sender token value amount
  let lockBurnNonce ← SafeMath.add bank.lockBurnNonce 1
  pure { bank with
    lockBurnNonce
    lockedTokenList := write bank.lockedTokenList symbol token
    events := bank.events ++ [.logLock sender recipient token symbol amount lockBurnNonce] }

/-- `unlockFunds`. -/
def unlockFunds (world : World) (bank : BridgeBank) (recipient token : Address) (symbol : Bytes)
    (amount : Word) : Revertible BridgeBank := do
  if token = 0 then Revertible.require (world.sendEther recipient amount = true) "error sending ether"
  else Revertible.require (world.safeTransfer token recipient amount = true) ""
  pure { bank with events := bank.events ++ [.logUnlock recipient token symbol amount] }

/-- `unlock`, called by the bridge contract. -/
def unlock (keccak256 : Bytes → Word) (world : World) (bank : BridgeBank)
    (sender recipient : Address) (symbol : Bytes) (amount : Word) : Revertible BridgeBank := do
  bank.onlyCosmosBridge sender
  bank.whenNotPaused
  bank.onlyNotBlocklisted world recipient
  let symbol := bank.safeLowerToUpperTokens keccak256 symbol
  bank.unlockFunds world recipient (bank.lockedTokenList symbol) symbol amount

/-- `changeOwner`. -/
def changeOwner (bank : BridgeBank) (sender newOwner : Address) : Revertible BridgeBank := do
  bank.onlyOwner sender
  Revertible.require (newOwner ≠ 0) "invalid address"
  pure { bank with owner := newOwner }

/-- `changeOperator`. -/
def changeOperator (bank : BridgeBank) (sender newOperator : Address) :
    Revertible BridgeBank := do
  bank.onlyOperator sender
  Revertible.require (newOperator ≠ 0) "invalid address"
  pure { bank with operator := newOperator }

/-- `setBlocklist`. -/
def setBlocklist (bank : BridgeBank) (sender : Address) : Revertible BridgeBank := do
  bank.onlyOperator sender
  pure { bank with hasBlocklist := true }

/-- `onlyPauser`. -/
def onlyPauser (bank : BridgeBank) (sender : Address) : Revertible Unit :=
  Revertible.require (bank.pausers sender = true)
    "PauserRole: caller does not have the Pauser role"

/-- `addPauser`. -/
def addPauser (bank : BridgeBank) (sender account : Address) : Revertible BridgeBank := do
  bank.onlyPauser sender
  pure { bank with pausers := write bank.pausers account true }

/-- `renouncePauser`. -/
def renouncePauser (bank : BridgeBank) (sender : Address) : Revertible BridgeBank :=
  pure { bank with pausers := write bank.pausers sender false }

/-- `pause`. -/
def pause (bank : BridgeBank) (sender : Address) : Revertible BridgeBank := do
  bank.onlyPauser sender
  bank.whenNotPaused
  pure { bank with paused := true, events := bank.events ++ [.paused sender] }

/-- `unpause`. -/
def unpause (bank : BridgeBank) (sender : Address) : Revertible BridgeBank := do
  bank.onlyPauser sender
  Revertible.require (bank.paused = true) "Pausable: not paused"
  pure { bank with paused := false, events := bank.events ++ [.unpaused sender] }

end BridgeBank

/-- The functions of the bank that accounts call. -/
inductive BankAction where
  /-- `updateEthWhiteList`. -/
  | updateEthWhiteList (token : Address) (inList : Bool)
  /-- `bulkWhitelistUpdateLimits`. -/
  | bulkWhitelistUpdateLimits (tokenAddresses : List Address)
  /-- `addExistingBridgeToken`. -/
  | addExistingBridgeToken (contractAddress : Address)
  /-- `lock`. -/
  | lock (value : Word) (recipient : Bytes) (token : Address) (amount : Word)
  /-- `burn`. -/
  | burn (recipient : Bytes) (token : Address) (amount : Word)
  /-- `changeOwner`. -/
  | changeOwner (newOwner : Address)
  /-- `changeOperator`. -/
  | changeOperator (newOperator : Address)
  /-- `setBlocklist`. -/
  | setBlocklist
  /-- `addPauser`. -/
  | addPauser (account : Address)
  /-- `renouncePauser`. -/
  | renouncePauser
  /-- `pause`. -/
  | pause
  /-- `unpause`. -/
  | unpause
deriving DecidableEq, Repr

/-- A call of the bank by an account. -/
def BridgeBank.call (world : World) (bank : BridgeBank) (sender : Address) :
    BankAction → Revertible BridgeBank
  | .updateEthWhiteList token inList => bank.updateEthWhiteList world sender token inList
  | .bulkWhitelistUpdateLimits tokens => bank.bulkWhitelistUpdateLimits world sender tokens
  | .addExistingBridgeToken token => bank.addExistingBridgeToken world sender token
  | .lock value recipient token amount => bank.lock world sender value recipient token amount
  | .burn recipient token amount => bank.burn world sender recipient token amount
  | .changeOwner newOwner => bank.changeOwner sender newOwner
  | .changeOperator newOperator => bank.changeOperator sender newOperator
  | .setBlocklist => bank.setBlocklist sender
  | .addPauser account => bank.addPauser sender account
  | .renouncePauser => bank.renouncePauser sender
  | .pause => bank.pause sender
  | .unpause => bank.unpause sender

end Akhira.Contracts
