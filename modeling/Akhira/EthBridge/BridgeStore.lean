import Akhira.EthBridge.Keeper

/-!
# The bridge store

The key-value store under the bridge keeper. The token list and the receiver account have a key of
one byte each; a blacklisted text has the key of a third byte and the text. The scans of the
blacklist have no upper end. The encodings of the values are left out.
-/
namespace Akhira.EthBridge

open Akhira.Base Akhira.Sdk

/-- What a key holds. -/
inductive Stored where
  /-- `PeggyTokens`. -/
  | peggyTokens (tokens : List String)
  /-- The text of an address. -/
  | address (text : String)
  /-- The byte that marks a blacklisted text. -/
  | mark
deriving DecidableEq, Repr

/-- The store of the module. -/
structure BridgeStore where
  kv : Store String Stored

/-- `PeggyTokenKeyPrefix`. -/
def peggyTokenKey : String := "\x00"

/-- `CethReceiverAccountPrefix`. -/
def cethReceiverAccountKey : String := "\x01"

/-- `append(types.BlacklistPrefix, []byte(address)...)`. -/
def blacklistKey (address : String) : String := "\x02" ++ address

namespace BridgeStore

/-- The store of a new chain. -/
def empty : BridgeStore := ⟨.empty⟩

/-- `GetPeggyToken`. -/
def getPeggyToken (store : BridgeStore) : List String :=
  match store.kv.get peggyTokenKey with
  | some (.peggyTokens tokens) => tokens
  | _ => []

/-- `AddPeggyToken`. -/
def addPeggyToken (store : BridgeStore) (token : String) : BridgeStore :=
  if store.getPeggyToken.any fun value => value = token then store
  else ⟨store.kv.set peggyTokenKey (.peggyTokens (store.getPeggyToken ++ [token]))⟩

/-- The stored text of the receiver account; empty when there is none. -/
def cethReceiverText (store : BridgeStore) : String :=
  match store.kv.get cethReceiverAccountKey with
  | some (.address text) => text
  | _ => ""

/-- `SetCethReceiverAccount`. -/
def setCethReceiverAccount (chain : Chain) (store : BridgeStore) (account : AccAddress) :
    BridgeStore :=
  ⟨store.kv.set cethReceiverAccountKey (.address (chain.accAddressText account))⟩

/-- `IsBlacklisted`. -/
def isBlacklisted (store : BridgeStore) (address : String) : Bool :=
  store.kv.has (blacklistKey address)

/-- The keys of `store.Iterator(types.BlacklistPrefix, nil)`. -/
def scanBlacklist (store : BridgeStore) : List String :=
  store.kv.keys.filter fun key => blacklistKey "" ≤ key

/-- `string(key[1:])`. -/
def addressOf (key : String) : String := String.ofList (key.toList.drop 1)

/-- The texts that `SetBlacklist` takes off; a key of one byte is passed over. -/
def removals (store : BridgeStore) (addresses : List String) : List String :=
  ((store.scanBlacklist.filter fun key => 1 < key.length).map addressOf).filter
    fun address => address ∉ addresses

/-- `SetBlacklist`. -/
def setBlacklist (chain : Chain) (registryAdmin : AccAddress → Bool) (store : BridgeStore)
    (msg : MsgSetBlacklist) : Outcome BridgeStore := do
  let sender ← chain.decode msg.sender
  Outcome.require (registryAdmin sender = true) Oracle.errNotAdminAccount
  let removed := (store.removals msg.addresses).foldl
    (fun kv address => kv.delete (blacklistKey address)) store.kv
  pure ⟨msg.addresses.foldl (fun kv address => kv.set (blacklistKey address) .mark) removed⟩

/-- `GetBlacklist`. -/
def getBlacklist (store : BridgeStore) : List String := store.scanBlacklist.map addressOf

end BridgeStore

/-- The ways the module writes its store. -/
inductive Write where
  | addPeggyToken (token : String)
  | setCethReceiverAccount (account : AccAddress)
  | setBlacklist (registryAdmin : AccAddress → Bool) (msg : MsgSetBlacklist)

/-- Write the store. -/
def BridgeStore.write (chain : Chain) (store : BridgeStore) : Write → Outcome BridgeStore
  | .addPeggyToken token => pure (store.addPeggyToken token)
  | .setCethReceiverAccount account => pure (store.setCethReceiverAccount chain account)
  | .setBlacklist registryAdmin msg => store.setBlacklist chain registryAdmin msg

end Akhira.EthBridge
