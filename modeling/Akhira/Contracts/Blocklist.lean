import Akhira.Contracts.Evm

/-!
# The blocklist

`Blocklist.sol`: a list of addresses and the index of each of them. A removal moves the last address
into the gap and leaves the index of the removed one as it was. An access beyond the end of the list
is an invalid opcode.
-/
namespace Akhira.Contracts

open Akhira.Base

/-- What an access beyond the end of an array stops with. -/
def invalidOpcode : String := "invalid opcode"

/-- The events of the contract. -/
inductive BlocklistEvent where
  | addedToBlocklist (account sender : Address)
  | removedFromBlocklist (account sender : Address)
deriving DecidableEq, Repr

/-- The storage of the contract and its log. -/
structure Blocklist where
  owner : Address
  userIndex : Address → Word
  userList : List Address
  events : List BlocklistEvent

namespace Blocklist

/-- What the constructor leaves. -/
def deployed (owner : Address) : Blocklist := ⟨owner, fun _ => 0, [], []⟩

/-- `onlyOwner`. -/
def onlyOwner (blocklist : Blocklist) (sender : Address) : Revertible Unit :=
  Revertible.require (sender = blocklist.owner) "Ownable: caller is not the owner"

/-- `_userList.length`. -/
def length (blocklist : Blocklist) : Word := BitVec.ofNat 256 blocklist.userList.length

/-- `_userList[row]`. -/
def userAt (blocklist : Blocklist) (row : Word) : Revertible Address :=
  match blocklist.userList[row.toNat]? with
  | some account => .ok account
  | none => Revertible.revert invalidOpcode

/-- `_userList[row] = account`. -/
def setUserAt (blocklist : Blocklist) (row : Word) (account : Address) : Revertible Blocklist :=
  if row.toNat < blocklist.userList.length then
    .ok { blocklist with userList := blocklist.userList.set row.toNat account }
  else Revertible.revert invalidOpcode

/-- `isBlocklisted`. -/
def isBlocklisted (blocklist : Blocklist) (account : Address) : Revertible Bool :=
  if blocklist.length = 0 then pure false
  else if blocklist.length.toNat ≤ (blocklist.userIndex account).toNat then pure false
  else do
    let user ← blocklist.userAt (blocklist.userIndex account)
    pure (user = account)

/-- `getFullList`. -/
def getFullList (blocklist : Blocklist) : List Address := blocklist.userList

/-- `_addToBlocklist`. -/
def addToBlocklistInternal (blocklist : Blocklist) (sender account : Address) :
    Revertible (Blocklist × Bool) := do
  let listed ← blocklist.isBlocklisted account
  Revertible.require (listed = false) "Already in blocklist"
  pure ({ blocklist with
    userIndex := write blocklist.userIndex account blocklist.length
    userList := blocklist.userList ++ [account]
    events := blocklist.events ++ [.addedToBlocklist account sender] }, true)

/-- `_removeFromBlocklist`. -/
def removeFromBlocklistInternal (blocklist : Blocklist) (sender account : Address) :
    Revertible (Blocklist × Bool) := do
  let listed ← blocklist.isBlocklisted account
  Revertible.require (listed = true) "Not in blocklist"
  let rowToDelete := blocklist.userIndex account
  let keyToMove ← blocklist.userAt (blocklist.length - 1)
  let blocklist ← blocklist.setUserAt rowToDelete keyToMove
  pure ({ blocklist with
    userIndex := write blocklist.userIndex keyToMove rowToDelete
    userList := blocklist.userList.dropLast
    events := blocklist.events ++ [.removedFromBlocklist account sender] }, true)

/-- One round of a batch: the call must return true. -/
def requiring (call : Blocklist → Address → Address → Revertible (Blocklist × Bool))
    (sender : Address) (blocklist : Blocklist) (account : Address) : Revertible Blocklist := do
  let (blocklist, succeeded) ← call blocklist sender account
  Revertible.require (succeeded = true) ""
  pure blocklist

/-- `addToBlocklist`. -/
def addToBlocklist (blocklist : Blocklist) (sender account : Address) :
    Revertible (Blocklist × Bool) := do
  blocklist.onlyOwner sender
  blocklist.addToBlocklistInternal sender account

/-- `batchAddToBlocklist`. -/
def batchAddToBlocklist (blocklist : Blocklist) (sender : Address) (accounts : List Address) :
    Revertible Blocklist := do
  blocklist.onlyOwner sender
  accounts.foldlM (requiring addToBlocklistInternal sender) blocklist

/-- `removeFromBlocklist`. -/
def removeFromBlocklist (blocklist : Blocklist) (sender account : Address) :
    Revertible (Blocklist × Bool) := do
  blocklist.onlyOwner sender
  blocklist.removeFromBlocklistInternal sender account

/-- `batchRemoveFromBlocklist`. -/
def batchRemoveFromBlocklist (blocklist : Blocklist) (sender : Address) (accounts : List Address) :
    Revertible Blocklist := do
  blocklist.onlyOwner sender
  accounts.foldlM (requiring removeFromBlocklistInternal sender) blocklist

end Blocklist

/-- The functions that change the list. -/
inductive BlocklistAction where
  | addToBlocklist (account : Address)
  | batchAddToBlocklist (accounts : List Address)
  | removeFromBlocklist (account : Address)
  | batchRemoveFromBlocklist (accounts : List Address)
deriving DecidableEq, Repr

/-- A call of an account. -/
structure BlocklistCall where
  sender : Address
  action : BlocklistAction
deriving DecidableEq, Repr

/-- The contract after a call. -/
def executeBlocklist (blocklist : Blocklist) (call : BlocklistCall) : Revertible Blocklist :=
  match call.action with
  | .addToBlocklist account => do
    let (blocklist, _) ← blocklist.addToBlocklist call.sender account
    pure blocklist
  | .batchAddToBlocklist accounts => blocklist.batchAddToBlocklist call.sender accounts
  | .removeFromBlocklist account => do
    let (blocklist, _) ← blocklist.removeFromBlocklist call.sender account
    pure blocklist
  | .batchRemoveFromBlocklist accounts => blocklist.batchRemoveFromBlocklist call.sender accounts

end Akhira.Contracts
