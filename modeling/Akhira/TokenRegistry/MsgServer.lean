import Akhira.Sdk.Bank
import Akhira.TokenRegistry.Keeper

/-!
# Changes of the token registry

The admin registers and removes entries and replaces the whole registry. An entry takes the place of
the first one with its denomination up to letter case, or the last place; a removal takes out all of
them.
-/
namespace Akhira.TokenRegistry.Server

open Akhira.Sdk

/-- The registry store. -/
structure State where
  registry : Registry
  /-- Empty when unset. -/
  adminAccount : AccAddress

/-- The messages of the module. -/
inductive Msg where
  | register (fromAddress : String) (entry : Option RegistryEntry)
  | setRegistry (fromAddress : String) (registry : Option Registry)
  | deregister (fromAddress : String) (denom : String)

/-- `From`. -/
def Msg.fromAddress : Msg → String
  | .register fromAddress _ => fromAddress
  | .setRegistry fromAddress _ => fromAddress
  | .deregister fromAddress _ => fromAddress

section Checks

/-- The checks of a denomination. -/
def checkDenom (denom : String) : Outcome Unit := do
  Outcome.require (denom ≠ "") (.plain "no denom specified")
  Outcome.require (validDenom denom = true) (.plain "Denom is not valid")

/-- An entry whose decimals are not positive is refused. -/
def checkDecimals (entry : RegistryEntry) : Outcome Unit :=
  Outcome.require (0 < entry.decimals) (.plain "Decimals cannot be zero")

/-- The sender's address has to decode. -/
def checkFrom (chain : Chain) (fromAddress : String) : Outcome Unit := do
  let _ ← (chain.decode fromAddress).noting "invalid from address"
  pure ()

/-- `ValidateBasic`. The decimals of a registered entry are checked last. -/
def Msg.validateBasic (chain : Chain) : Msg → Outcome Unit
  | .register fromAddress entry => do
    let entry ← Outcome.present entry (.error (.plain "no token entry specified"))
    checkDenom entry.denom
    checkFrom chain fromAddress
    checkDecimals entry
  | .setRegistry fromAddress registry => do
    let registry ← Outcome.present registry (.error (.plain "no token entry specified"))
    registry.forM fun entry => do
      checkDenom entry.denom
      checkDecimals entry
    checkFrom chain fromAddress
  | .deregister fromAddress denom => do
    checkDenom denom
    checkFrom chain fromAddress

end Checks

/-- `SetToken`. -/
def setToken : Registry → RegistryEntry → Registry
  | [], entry => [entry]
  | first :: rest, entry =>
    if equalFold first.denom entry.denom then entry :: rest else first :: setToken rest entry

/-- `RemoveToken`. -/
def removeToken (registry : Registry) (denom : String) : Registry :=
  registry.filter fun entry => !equalFold entry.denom denom

/-- `IsAdminAccount`. -/
def isAdminAccount (adminAccount account : AccAddress) : Bool :=
  adminAccount ≠ [] ∧ adminAccount = account

/-- The check that every handler begins with. -/
def requireAdmin (chain : Chain) (adminAccount : AccAddress) (fromAddress : String) :
    Outcome Unit := do
  let account ← chain.decode fromAddress
  Outcome.require (isAdminAccount adminAccount account = true)
    (errInvalidAddress.wrap "unauthorised signer")

/-- A field that is dereferenced. -/
def deref {α : Type} (field : Option α) : Outcome α :=
  Outcome.present field (.panic "invalid memory address or nil pointer dereference")

/-- `Register`, `SetRegistry` and `Deregister`. -/
def handle (chain : Chain) (state : State) (msg : Msg) : Outcome State := do
  requireAdmin chain state.adminAccount msg.fromAddress
  match msg with
  | .register _ entry => do
    let entry ← deref entry
    pure { state with registry := setToken state.registry entry }
  | .setRegistry _ registry => do
    let registry ← deref registry
    pure { state with registry }
  | .deregister _ denom => pure { state with registry := removeToken state.registry denom }

/-- Deliver a message. -/
def deliver (chain : Chain) (state : State) (msg : Msg) : Outcome State := do
  msg.validateBasic chain
  handle chain state msg

end Akhira.TokenRegistry.Server
