import Akhira.Sdk.Outcome

/-!
# Token registry lookups

The registry is a list of entries. A lookup folds letter case and takes the first entry
that matches, so the fields a module reads for a denomination are those of that entry.
-/
namespace Akhira.TokenRegistry

open Akhira.Sdk

/-- What an entry allows. -/
inductive Permission where
  /-- Unset. -/
  | unspecified
  /-- Trading in liquidity pools. -/
  | clp
  /-- Export over IBC. -/
  | ibcExport
  /-- Import over IBC. -/
  | ibcImport
deriving DecidableEq, Repr

/-- The fields of a registry entry the modelled functions read. The other fields, which name the token
on other networks and on the counterparty chain, are read by no check here and are left out. -/
structure RegistryEntry where
  /-- The denomination the entry is about. -/
  denom : String
  /-- Its number of decimals. -/
  decimals : Int
  /-- What it may be used for. -/
  permissions : List Permission
  /-- The denomination its amounts are stored in. -/
  unitDenom : String
deriving DecidableEq, Repr

/-- The stored registry. -/
abbrev Registry := List RegistryEntry

/-- The letter a character folds to. Besides the capital letters, the Kelvin sign and the
long s are the only characters that fold to an ASCII letter. -/
def foldChar (character : Char) : Char :=
  if character = '\u212a' then 'k' else if character = '\u017f' then 's' else character.toLower

/-- `strings.EqualFold` where one side is ASCII, as every denomination is. -/
def equalFold (left right : String) : Bool :=
  left.toList.map foldChar = right.toList.map foldChar

/-- The registry's `ErrPermissionDenied`. -/
def errPermissionDenied : SdkError := .register "tokenregistry" 2 "permission denied for denom"

/-- The SDK's `ErrKeyNotFound`. -/
def errKeyNotFound : SdkError := .register "sdk" 30 "key not found"

/-- `GetEntry`: the first entry whose denomination matches up to letter case. -/
def getEntry (registry : Registry) (denom : String) : Outcome RegistryEntry :=
  Outcome.present (registry.find? fun entry => equalFold entry.denom denom)
    (.error (errKeyNotFound.wrap "registry entry not found"))

/-- `CheckEntryPermissions`: every required permission is listed. -/
def checkEntryPermissions (entry : RegistryEntry) (required : List Permission) : Bool :=
  required.all fun permission => entry.permissions.contains permission

end Akhira.TokenRegistry
