import Akhira.Base.Store
import Akhira.Sdk.Outcome

/-!
# Prophecies

The records of the oracle module. A prophecy lists the validators of each content and
the content of each validator. It is stored with both maps as JSON objects, in which a
validator is its bech32 text; a text that does not decode makes the stored prophecy
unreadable.
-/
namespace Akhira.Oracle

open Akhira.Base Akhira.Sdk

/-- `sdk.ValAddress` as `ValAddressFromBech32` accepts it. -/
structure ValAddress where
  /-- The bytes. -/
  bytes : List UInt8
  /-- There are 1 to 255 of them. -/
  fits : 0 < bytes.length ∧ bytes.length ≤ 255
deriving DecidableEq, Repr

/-- The bech32 texts of validator addresses. -/
structure ValCodec where
  /-- `ValAddress.String`. -/
  text : ValAddress → String
  /-- `sdk.ValAddressFromBech32`, which reads capital letters too. -/
  valAddressFromBech32 : String → Option ValAddress
  /-- A text that was written is read back. -/
  read_text : ∀ address, valAddressFromBech32 (text address) = some address
  /-- The empty text is refused. -/
  read_empty : valAddressFromBech32 "" = none

/-- Different addresses have different texts. -/
theorem ValCodec.text_injective (codec : ValCodec) {left right : ValAddress}
    (same : codec.text left = codec.text right) : left = right := by
  have read := codec.read_text left
  rw [same, codec.read_text right] at read
  exact (Option.some.inj read).symm

/-- No address is written as the empty text. -/
theorem ValCodec.text_ne_empty (codec : ValCodec) (address : ValAddress) :
    codec.text address ≠ "" := by
  intro empty
  have read := codec.read_text address
  rw [empty, codec.read_empty] at read
  cases read

/-- The text of a listed address. `none` is the empty address. -/
def ValCodec.listedText (codec : ValCodec) : Option ValAddress → String
  | some address => codec.text address
  | none => ""

/-- `ValAddress.UnmarshalJSON`, which reads the empty text as the empty address. -/
def ValCodec.unmarshalJSON (codec : ValCodec) (text : String) : Option (Option ValAddress) :=
  if text = "" then some none else (codec.valAddressFromBech32 text).map some

/-- A listed address is read back from its text. -/
theorem ValCodec.unmarshalJSON_listedText (codec : ValCodec) (address : Option ValAddress) :
    codec.unmarshalJSON (codec.listedText address) = some address := by
  cases address with
  | none => rfl
  | some address =>
    rw [unmarshalJSON, listedText, if_neg (codec.text_ne_empty address), codec.read_text]
    rfl

/-- `StatusText`. The unspecified one, which no message writes, is left out. -/
inductive StatusText where
  | pending
  | success
  | failed
deriving DecidableEq, Repr

/-- `Status`. -/
structure Status where
  /-- Where the prophecy stands. -/
  text : StatusText
  /-- The content it succeeded with. -/
  finalClaim : String
deriving DecidableEq, Repr

/-- `Claim`. -/
structure Claim where
  /-- The prophecy. -/
  id : String
  /-- The address text of the validator. -/
  validatorAddress : String
  /-- What the validator claims. -/
  content : String
deriving DecidableEq, Repr

/-- `Prophecy`. -/
structure Prophecy where
  /-- The id. -/
  id : String
  /-- The status. -/
  status : Status
  /-- The validators of each content. `none` is the empty address. -/
  claimValidators : Store String (List (Option ValAddress))
  /-- The content of each validator, by its text. -/
  validatorClaims : Store String String

/-- `DBProphecy`, with the JSON objects as what they hold. -/
structure DBProphecy where
  /-- The id. -/
  id : String
  /-- The status. -/
  status : Status
  /-- The validator texts of each content. -/
  claimValidators : Store String (List String)
  /-- The content of each validator text. -/
  validatorClaims : Store String String

/-- `NewProphecy`. -/
def newProphecy (id : String) : Prophecy :=
  ⟨id, ⟨.pending, ""⟩, Store.empty, Store.empty⟩

namespace Prophecy

/-- The addresses listed under a content. -/
def listedUnder (prophecy : Prophecy) (content : String) : List (Option ValAddress) :=
  (prophecy.claimValidators.get content).getD []

/-- The validators listed under a content. No validator has the empty address. -/
def validatorsOf (prophecy : Prophecy) (content : String) : List ValAddress :=
  (prophecy.listedUnder content).reduceOption

/-- The content of a validator text; the empty text when there is none. -/
def contentOf (prophecy : Prophecy) (validatorAddress : String) : String :=
  (prophecy.validatorClaims.get validatorAddress).getD ""

/-- `AddClaim`. -/
def addClaim (codec : ValCodec) (prophecy : Prophecy) (validator : ValAddress) (content : String) :
    Prophecy :=
  { prophecy with
    claimValidators :=
      prophecy.claimValidators.set content (prophecy.listedUnder content ++ [some validator])
    validatorClaims := prophecy.validatorClaims.set (codec.text validator) content }

/-- `SerializeForDB`. -/
def serializeForDB (codec : ValCodec) (prophecy : Prophecy) : DBProphecy where
  id := prophecy.id
  status := prophecy.status
  claimValidators := prophecy.claimValidators.mapValues fun addresses => addresses.map codec.listedText
  validatorClaims := prophecy.validatorClaims

end Prophecy

/-- `DeserializeFromDB`. -/
def DBProphecy.deserializeFromDB (codec : ValCodec) (db : DBProphecy) : Option Prophecy := do
  let claimValidators ← db.claimValidators.decodeValues fun texts =>
    texts.mapM codec.unmarshalJSON
  pure ⟨db.id, db.status, claimValidators, db.validatorClaims⟩

/-- Written address texts are read back. -/
theorem ValCodec.mapM_text (codec : ValCodec) (addresses : List (Option ValAddress)) :
    (addresses.map codec.listedText).mapM codec.unmarshalJSON = some addresses := by
  induction addresses with
  | nil => rfl
  | cons address rest ih =>
    rw [List.map_cons, List.mapM_cons, codec.unmarshalJSON_listedText, ih]
    rfl

/-- A stored prophecy is read back. -/
theorem deserializeFromDB_serializeForDB (codec : ValCodec) (prophecy : Prophecy) :
    (prophecy.serializeForDB codec).deserializeFromDB codec = some prophecy := by
  unfold DBProphecy.deserializeFromDB Prophecy.serializeForDB
  rw [Store.decodeValues_mapValues _ _ codec.mapM_text]
  rfl

/-- The codespace of the oracle module. -/
def codespace : String := "oracle"

/-- `ErrInvalidIdentifier`. -/
def errInvalidIdentifier : SdkError :=
  .register codespace 4 "invalid identifier provided, must be a nonempty string"
/-- `ErrProphecyFinalized`. -/
def errProphecyFinalized : SdkError := .register codespace 5 "prophecy already finalized"
/-- `ErrDuplicateMessage`. -/
def errDuplicateMessage : SdkError :=
  .register codespace 6 "already processed message from validator for this id"
/-- `ErrInvalidClaim`. -/
def errInvalidClaim : SdkError := .register codespace 7 "claim cannot be empty string"
/-- `ErrInvalidValidator`. -/
def errInvalidValidator : SdkError :=
  .register codespace 8 "claim must be made by actively bonded validator"
/-- `ErrValidatorNotInWhiteList`. -/
def errValidatorNotInWhiteList : SdkError :=
  .register codespace 10 "validator must be in whitelist"
/-- `ErrNotAdminAccount`. -/
def errNotAdminAccount : SdkError := .register codespace 11 "Not an admin account"
/-- `ErrInvalidOperationType`. -/
def errInvalidOperationType : SdkError :=
  .register codespace 12 "invalid operation type for validator whitelist"

end Akhira.Oracle
