import Akhira.Relayer.Cosmos
import Akhira.Sdk.AccAddress
import Akhira.Contracts.BridgeBank
import Akhira.Verif.OracleSafety

/-!
# Recipients of deposits on both sides

The bank takes a recipient of 42 bytes that begins with the letters `sif`; the chain decodes the
texts of its own prefix. For which prefix the two agree, and on which recipients, is found here.
-/
namespace Akhira.Verif.Recipient

open Akhira.Base Akhira.Sdk Akhira.Contracts Akhira.Relayer

variable {accountPrefix : Bytes} {account recipient readable : Bytes} {values : List Nat}
  {texts : Texts}

/-- The letters that the bank asks for. -/
def sifPrefix : Bytes := [0x73, 0x69, 0x66]

/-- The bank takes a recipient. -/
def Accepted (recipient : Bytes) : Prop := BridgeBank.validSifAddress recipient = .ok ()

/-- Whether a recipient is accepted is decided by running the check. -/
instance : Decidable (Accepted recipient) := inferInstanceAs (Decidable (_ = _))

/-- The bank accepts what is 42 bytes long and starts with the three letters. -/
theorem accepted_iff : Accepted recipient ↔
    recipient.length = 42 ∧ recipient.take 3 = sifPrefix := by
  simp only [Accepted, BridgeBank.validSifAddress, Result.bind_ok, Revertible.require_ok,
    verifySifPrefix, beq_iff_eq]
  constructor
  · rintro ⟨-, checks⟩
    exact checks
  · intro checks
    exact ⟨(), checks⟩

/-- The relayer decodes a recipient as an account. -/
def Decoded (texts : Texts) (recipient : Bytes) : Prop :=
  ∃ account, texts.account recipient = .ok account ∧ account ≠ []

/-- The bank takes the text of an account just when the prefix is the one it asks for. -/
theorem accepted_account_iff (twenty : account.length = 20) :
    Accepted (accAddressBytes accountPrefix account) ↔ accountPrefix = sifPrefix := by
  rw [accepted_iff, accAddressBytes, Bech32.length_encode, twenty]
  constructor
  · rintro ⟨length, begins⟩
    have three : accountPrefix.length = 3 := by omega
    rw [Bech32.encode, List.append_assoc, ← three, List.take_left] at begins
    exact begins
  · rintro rfl
    exact ⟨rfl, rfl⟩

/-- Readable characters are a text. -/
theorem account_of_plain (plain : ∀ char ∈ recipient, 33 ≤ char ∧ char ≤ 126)
    (reads : texts.chain.ReadsBech32 accountPrefix) :
    texts.account recipient = .ok account ↔
      accAddressFromBytes accountPrefix recipient = some account := by
  have ascii : (ByteArray.mk recipient.toArray).IsValidUTF8 := by
    apply Std.Http.URI.isValidUTF8_of_isAsciiByte
    rw [Array.all_eq_true_iff_forall_mem]
    intro char listed
    have small := (plain char (by simpa using listed)).2
    have seven : char < 128 := UInt8.lt_of_le_of_lt small (by decide)
    simpa [Std.Http.Internal.Char.isAsciiByte] using seven
  have text : textOf recipient = some (String.fromUTF8 ⟨recipient.toArray⟩ ascii) :=
    dif_pos ascii
  have bytes : (String.fromUTF8 ⟨recipient.toArray⟩ ascii).toUTF8.data.toList = recipient := rfl
  simp only [Texts.account, text, Chain.decode, Result.bind_ok, Outcome.present_ok,
    Option.some.injEq, exists_eq_left']
  rw [reads, bytes]

/-- A recipient with a right checksum is decoded when its readable part is the prefix and its
symbols are whole bytes. -/
theorem decoded_iff (found : Bech32.split 1023 recipient = some (readable, values))
    (short : recipient.length ≤ 255) (reads : texts.chain.ReadsBech32 accountPrefix) :
    Decoded texts recipient ↔ readable = accountPrefix ∧
      ∃ bytes, Bech32.fromFive values = some bytes ∧ bytes ≠ [] := by
  obtain ⟨plain, parts⟩ := Bech32.split_some found
  simp only [Decoded, account_of_plain plain reads, accAddressFromBytes, Bech32.decode, found,
    Option.bind_eq_bind, Option.bind_some, Option.bind_eq_some_iff, Bech32.guard_some, Option.pure_def,
    Option.some.injEq, verifyAddressFormat, Bool.and_eq_true, decide_eq_true_eq]
  constructor
  · rintro ⟨account, ⟨_, ⟨bytes, read, rfl⟩, -, own, -, -, rfl⟩, nonempty⟩
    exact ⟨own, bytes, read, nonempty⟩
  · rintro ⟨own, bytes, read, nonempty⟩
    have count := Bech32.length_fromFive read
    have fits : bytes.length ≤ 255 := by omega
    exact ⟨bytes, ⟨_, ⟨bytes, read, rfl⟩, (), own, (), ⟨nonempty, fits⟩, rfl⟩, nonempty⟩

/-- The bank takes the text of an account just when the chain has the prefix that the bank asks for,
and the relayer decodes a recipient that the bank takes just when its readable part is the prefix of
the chain and its symbols are whole bytes, which they are for the prefix of the bank. -/
theorem recipient_checks_iff (texts : Texts) (accountPrefix : Bytes)
    (reads : texts.chain.ReadsBech32 accountPrefix) (account : AccAddress)
    (twenty : account.length = 20) (recipient readable : Bytes) (values : List Nat)
    (checksum : Bech32.split 1023 recipient = some (readable, values))
    (accepted : Accepted recipient) :
    (Accepted (accAddressBytes accountPrefix account) ↔ accountPrefix = sifPrefix) ∧
      (Decoded texts recipient ↔ readable = accountPrefix ∧
        (accountPrefix = sifPrefix ∨ ∃ bytes, Bech32.fromFive values = some bytes ∧ bytes ≠ [])) := by
  have length := (accepted_iff.mp accepted).1
  refine ⟨accepted_account_iff twenty, ?_⟩
  rw [decoded_iff checksum (by omega) reads]
  refine and_congr_right fun own => ⟨.inr, ?_⟩
  rintro (sif | whole)
  · -- 38 characters after the separator are 32 symbols of five bits and the checksum
    have parts := (Bech32.split_some checksum).2
    have three : readable.length = 3 := by
      rw [own, sif]
      rfl
    have twentyBytes : 5 * values.length = 8 * 20 := by omega
    obtain ⟨bytes, read⟩ := Bech32.fromFive_whole twentyBytes
    refine ⟨bytes, read, fun empty => ?_⟩
    have count := Bech32.length_fromFive read
    rw [empty, List.length_nil] at count
    omega
  · exact whole

section Sample

/-- The texts of a chain with a prefix. -/
def prefixTexts (accountPrefix : Bytes) : Texts where
  chain := {
    accAddressFromBech32 := fun text =>
      accAddressFromBytes accountPrefix text.toUTF8.data.toList
    accAddressText := fun account =>
      String.ofList ((accAddressBytes accountPrefix account).map fun byte => Char.ofNat byte.toNat)
    moduleAddress := fun _ => []
    blockedAddr := fun _ => false }
  validators := Oracle.operatorCodec
  hex _ := ""
  mapLower := goText

/-- The account of twenty ones. -/
def onesAccount : AccAddress := List.replicate 20 1

/-- The symbols of an account. -/
def onesSymbols : List Nat := Bech32.toFive onesAccount

end Sample

/-- With the prefix of the bank, texts of accounts are taken and decoded. -/
theorem sif_recipient_agrees :
    let text := accAddressBytes sifPrefix onesAccount
    Accepted text ∧ Decoded (prefixTexts sifPrefix) text := by
  have agree := recipient_checks_iff (prefixTexts sifPrefix) sifPrefix (fun _ => rfl) onesAccount rfl
    (accAddressBytes sifPrefix onesAccount) sifPrefix onesSymbols (by decide +kernel)
    (by decide +kernel)
  exact ⟨agree.1.mpr rfl, agree.2.mpr ⟨rfl, .inl rfl⟩⟩

/-- The bank refuses the text of an account of the app; a text that it takes is not decoded. -/
theorem app_recipient_disagrees :
    let appText := accAddressBytes accountAddressPrefix onesAccount
    let sifText := accAddressBytes sifPrefix onesAccount
    BridgeBank.validSifAddress appText = Revertible.revert "Invalid len" ∧
      (Bech32.split 1023 sifText).isSome = true ∧ Accepted sifText ∧
      ((prefixTexts accountAddressPrefix).account sifText).isOk = false := by
  decide +kernel

end Akhira.Verif.Recipient
