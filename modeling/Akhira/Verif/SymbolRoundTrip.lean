import Akhira.Verif.Withdrawals

/-!
# Symbols over the bridge and back

The symbol of a deposited token is put into lower case by the relayer, prefixed by the chain, and
cut out of the denomination again by the relayer when it is withdrawn. The bank looks it up under
its own lower case, which knows ASCII only. Both agree for symbols of ASCII bytes and for no
others.
-/
namespace Akhira.Verif.Relayer

open Akhira.Base Akhira.Sdk Akhira.Contracts Akhira.EthBridge Akhira.Relayer
open Akhira.Verif.EthBridge

section Ascii

/-- An ASCII character is one byte. -/
theorem utf8EncodeChar_ascii {letter : Char} (small : letter.toNat < 128) :
    String.utf8EncodeChar letter = [letter.val.toUInt8] := by
  apply String.utf8EncodeChar_eq_singleton
  rw [Char.utf8Size, if_pos]
  rw [UInt32.le_iff_toNat_le]
  exact Nat.lt_succ_iff.mp small

/-- ASCII bytes are the UTF-8 of their characters. -/
theorem utf8_asciiText {bytes : Bytes} (ascii : ∀ byte ∈ bytes, byte < 128) :
    utf8 (asciiText bytes) = bytes := by
  rw [asciiText, utf8_eq, String.toList_ofList]
  induction bytes with
  | nil => rfl
  | cons byte rest ih =>
    have small : byte.toNat < 128 := ascii byte List.mem_cons_self
    have value : (Char.ofNat byte.toNat).toNat = byte.toNat :=
      (Char.toNat_ofNat byte.toNat).trans (if_pos (Or.inl (by omega)))
    have same : (Char.ofNat byte.toNat).val.toUInt8 = byte := by
      apply UInt8.toNat_inj.mp
      rw [UInt32.toNat_toUInt8]
      change (Char.ofNat byte.toNat).toNat % 2 ^ 8 = byte.toNat
      omega
    rw [List.map_cons, List.flatMap_cons, utf8EncodeChar_ascii (by omega), same,
      ih fun other listed => ascii other (List.mem_cons_of_mem _ listed)]
    rfl

/-- ASCII letters are written as bytes below 128. -/
theorem utf8_small {text : String} (ascii : ∀ letter ∈ text.toList, letter.toNat < 128) :
    ∀ byte ∈ utf8 text, byte < 128 := by
  intro byte listed
  rw [utf8_eq, List.mem_flatMap] at listed
  obtain ⟨letter, own, encoded⟩ := listed
  have small := ascii letter own
  rw [utf8EncodeChar_ascii small, List.mem_singleton] at encoded
  subst encoded
  rw [UInt8.lt_iff_toNat_lt, UInt32.toNat_toUInt8]
  change letter.toNat % 2 ^ 8 < 128
  omega

/-- The bank's lower case changes ASCII bytes to ASCII bytes only. -/
theorem lowerByte_small_iff (byte : UInt8) : lowerByte byte < 128 ↔ byte < 128 := by
  simp only [lowerByte, UInt8.lt_iff_toNat_lt, UInt8.le_iff_toNat_le]
  split
  · rename_i upper
    have bounds : 65 ≤ byte.toNat ∧ byte.toNat ≤ 90 := upper
    rw [UInt8.toNat_add]
    change (byte.toNat + 32) % 256 < 128 ↔ byte.toNat < 128
    omega
  · exact Iff.rfl

/-- Lowering letters keeps the bytes below 128 where they are. -/
theorem toLower_small_iff (text : Bytes) :
    (∀ byte ∈ toLower text, byte < 128) ↔ ∀ byte ∈ text, byte < 128 := by
  simp only [toLower, List.forall_mem_map, lowerByte_small_iff]

end Ascii

section Denominations

/-- The characters of a denomination are ASCII. -/
theorem validDenom_small {denom : Denom} (valid : validDenom denom = true) :
    ∀ letter ∈ denom.toList, letter.toNat < 128 := by
  have alphanum : ∀ letter : Char, letter.isAlphanum = true → letter.toNat < 128 := by
    intro letter kind
    simp only [Char.isAlphanum, Char.isAlpha, Char.isUpper, Char.isLower, Char.isDigit,
      Bool.or_eq_true, Bool.and_eq_true, decide_eq_true_eq, UInt32.le_iff_toNat_le] at kind
    change ((65 ≤ letter.toNat ∧ letter.toNat ≤ 90) ∨ 97 ≤ letter.toNat ∧ letter.toNat ≤ 122) ∨
      48 ≤ letter.toNat ∧ letter.toNat ≤ 57 at kind
    omega
  unfold validDenom at valid
  split at valid
  · cases valid
  · rename_i first rest letters
    rw [letters]
    simp only [Bool.and_eq_true, List.all_eq_true, Bool.or_eq_true, beq_iff_eq] at valid
    obtain ⟨⟨⟨head, -⟩, -⟩, tail⟩ := valid
    intro letter member
    rcases List.mem_cons.mp member with rfl | later
    · exact alphanum letter (by rw [Char.isAlphanum, head, Bool.true_or])
    · rcases tail letter later with (kind | rfl) | rfl
      · exact alphanum letter kind
      · decide
      · decide

/-- Cutting after the first prefix letter takes off the prefix, whatever letters follow. -/
theorem afterPrefix_pegged (symbol : String) :
    afterPrefix (utf8 (peggedCoinPrefix ++ symbol)) = utf8 symbol := by
  have bytes : utf8 (peggedCoinPrefix ++ symbol) = prefixByte :: utf8 symbol := by
    have letter : utf8 peggedCoinPrefix = [prefixByte] := by decide +kernel
    rw [utf8_append, letter]
    rfl
  rw [afterPrefix, bytes, List.dropWhile_cons_of_neg (by decide), List.drop_one, List.tail_cons]

end Denominations

/-- The bytes that the relayer's lower case keeps as the bank does: the ASCII ones, as long as the
chain can mint the result. -/
theorem toLower_eq_iff {texts : Texts} {text : Bytes}
    (valid : validDenom (peggedCoinPrefix ++ texts.toLower text) = true) :
    utf8 (texts.toLower text) = toLower text ↔ ∀ byte ∈ text, byte < 128 := by
  constructor
  · intro same
    rw [← toLower_small_iff, ← same]
    apply utf8_small
    intro letter listed
    apply validDenom_small valid letter
    rw [String.toList_append]
    exact List.mem_append_right _ listed
  · intro ascii
    have plain : (text.all fun byte => byte < 128) = true := by simpa using ascii
    rw [Texts.toLower, if_pos plain]
    exact utf8_asciiText ((toLower_small_iff text).mpr ascii)

/-- A locked symbol whose denomination the chain can mint comes back, when the denomination is
burned, as the key that the bank stored it under, just when all its bytes are ASCII. -/
theorem symbol_returns_iff (texts : Texts) (relayer : Parser) (event : EthereumEvent)
    (locked : event.claimType = .lock) (symbol : String)
    (claimed : claimSymbol texts relayer.translator event = .ok symbol)
    (content : OracleClaimContent) (kind : content.claimType = .lock)
    (carried : content.symbol = symbol) (burn : MsgBurn) (minted : content.denom = some burn.symbol)
    (valid : validDenom burn.symbol = true) (receiver : isHexAddress burn.ethereumReceiver = true)
    (sequence : Nat) :
    (∃ msg, relayEvent relayer (withdrawalEvent "burn" burn.toMsgLock sequence) = some msg ∧
        msg.prophecyClaim.symbol = toLower event.symbol) ↔
      ∀ byte ∈ event.symbol, byte < 128 := by
  have lowered : texts.toLower event.symbol = symbol := by
    simp only [claimSymbol, locked, Result.bind_ok, Result.pure_ok, Outcome.require_ok] at claimed
    obtain ⟨-, -, same⟩ := claimed
    exact same
  have denom : peggedCoinPrefix ++ texts.toLower event.symbol = burn.symbol := by
    simp only [OracleClaimContent.denom, kind, carried, Option.some.injEq] at minted
    rw [lowered, minted]
  have pegged : 'c' ∈ burn.symbol.toList := by
    rw [← denom, String.toList_append]
    exact List.mem_append_left _ (by decide)
  have relays := @relayEvent_withdrawal relayer .msgBurn burn.toMsgLock sequence (by decide)
    receiver fun _ => pegged
  change relayEvent relayer (withdrawalEvent "burn" burn.toMsgLock sequence) = _ at relays
  have back : (relayed relayer (.msgBurn, burn.toMsgLock) sequence).prophecyClaim.symbol =
      utf8 (texts.toLower event.symbol) := by
    change afterPrefix (utf8 burn.symbol) = _
    rw [← denom, afterPrefix_pegged]
  rw [← toLower_eq_iff (by rw [denom, valid]), ← back, relays]
  simp only [Option.some.injEq, exists_eq_left']

section Sample

/-- The Kelvin sign, whose lower case is the letter `k`, before `NC`. -/
def kelvinSymbol : Bytes := [0xe2, 0x84, 0xaa, 0x4e, 0x43]

/-- Lowering as in the source for ASCII, and for the sample's Kelvin sign. -/
def lowerTexts : Texts where
  chain := bridgeChain
  validators := Oracle.operatorCodec
  hex _ := zeroAddressText
  mapLower text := if text = kelvinSymbol then "knc" else goText text

/-- A lock of a token with a symbol. -/
def symbolLock (symbol : Bytes) : EthereumEvent where
  recipient := utf8 aliceText
  symbol := symbol
  ethereumChainID := 1
  value := 5
  nonce := 1
  claimType := .lock
  bridgeContractAddress := 0x101
  sender := 0x102
  token := 0x103

/-- The content that is claimed for such a lock. -/
def symbolContent (symbol : String) : OracleClaimContent :=
  ⟨aliceAddress, fiveRowan, symbol, 0x103, .lock⟩

/-- The burn of a denomination. -/
def symbolBurn (denom : Denom) : MsgBurn := { rowanLock fiveRowan with symbol := denom }

end Sample

/-- A symbol that starts with the letter of the bridge comes back as it was. -/
theorem prefix_letters_return :
    let event := symbolLock (ascii "cCUSDC")
    claimSymbol lowerTexts plainRelayer.translator event = .ok "ccusdc" ∧
      ∃ msg, relayEvent plainRelayer (withdrawalEvent "burn" (symbolBurn "cccusdc").toMsgLock 7) =
          some msg ∧ msg.prophecyClaim.symbol = toLower event.symbol := by
  have claimed : claimSymbol lowerTexts plainRelayer.translator (symbolLock (ascii "cCUSDC")) =
      .ok "ccusdc" := by decide +kernel
  exact ⟨claimed, (symbol_returns_iff lowerTexts plainRelayer (symbolLock (ascii "cCUSDC")) rfl
    "ccusdc" claimed (symbolContent "ccusdc") rfl rfl (symbolBurn "cccusdc") rfl (by decide +kernel)
    (by decide +kernel) 7).mpr (by decide +kernel)⟩

/-- The Kelvin sign is minted as the letter `k`, and the bank knows no such key. -/
theorem kelvin_symbol_lost :
    claimSymbol lowerTexts plainRelayer.translator (symbolLock kelvinSymbol) = .ok "knc" ∧
      (symbolContent "knc").denom = some "cknc" ∧ validDenom "cknc" = true ∧
      (relayEvent plainRelayer (withdrawalEvent "burn" (symbolBurn "cknc").toMsgLock 7)).map
          (fun msg => msg.prophecyClaim.symbol) = some (ascii "knc") ∧
      toLower kelvinSymbol = [0xe2, 0x84, 0xaa, 0x6e, 0x63] := by
  decide +kernel

end Akhira.Verif.Relayer
