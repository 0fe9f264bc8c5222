import Akhira.Base.Bech32
import Akhira.Relayer.Cosmos

/-!
# What the replay takes for sent

The decoder cuts 42 bytes for a sender whose text has 41, so it returns the text with the zero
that follows it, and it drops calls whose sequence needs more than 32 bits. No message that was
sent is found again; a message is only ever found by the text of a sent one with a zero behind.
-/
namespace Akhira.Verif.Relayer

open Akhira.Base Akhira.Contracts Akhira.EthBridge Akhira.Relayer

section Digits

/-- The digits of bytes are read as their halves. -/
theorem mapM_hexEncode (bytes : Bytes) : (hexEncode bytes).mapM hexValue =
    some (bytes.flatMap fun byte => [byte.toNat / 16, byte.toNat % 16]) := by
  induction bytes with
  | nil => rfl
  | cons byte rest ih =>
    obtain ⟨high, low⟩ := hexValue_byte byte
    rw [hexEncode_cons, List.mapM_cons, List.mapM_cons, ih, high, low]
    rfl

/-- Two digits make a byte. -/
theorem foldl_digits (bytes : Bytes) (start : Nat) :
    (bytes.flatMap fun byte => [byte.toNat / 16, byte.toNat % 16]).foldl
        (fun value digit => value * 16 + digit) start =
      bytes.foldl (fun value byte => value * 256 + byte.toNat) start := by
  induction bytes generalizing start with
  | nil => rfl
  | cons byte rest ih =>
    have joined : (start * 16 + byte.toNat / 16) * 16 + byte.toNat % 16 =
        start * 256 + byte.toNat := by omega
    rw [List.flatMap_cons, List.foldl_append, List.foldl_cons, List.foldl_cons, List.foldl_nil, joined,
      List.foldl_cons]
    exact ih _

/-- Written digits are read back when the number is small enough. -/
theorem parseUint_hexEncode {bytes : Bytes} (bitSize : Nat) (some_ : bytes ≠ []) :
    parseUint (hexEncode bytes) bitSize =
      if fromBytes bytes < 2 ^ bitSize then .ok (fromBytes bytes)
      else .error "value out of range" := by
  unfold parseUint
  rw [mapM_hexEncode]
  obtain ⟨byte, rest, rfl⟩ := List.exists_cons_of_ne_nil some_
  have value := foldl_digits (byte :: rest) 0
  change (if List.foldl _ 0 (List.flatMap _ (byte :: rest)) < 2 ^ bitSize then
    Except.ok (List.foldl _ 0 (List.flatMap _ (byte :: rest))) else _) = _
  rw [value]
  rfl

end Digits

variable {msg : CosmosMsg} {sent : List CosmosMsg}

/-- A message as the chain emits it: its sender is the text of an account of twenty bytes, and its
sequence a sequence of the account. -/
structure Emitted (msg : CosmosMsg) : Prop where
  sender : ∃ account : Bytes, account.length = 20 ∧
    msg.cosmosSender = Bech32.encode accountAddressPrefix account
  sequence : 0 ≤ msg.cosmosSenderSequence ∧ msg.cosmosSenderSequence < 2 ^ 64

/-- The sender of an emitted message has 41 bytes. -/
theorem Emitted.length (emitted : Emitted msg) : msg.cosmosSender.length = 41 := by
  obtain ⟨account, twenty, text⟩ := emitted.sender
  rw [text, Bech32.length_encode, twenty]
  rfl

/-- The sequence of an emitted message fits a word. -/
theorem Emitted.word (emitted : Emitted msg) :
    ((BitVec.ofInt 256 msg.cosmosSenderSequence).toNat : Int) = msg.cosmosSenderSequence := by
  have sequence := emitted.sequence
  rw [BitVec.toNat_ofInt]
  omega

/-- What the decoder makes of a call. -/
theorem myDecode_callData (emitted : Emitted msg) :
    myDecode (msg.callData.drop 4) =
      if msg.cosmosSenderSequence < 2 ^ 32 then
        .ok ⟨msg.cosmosSenderSequence, msg.cosmosSender ++ [0]⟩
      else .error "value out of range" := by
  set data := msg.callData.drop 4 with data_eq
  have arguments : data = Abi.encode ([.static msg.claimType.number] ++
      .dynamic msg.cosmosSender :: [.static (BitVec.ofInt 256 msg.cosmosSenderSequence).toNat,
        .static msg.ethereumReceiver.toNat, .dynamic msg.symbol,
        .static (BitVec.ofInt 256 msg.amount.val).toNat]) := List.drop_left' rfl
  have sequence : Abi.slice 64 96 data =
      Abi.word (BitVec.ofInt 256 msg.cosmosSenderSequence).toNat := by
    rw [arguments]
    exact Abi.slice_static [.static msg.claimType.number, .dynamic msg.cosmosSender]
      [.static msg.ethereumReceiver.toNat, .dynamic msg.symbol,
        .static (BitVec.ofInt 256 msg.amount.val).toNat] _
  obtain ⟨first, split, length⟩ := Abi.encode_tail [.static msg.claimType.number]
    [.static (BitVec.ofInt 256 msg.cosmosSenderSequence).toNat,
      .static msg.ethereumReceiver.toNat, .dynamic msg.symbol,
      .static (BitVec.ofInt 256 msg.amount.val).toNat] msg.cosmosSender (by simp [Abi.tail])
  rw [← arguments, emitted.length] at split
  have padding : Abi.padding 41 = 0 :: List.replicate 22 0 := rfl
  -- one byte more than the text is cut off, which is the first zero behind it
  have sender : Abi.slice (32 * 7) (32 * 7 + 42) data = msg.cosmosSender ++ [0] := by
    have start : first.length = 32 * 7 := length
    have wide : 32 * 7 + 42 - 32 * 7 = (msg.cosmosSender ++ [0]).length := by
      rw [List.length_append, emitted.length]
      rfl
    rw [Abi.slice, split, ← start, List.drop_left, start, wide, padding]
    have shifted : msg.cosmosSender ++ 0 :: List.replicate 22 0 =
        (msg.cosmosSender ++ [0]) ++ List.replicate 22 0 := by simp
    rw [shifted, List.append_assoc, List.take_left]
  have long : ¬ data.length < 32 * 7 + 42 := by
    rw [split, padding]
    simp only [List.length_append, List.length_cons, List.length_replicate, emitted.length, length]
    omega
  have read := emitted.word
  have range : (BitVec.ofInt 256 msg.cosmosSenderSequence).toNat < 256 ^ 32 :=
    (BitVec.ofInt 256 msg.cosmosSenderSequence).isLt
  rw [myDecode, if_neg long, sequence, sender, Abi.word, parseUint_hexEncode 32 (by
    intro empty
    have none_left := congrArg List.length empty
    rw [length_bigEndian] at none_left
    cases none_left), fromBytes_bigEndian, Nat.mod_eq_of_lt range]
  by_cases small : msg.cosmosSenderSequence < 2 ^ 32
  · rw [if_pos small, if_pos (by omega)]
    change Except.ok _ = _
    rw [read]
  · rw [if_neg small, if_neg (by omega)]
    rfl

/-- The claims found again. -/
theorem mem_getAllProphecyClaim (emitted : ∀ entry ∈ sent, Emitted entry)
    {claim : ProphecyClaimUnique} :
    claim ∈ getAllProphecyClaim (sent.map CosmosMsg.callData) ↔
      ∃ entry ∈ sent, entry.cosmosSenderSequence < 2 ^ 32 ∧
        claim = ⟨entry.cosmosSenderSequence, entry.cosmosSender ++ [0]⟩ := by
  have decoded : ∀ entry ∈ sent, (if entry.callData.length < 4 then none
      else if entry.callData.take 4 ≠ newProphecyClaimID then none
      else (myDecode (entry.callData.drop 4)).toOption) =
        if entry.cosmosSenderSequence < 2 ^ 32 then
          some ⟨entry.cosmosSenderSequence, entry.cosmosSender ++ [0]⟩ else none := by
    intro entry listed
    have long : ¬ entry.callData.length < 4 := by
      rw [CosmosMsg.callData, List.length_append]
      exact Nat.not_lt.mpr (Nat.le_add_right 4 _)
    have method : entry.callData.take 4 = newProphecyClaimID := rfl
    rw [if_neg long, if_neg (not_not.mpr method), myDecode_callData (emitted entry listed)]
    split <;> rfl
  rw [getAllProphecyClaim, List.mem_filterMap]
  constructor
  · rintro ⟨data, listed, found⟩
    obtain ⟨entry, member, rfl⟩ := List.mem_map.mp listed
    rw [decoded entry member] at found
    split at found
    · next small => exact ⟨entry, member, small, (Option.some.inj found).symm⟩
    · cases found
  · rintro ⟨entry, member, small, rfl⟩
    refine ⟨_, List.mem_map_of_mem member, ?_⟩
    rw [decoded entry member, if_pos small]

/-- What counts as processed. -/
theorem messageProcessed_iff (emitted : ∀ entry ∈ sent, Emitted entry) :
    messageProcessed msg (getAllProphecyClaim (sent.map CosmosMsg.callData)) = true ↔
      ∃ entry ∈ sent, entry.cosmosSenderSequence < 2 ^ 32 ∧
        msg.cosmosSenderSequence = entry.cosmosSenderSequence ∧
        msg.cosmosSender = entry.cosmosSender ++ [0] := by
  rw [messageProcessed, List.any_eq_true]
  constructor
  · rintro ⟨claim, found, same⟩
    obtain ⟨entry, member, small, rfl⟩ := (mem_getAllProphecyClaim emitted).mp found
    rw [Bool.and_eq_true, decide_eq_true_eq, decide_eq_true_eq] at same
    exact ⟨entry, member, small, same.2, same.1⟩
  · rintro ⟨entry, member, small, sequence, sender⟩
    refine ⟨_, (mem_getAllProphecyClaim emitted).mpr ⟨entry, member, small, rfl⟩, ?_⟩
    rw [Bool.and_eq_true, decide_eq_true_eq, decide_eq_true_eq]
    exact ⟨sender, sequence⟩

/-- The answer for a message is right just when the message was not sent and its sender is not the
text of a sender with a zero behind, for the same sequence. -/
theorem processed_exact_iff (sent : List CosmosMsg) (emitted : ∀ entry ∈ sent, Emitted entry)
    (msg : CosmosMsg) :
    (messageProcessed msg (getAllProphecyClaim (sent.map CosmosMsg.callData)) = true ↔
        msg ∈ sent) ↔
      msg ∉ sent ∧ ∀ entry ∈ sent, entry.cosmosSenderSequence < 2 ^ 32 →
        msg.cosmosSenderSequence = entry.cosmosSenderSequence →
        msg.cosmosSender ≠ entry.cosmosSender ++ [0] := by
  rw [messageProcessed_iff emitted]
  constructor
  · intro right
    have unsent : msg ∉ sent := by
      intro member
      obtain ⟨entry, listed, -, -, sender⟩ := right.mpr member
      have length := congrArg List.length sender
      rw [(emitted msg member).length, List.length_append, (emitted entry listed).length] at length
      cases length
    refine ⟨unsent, fun entry listed small sequence sender => ?_⟩
    exact unsent (right.mp ⟨entry, listed, small, sequence, sender⟩)
  · rintro ⟨unsent, apart⟩
    constructor
    · rintro ⟨entry, listed, small, sequence, sender⟩
      exact absurd sender (apart entry listed small sequence)
    · exact fun member => absurd member unsent

section Sample

/-- A burn of the account with all bytes one. -/
def burnMsg (sequence : Int) : CosmosMsg where
  claimType := .msgBurn
  cosmosSender := Bech32.encode accountAddressPrefix (List.replicate 20 1)
  cosmosSenderSequence := sequence
  ethereumReceiver := 0x52908400098527886E0F7030069857D2E4169EE7#160
  symbol := ascii "eth"
  amount := ⟨10 ^ 18, by decide⟩

/-- The sample message is one that is emitted. -/
theorem burnMsg_emitted {sequence : Int} (range : 0 ≤ sequence ∧ sequence < 2 ^ 64) :
    Emitted (burnMsg sequence) := ⟨⟨_, List.length_replicate, rfl⟩, range⟩

end Sample

/-- The message after a sent one is rightly sent. -/
theorem next_burn_unprocessed :
    messageProcessed (burnMsg 8)
      (getAllProphecyClaim ([burnMsg 7].map CosmosMsg.callData)) = true ↔
        burnMsg 8 ∈ [burnMsg 7] :=
  (processed_exact_iff [burnMsg 7] (by
    intro entry listed
    rw [List.mem_singleton.mp listed]
    exact burnMsg_emitted (by decide)) (burnMsg 8)).mpr (by decide +kernel)

/-- A sent message is not found again, and one is found that was never sent. -/
theorem sent_burn_unprocessed :
    let claims := getAllProphecyClaim ([burnMsg 7].map CosmosMsg.callData)
    let other := { burnMsg 7 with cosmosSender := (burnMsg 7).cosmosSender ++ [0] }
    messageProcessed (burnMsg 7) claims = false ∧
      messageProcessed other claims = true ∧ other ∉ [burnMsg 7] := by
  decide +kernel

end Akhira.Verif.Relayer
