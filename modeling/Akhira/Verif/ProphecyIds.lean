import Akhira.Verif.BridgePayout
import Akhira.Verif.Withdrawals

/-!
# Which claims share a prophecy id

An id is the hash of the arguments packed one after the other. Two of them, the sender and the
symbol, have no fixed length and no mark where they end, so the bytes of one claim can be read as
another whose sender takes over bytes of the sequence. Nothing else makes two claims collide.
-/
namespace Akhira.Verif.EthBridge

open Akhira.Base Akhira.Contracts

variable {first second : ProphecyClaim}

/-- The bytes between the sender and the amount. -/
def between (claim : ProphecyClaim) : Bytes :=
  packWord claim.cosmosSenderSequence ++ (packAddress claim.ethereumReceiver ++ claim.symbol)

/-- The second claim reads bytes behind the first one's sender as part of its own. -/
structure Realigned (first second : ProphecyClaim) : Prop where
  claimType : first.claimType = second.claimType
  amount : first.amount = second.amount
  moved : ∃ taken, taken ≠ [] ∧ second.cosmosSender = first.cosmosSender ++ taken ∧
    between first = taken ++ between second

/-- The bytes of a claim are its type, its sender, what is between, and its amount. -/
theorem pack_split (claim : ProphecyClaim) : claim.pack =
    claim.claimType.byte :: (claim.cosmosSender ++ (between claim ++ packWord claim.amount)) := by
  unfold ProphecyClaim.pack between
  simp only [List.append_assoc, List.cons_append, List.nil_append]

/-- A realigned claim has the same bytes. -/
theorem Realigned.pack_eq (realigned : Realigned first second) : first.pack = second.pack := by
  obtain ⟨taken, -, senders, rests⟩ := realigned.moved
  rw [pack_split, pack_split, realigned.claimType, realigned.amount, senders, rests]
  simp only [List.append_assoc]

/-- Senders of one length leave no bytes to take over. -/
theorem Realigned.length_ne (realigned : Realigned first second) :
    first.cosmosSender.length ≠ second.cosmosSender.length := by
  obtain ⟨taken, some, senders, -⟩ := realigned.moved
  have positive := List.length_pos_iff.mpr some
  rw [senders, List.length_append]
  omega

/-- A realigned claim is a different one. -/
theorem Realigned.ne (realigned : Realigned first second) : first ≠ second :=
  fun same => realigned.length_ne (congrArg (fun claim => claim.cosmosSender.length) same)

/-- Claims of one type and amount whose other bytes split at the same place are the same. -/
theorem eq_of_between (types : first.claimType = second.claimType)
    (amounts : first.amount = second.amount) (senders : first.cosmosSender = second.cosmosSender)
    (rests : between first = between second) : first = second := by
  obtain ⟨sequences, rests⟩ := List.append_inj rests (by simp [packWord])
  obtain ⟨receivers, symbols⟩ := List.append_inj rests (by simp [packAddress])
  have sequence := packWord_injective sequences
  have receiver := packAddress_injective receivers
  cases first
  cases second
  simp_all

/-- A claim whose sender continues that of another over the same bytes is the other or realigns
it. -/
theorem eq_or_realigned {taken : Bytes} (types : first.claimType = second.claimType)
    (senders : second.cosmosSender = first.cosmosSender ++ taken)
    (rests : between first ++ packWord first.amount =
      taken ++ (between second ++ packWord second.amount)) :
    first = second ∨ Realigned first second := by
  rw [← List.append_assoc] at rests
  obtain ⟨middles, amounts⟩ := List.append_inj' rests (by simp [packWord])
  have amount := packWord_injective amounts
  by_cases nothing : taken = []
  · rw [nothing, List.append_nil] at senders
    rw [nothing, List.nil_append] at middles
    exact .inl (eq_of_between types amount senders.symm middles)
  · exact .inr ⟨types, amount, taken, nothing, senders, middles⟩

/-- Equal packed bytes come from one claim or from two that are realigned. -/
theorem pack_eq_iff : first.pack = second.pack ↔
    first = second ∨ Realigned first second ∨ Realigned second first := by
  constructor
  · intro same
    rw [pack_split, pack_split] at same
    obtain ⟨bytes, tails⟩ := List.cons.inj same
    have types := byte_injective bytes
    -- One sender is an initial part of the other; what it lacks the other took over.
    rcases List.append_eq_append_iff.mp tails with
      ⟨taken, senders, rests⟩ | ⟨taken, senders, rests⟩
    · rcases eq_or_realigned types senders rests with equal | realigned
      · exact .inl equal
      · exact .inr (.inl realigned)
    · rcases eq_or_realigned types.symm senders rests with equal | realigned
      · exact .inl equal.symm
      · exact .inr (.inr realigned)
  · rintro (rfl | realigned | realigned)
    · rfl
    · exact realigned.pack_eq
    · exact realigned.pack_eq.symm

/-- Under a hash that separates their bytes, the ids of two claims separate them exactly when
neither is the other realigned. -/
theorem ids_separate_iff {keccak256 : Bytes → Word}
    (injective : keccak256 first.pack = keccak256 second.pack → first.pack = second.pack) :
    (getProphecyID keccak256 first = getProphecyID keccak256 second → first = second) ↔
      ¬Realigned first second ∧ ¬Realigned second first := by
  have ids : getProphecyID keccak256 first = getProphecyID keccak256 second ↔
      first.pack = second.pack := ⟨injective, fun same => congrArg keccak256 same⟩
  rw [ids, pack_eq_iff]
  constructor
  · intro separate
    exact ⟨fun realigned => realigned.ne (separate (.inr (.inl realigned))),
      fun realigned => realigned.ne (separate (.inr (.inr realigned))).symm⟩
  · rintro ⟨forwards, backwards⟩ (same | realigned | realigned)
    · exact same
    · exact absurd realigned forwards
    · exact absurd realigned backwards

section Sample

open Akhira.Verif.Contracts

/-- A lock of a token on its way to an address whose last byte is a letter. -/
def tomClaim : ProphecyClaim where
  claimType := .lock
  cosmosSender := ascii "ak1qyqszqgpqyqszqgpqyqszqgpqyqszqgpz09ut2"
  cosmosSenderSequence := 1
  ethereumReceiver := 0x2222222222222222222222222222222222222261
  symbol := ascii "tom"
  amount := 1000000000000000000

/-- The same bytes with the sender one byte shorter. -/
def atomClaim : ProphecyClaim where
  claimType := .lock
  cosmosSender := ascii "ak1qyqszqgpqyqszqgpqyqszqgpqyqszqgpz09ut"
  cosmosSenderSequence := 0x3200000000000000000000000000000000000000000000000000000000000000
  ethereumReceiver := 0x0122222222222222222222222222222222222222
  symbol := ascii "atom"
  amount := 1000000000000000000

/-- The lock of another token to the same address. -/
def ethLockClaim : ProphecyClaim := { tomClaim with symbol := ascii "eth" }

/-- The lock of another sender. -/
def bobLockClaim : ProphecyClaim :=
  { tomClaim with cosmosSender := ascii "ak1qgpqyqszqgpqyqszqgpqyqszqgpqyqszntrequ" }

/-- The hashes the contracts take here. -/
def tomHash (bytes : Bytes) : Word :=
  if bytes = [] then
    0xc5d2460186f7233c927e7db2dcc703c0e500b653ca82273b7bfad8045d85a470
  else if bytes = tomClaim.pack then
    0xccb7470d90d9c6776ae9daf8534fb85e967a0b310eeecff6ed3441722a2aafcb
  else if bytes = ethLockClaim.pack then
    0x9bf4f1186008f7e75451e783393667d039430219b0e2693ea5b0a22c3888a6b1
  else if bytes = bobLockClaim.pack then
    0x21c3ac2be4638225d423d7c3e5586f68efa2d3c58f770790da9ace1b6d2371f8
  else 0

end Sample

/-- Claims of senders of one length keep their ids apart. -/
theorem locks_separate :
    getProphecyID tomHash tomClaim ≠ getProphecyID tomHash ethLockClaim ∧
      getProphecyID tomHash tomClaim ≠ getProphecyID tomHash bobLockClaim := by
  have evaluated : ∀ other ∈ [ethLockClaim, bobLockClaim],
      tomClaim.cosmosSender.length = other.cosmosSender.length ∧ tomClaim ≠ other ∧
        tomHash tomClaim.pack ≠ tomHash other.pack := by
    decide +kernel
  have apart : ∀ other ∈ [ethLockClaim, bobLockClaim],
      getProphecyID tomHash tomClaim ≠ getProphecyID tomHash other := by
    intro other listed same
    obtain ⟨lengths, different, hashes⟩ := evaluated other listed
    have separate := @ids_separate_iff tomClaim other tomHash fun equal => absurd equal hashes
    exact different (separate.mpr ⟨fun realigned => realigned.length_ne lengths,
      fun realigned => realigned.length_ne lengths.symm⟩ same)
  exact ⟨apart _ List.mem_cons_self, apart _ (List.mem_cons_of_mem _ List.mem_cons_self)⟩

/-- A validator can claim either of two different locks of one id. -/
theorem tom_is_atom :
    let claims := Contracts.twoValidators.newProphecyClaim tomHash Contracts.willingWorld 2
    (claims tomClaim).isOk = true ∧ (claims atomClaim).isOk = true ∧
      getProphecyID tomHash tomClaim = getProphecyID tomHash atomClaim ∧ tomClaim ≠ atomClaim := by
  decide +kernel

end Akhira.Verif.EthBridge
