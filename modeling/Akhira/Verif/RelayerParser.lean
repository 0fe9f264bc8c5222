import Akhira.Verif.Withdrawals

/-!
# What the relayer accepts as an event

The parser counts the attributes it knows and keeps the last value of each. It accepts an event
when every value is read and five attributes are counted, whichever keys they have. So it accepts
events that lack a key, exactly when another is repeated often enough.
-/
namespace Akhira.Verif.Relayer

open Akhira.Base Akhira.Sdk Akhira.Contracts Akhira.EthBridge Akhira.Relayer

/-- The keys of a lock or burn event. -/
def attributeKeys : List String :=
  ["cosmos_sender", "cosmos_sender_sequence", "ethereum_receiver", "symbol", "amount"]

/-- The value of the last attribute under a key. -/
def lastOf (attributes : List (Bytes × Bytes)) (key : String) : Option Bytes :=
  attributes.reverse.lookup (utf8 key)

/-- The symbol on Ethereum of a locked or burned denomination. -/
def relayedSymbol (relayer : Parser) (claimType : EventKind) (denom : Bytes) : Bytes :=
  if claimType = .msgLock then relayer.translator.ethereumSymbol denom else afterPrefix denom

/-- The sequence that an attribute has for its value. -/
def readSequence (relayer : Parser) (value : Bytes) : Option Int :=
  relayer.decimals.setString (goText value)

/-- The amount that an attribute has for its value. -/
def readAmount (relayer : Parser) (value : Bytes) : Option SInt :=
  relayer.decimals.newIntFromString (goText value)

/-- The value of an attribute is read. -/
def reads (relayer : Parser) (claimType : EventKind) (entry : Bytes × Bytes) : Bool :=
  if entry.1 = utf8 "cosmos_sender_sequence" then (readSequence relayer entry.2).isSome
  else if entry.1 = utf8 "ethereum_receiver" then isHexAddress (goText entry.2)
  else if entry.1 = utf8 "symbol" then claimType ≠ .msgBurn || decide (prefixByte ∈ entry.2)
  else if entry.1 = utf8 "amount" then (readAmount relayer entry.2).isSome
  else true

/-- How many attributes have one of the keys. -/
def counted (attributes : List (Bytes × Bytes)) : Nat :=
  attributes.countP fun entry => attributeKeys.any fun key => utf8 key = entry.1

/-- The message of an event: every key occurs, every value is read, and each field is that of the
last attribute under its key. -/
structure Complete (relayer : Parser) (claimType : EventKind)
    (attributes : List (Bytes × Bytes)) (msg : CosmosMsg) : Prop where
  occur : ∀ key ∈ attributeKeys, ∃ entry ∈ attributes, entry.1 = utf8 key
  read : ∀ entry ∈ attributes, reads relayer claimType entry = true
  kind : msg.claimType = claimType
  sender : lastOf attributes "cosmos_sender" = some msg.cosmosSender
  sequence : (lastOf attributes "cosmos_sender_sequence").bind (readSequence relayer) =
    some msg.cosmosSenderSequence
  receiver : (lastOf attributes "ethereum_receiver").map (fun value => hexToAddress (goText value)) =
    some msg.ethereumReceiver
  symbol : (lastOf attributes "symbol").map (relayedSymbol relayer claimType) = some msg.symbol
  amount : (lastOf attributes "amount").bind (readAmount relayer) = some msg.amount

section Loop

variable {relayer : Parser} {claimType : EventKind} {attributes : List (Bytes × Bytes)}

/-- The last value of a key is that of the last attribute with this key. -/
theorem lastOf_concat (attributes : List (Bytes × Bytes)) (entry : Bytes × Bytes)
    (key : String) : lastOf (attributes ++ [entry]) key =
      if utf8 key = entry.1 then some entry.2 else lastOf attributes key := by
  rw [lastOf, List.reverse_append, List.reverse_singleton, List.singleton_append,
    List.lookup_cons]
  by_cases same : utf8 key = entry.1
  · simp [same]
  · have differs : (utf8 key == entry.1) = false := beq_eq_false_iff_ne.mpr same
    simp [differs, same, lastOf]

/-- A key has a value when an attribute has the key. -/
theorem lastOf_isSome {key : String} :
    (lastOf attributes key).isSome ↔ ∃ entry ∈ attributes, entry.1 = utf8 key := by
  induction attributes using List.reverseRecOn with
  | nil => simp [lastOf]
  | append_singleton attributes entry ih =>
    rw [lastOf_concat]
    by_cases same : utf8 key = entry.1
    · simp [same]
    · simp [same, ih, Ne.symm same]

/-- The variables of the loop after some attributes. -/
def summary (relayer : Parser) (claimType : EventKind) (attributes : List (Bytes × Bytes)) :
    Parsed where
  cosmosSender := (lastOf attributes "cosmos_sender").getD []
  cosmosSenderSequence :=
    ((lastOf attributes "cosmos_sender_sequence").bind (readSequence relayer)).getD 0
  ethereumReceiver :=
    ((lastOf attributes "ethereum_receiver").map fun value => hexToAddress (goText value)).getD 0
  symbol := ((lastOf attributes "symbol").map (relayedSymbol relayer claimType)).getD []
  amount := ((lastOf attributes "amount").bind (readAmount relayer)).getD ⟨0, SInt.zero_bounded⟩
  attributeNumber := counted attributes

/-- Every attribute with a known key is counted. -/
theorem counted_concat (attributes : List (Bytes × Bytes)) (entry : Bytes × Bytes) :
    counted (attributes ++ [entry]) =
      counted attributes + if entry.1 ∈ attributeKeys.map utf8 then 1 else 0 := by
  simp [counted, List.countP_append, List.countP_singleton]

/-- One round goes on with the attribute, or refuses its value. -/
theorem parseAttribute_ok (supported : claimType ≠ .unsupported) {entry : Bytes × Bytes}
    {parsed : Parsed} :
    parseAttribute relayer claimType (summary relayer claimType attributes) entry = .ok parsed ↔
      reads relayer claimType entry = true ∧
        parsed = summary relayer claimType (attributes ++ [entry]) := by
  obtain ⟨key, val⟩ := entry
  by_cases sender : key = utf8 "cosmos_sender"
  · subst sender
    simp [parseAttribute, reads, summary, lastOf_concat, counted_concat, attributeKeys, eq_comm]
  by_cases sequence : key = utf8 "cosmos_sender_sequence"
  · subst sequence
    cases read : relayer.decimals.setString (goText val) <;>
      simp [parseAttribute, reads, readSequence, summary, lastOf_concat, counted_concat,
        attributeKeys, read, eq_comm]
  by_cases receiver : key = utf8 "ethereum_receiver"
  · subst receiver
    cases read : isHexAddress (goText val) <;>
      simp [parseAttribute, reads, summary, lastOf_concat, counted_concat, attributeKeys, read,
        eq_comm]
  by_cases symbol : key = utf8 "symbol"
  · subst symbol
    cases claimType with
    | unsupported => exact absurd rfl supported
    | msgLock =>
      simp [parseAttribute, reads, summary, lastOf_concat, counted_concat, attributeKeys,
        relayedSymbol, eq_comm]
    | msgBurn =>
      by_cases pegged : prefixByte ∈ val <;>
        simp [parseAttribute, reads, summary, lastOf_concat, counted_concat, attributeKeys,
          relayedSymbol, pegged, eq_comm]
  by_cases amount : key = utf8 "amount"
  · subst amount
    cases read : relayer.decimals.newIntFromString (goText val) <;>
      simp [parseAttribute, reads, readAmount, summary, lastOf_concat, counted_concat,
        attributeKeys, read, eq_comm]
  · simp [parseAttribute, reads, summary, lastOf_concat, counted_concat, attributeKeys, sender,
      sequence, receiver, symbol, amount, eq_comm]

/-- The loop refuses a value that is not read, and otherwise ends with the last values. -/
theorem foldlM_parseAttribute (supported : claimType ≠ .unsupported) {parsed : Parsed} :
    attributes.foldlM (parseAttribute relayer claimType) Parsed.start = .ok parsed ↔
      (∀ entry ∈ attributes, reads relayer claimType entry = true) ∧
        parsed = summary relayer claimType attributes := by
  induction attributes using List.reverseRecOn generalizing parsed with
  | nil =>
    rw [List.foldlM_nil, Result.pure_ok]
    exact ⟨fun same => ⟨fun _ listed => absurd listed List.not_mem_nil, same.symm⟩,
      fun ended => ended.2.symm⟩
  | append_singleton attributes entry ih =>
    rw [List.foldlM_append, Result.bind_ok]
    simp only [List.foldlM_cons, List.foldlM_nil, bind_pure]
    constructor
    · rintro ⟨before, loop, round⟩
      obtain ⟨read, rfl⟩ := ih.mp loop
      obtain ⟨last, rfl⟩ := (parseAttribute_ok supported).mp round
      refine ⟨fun other listed => ?_, rfl⟩
      rcases List.mem_append.mp listed with earlier | latest
      · exact read other earlier
      · rw [List.mem_singleton.mp latest]
        exact last
    · rintro ⟨read, rfl⟩
      refine ⟨_, ih.mpr ⟨fun other listed => read other (List.mem_append_left _ listed), rfl⟩, ?_⟩
      exact (parseAttribute_ok supported).mpr ⟨read entry (by simp), rfl⟩

/-- An event is accepted when its values are read and five attributes are counted. -/
theorem burnLockEvent_ok (supported : claimType ≠ .unsupported) {msg : CosmosMsg} :
    burnLockEventToCosmosMsg relayer claimType attributes = .ok msg ↔
      (∀ entry ∈ attributes, reads relayer claimType entry = true) ∧ 5 ≤ counted attributes ∧
        let parsed := summary relayer claimType attributes
        msg = ⟨claimType, parsed.cosmosSender, parsed.cosmosSenderSequence,
          parsed.ethereumReceiver, parsed.symbol, parsed.amount⟩ := by
  rw [burnLockEventToCosmosMsg, Result.bind_ok]
  simp only [foldlM_parseAttribute supported]
  constructor
  · rintro ⟨parsed, ⟨read, rfl⟩, ended⟩
    split_ifs at ended with short
    cases ended
    exact ⟨read, not_lt.mp short, rfl⟩
  · rintro ⟨read, enough, rfl⟩
    exact ⟨_, ⟨read, rfl⟩, if_neg (not_lt.mpr enough)⟩

/-- The last value of a key is one of its values. -/
theorem lastOf_mem {key : String} {val : Bytes} (found : lastOf attributes key = some val) :
    (utf8 key, val) ∈ attributes := by
  induction attributes using List.reverseRecOn with
  | nil => cases found
  | append_singleton attributes entry ih =>
    rw [lastOf_concat] at found
    split_ifs at found with same
    · cases found
      rw [same]
      exact List.mem_append_right _ (List.mem_singleton.mpr rfl)
    · exact List.mem_append_left _ (ih found)

/-- An accepted event gives its message exactly when no key is missing. -/
theorem complete_iff (supported : claimType ≠ .unsupported) {msg : CosmosMsg}
    (accepted : burnLockEventToCosmosMsg relayer claimType attributes = .ok msg) :
    Complete relayer claimType attributes msg ↔
      ∀ key ∈ attributeKeys, ∃ entry ∈ attributes, entry.1 = utf8 key := by
  refine ⟨Complete.occur, fun occur => ?_⟩
  obtain ⟨read, -, rfl⟩ := (burnLockEvent_ok supported).mp accepted
  have last : ∀ key ∈ attributeKeys, ∃ val, lastOf attributes key = some val ∧
      reads relayer claimType (utf8 key, val) = true := by
    intro key listed
    obtain ⟨val, found⟩ := Option.isSome_iff_exists.mp (lastOf_isSome.mpr (occur key listed))
    exact ⟨val, found, read _ (lastOf_mem found)⟩
  obtain ⟨sender, senderLast, -⟩ := last "cosmos_sender" (by decide)
  obtain ⟨sequence, sequenceLast, sequenceRead⟩ := last "cosmos_sender_sequence" (by decide)
  obtain ⟨receiver, receiverLast, -⟩ := last "ethereum_receiver" (by decide)
  obtain ⟨symbol, symbolLast, -⟩ := last "symbol" (by decide)
  obtain ⟨amount, amountLast, amountRead⟩ := last "amount" (by decide)
  have numberRead : (readSequence relayer sequence).isSome := by simpa [reads] using sequenceRead
  obtain ⟨number, numbered⟩ := Option.isSome_iff_exists.mp numberRead
  have coinsRead : (readAmount relayer amount).isSome := by simpa [reads] using amountRead
  obtain ⟨coins, counted⟩ := Option.isSome_iff_exists.mp coinsRead
  exact {
    occur := occur
    read := read
    kind := rfl
    sender := by simp [summary, senderLast]
    sequence := by simp [summary, sequenceLast, numbered]
    receiver := by simp [summary, receiverLast]
    symbol := by simp [summary, symbolLast]
    amount := by simp [summary, amountLast, counted] }

/-- Accepted events are complete exactly when every key occurs, or fewer than five attributes
count, or a value is not read. -/
theorem accepts_complete_iff (relayer : Parser) (claimType : EventKind)
    (supported : claimType ≠ .unsupported) (attributes : List (Bytes × Bytes)) :
    (∀ msg, burnLockEventToCosmosMsg relayer claimType attributes = .ok msg →
      Complete relayer claimType attributes msg) ↔
    ((∀ key ∈ attributeKeys, ∃ entry ∈ attributes, entry.1 = utf8 key) ∨ counted attributes < 5 ∨
      ∃ entry ∈ attributes, reads relayer claimType entry = false) := by
  constructor
  · intro complete
    by_cases enough : 5 ≤ counted attributes
    · by_cases read : ∀ entry ∈ attributes, reads relayer claimType entry = true
      · have accepted := (burnLockEvent_ok supported).mpr ⟨read, enough, rfl⟩
        exact .inl (complete _ accepted).occur
      · simp only [not_forall, Bool.not_eq_true, exists_prop] at read
        exact .inr (.inr read)
    · exact .inr (.inl (not_le.mp enough))
  · intro condition msg accepted
    obtain ⟨read, enough, -⟩ := (burnLockEvent_ok supported).mp accepted
    rcases condition with occur | short | ⟨entry, listed, unread⟩
    · exact (complete_iff supported accepted).mpr occur
    · exact absurd short (not_lt.mpr enough)
    · rw [read entry listed] at unread
      cases unread

end Loop

section Sample

/-- The attributes of a lock, as the chain emits them. -/
def lockAttributes : List (Bytes × Bytes) :=
  [("module", "ethbridge"), ("cosmos_sender", "alice"), ("cosmos_sender_sequence", "7"),
    ("ethereum_receiver", "0x52908400098527886E0F7030069857D2E4169EE7"), ("amount", "5"),
    ("symbol", "rowan")].map fun pair => (utf8 pair.1, utf8 pair.2)

/-- A complete lock is accepted, and the message says what its attributes do. -/
theorem lock_is_complete :
    ∃ msg, burnLockEventToCosmosMsg EthBridge.plainRelayer .msgLock lockAttributes = .ok msg ∧
      Complete EthBridge.plainRelayer .msgLock lockAttributes msg := by
  have accepted := (@burnLockEvent_ok EthBridge.plainRelayer .msgLock lockAttributes (by decide)
    _).mpr ⟨by decide +kernel, by decide +kernel, rfl⟩
  exact ⟨_, accepted, (accepts_complete_iff EthBridge.plainRelayer .msgLock (by decide)
    lockAttributes).mpr (.inl (by decide +kernel)) _ accepted⟩

/-- One key five times is accepted as a message without a receiver, a symbol and an amount. -/
theorem senders_are_accepted :
    (burnLockEventToCosmosMsg EthBridge.plainRelayer .msgLock
        (List.replicate 5 (utf8 "cosmos_sender", utf8 "alice"))).isOk = true ∧
      ¬ ∃ entry ∈ List.replicate 5 (utf8 "cosmos_sender", utf8 "alice"),
        entry.1 = utf8 "amount" := by
  decide +kernel

end Sample

end Akhira.Verif.Relayer
