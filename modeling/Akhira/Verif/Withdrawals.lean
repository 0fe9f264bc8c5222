import Akhira.Base.Text
import Akhira.EthBridge.Transactions
import Akhira.Relayer.Parser
import Akhira.Verif.BridgeMint

/-!
# The ids of withdrawals

A lock or burn on the chain becomes the id of a prophecy on Ethereum through its event. Two
withdrawals with one id agree in the sender's text and sequence; the sequence grows with every
transaction, so they are in one transaction, and there nothing but their own fields tells them
apart.
-/
namespace Akhira.Verif.EthBridge

open Akhira.Base Akhira.Sdk Akhira.Contracts Akhira.EthBridge Akhira.Relayer

section Packing

/-- A small number begins with a zero byte. -/
theorem bigEndian_small {width value : Nat} (small : value < 256 ^ width) :
    bigEndian (width + 1) value = 0 :: bigEndian width value := by
  induction width generalizing value with
  | zero =>
    have zero : value = 0 := by omega
    rw [zero]
    rfl
  | succ width ih =>
    have shifted : value / 256 < 256 ^ width := by
      rw [Nat.div_lt_iff_lt_mul (by decide), ← Nat.pow_succ]
      exact small
    rw [bigEndian, ih shifted]
    rfl

/-- A word is told by its bytes. -/
theorem packWord_injective {left right : Word} (same : packWord left = packWord right) :
    left = right := by
  have numbers := bigEndian_injective (by exact left.isLt) (by exact right.isLt) same
  exact BitVec.eq_of_toNat_eq numbers

/-- An address is told by its bytes. -/
theorem packAddress_injective {left right : Address} (same : packAddress left = packAddress right) :
    left = right := by
  have numbers := bigEndian_injective (by exact left.isLt) (by exact right.isLt) same
  exact BitVec.eq_of_toNat_eq numbers

/-- A claim type is told by its byte. -/
theorem byte_injective {left right : Contracts.ClaimType} (same : left.byte = right.byte) :
    left = right := by
  cases left <;> cases right <;> first | rfl | cases same

/-- A claim whose packed form can be taken apart: the sender's text has no zero byte, and the
sequence leaves the first byte of its word zero. -/
structure Separable (claim : ProphecyClaim) : Prop where
  clean : 0 ∉ claim.cosmosSender
  small : claim.cosmosSenderSequence.toNat < 256 ^ 31

/-- The first zero byte of a packed claim ends the sender's text. -/
theorem pack_eq {claim : ProphecyClaim} (separable : Separable claim) :
    claim.pack = claim.claimType.byte :: (claim.cosmosSender ++ 0 ::
      (bigEndian 31 claim.cosmosSenderSequence.toNat ++
        (packAddress claim.ethereumReceiver ++ (claim.symbol ++ packWord claim.amount)))) := by
  have word : packWord claim.cosmosSenderSequence =
      0 :: bigEndian 31 claim.cosmosSenderSequence.toNat := bigEndian_small separable.small
  rw [ProphecyClaim.pack, word]
  simp only [List.append_assoc, List.cons_append, List.nil_append]

/-- Claims whose parts can be separated are told by their bytes. -/
theorem pack_injective {left right : ProphecyClaim} (leftSeparable : Separable left)
    (rightSeparable : Separable right) (same : left.pack = right.pack) : left = right := by
  rw [pack_eq leftSeparable, pack_eq rightSeparable] at same
  obtain ⟨types, tails⟩ := List.cons.inj same
  obtain ⟨senders, rests⟩ := separated_injective leftSeparable.clean rightSeparable.clean tails
  obtain ⟨sequences, rests⟩ := List.append_inj rests (by simp)
  obtain ⟨receivers, rests⟩ := List.append_inj rests (by simp [packAddress])
  obtain ⟨symbols, amounts⟩ := List.append_inj' rests (by simp [packWord])
  have sequence : left.cosmosSenderSequence = right.cosmosSenderSequence :=
    BitVec.eq_of_toNat_eq
      (bigEndian_injective leftSeparable.small rightSeparable.small sequences)
  have type := byte_injective types
  have receiver := packAddress_injective receivers
  have amount := packWord_injective amounts
  cases left
  cases right
  simp_all

end Packing

section Relay

variable {relayer : Parser}

/-- The withdrawal a message asks for. -/
def withdrawalOf : Msg → Option (EventKind × MsgLock)
  | .lock msg => some (.msgLock, msg)
  | .burn msg => some (.msgBurn, msg.toMsgLock)
  | _ => none

/-- The symbol of a withdrawn token on Ethereum. -/
def ethereumSymbol (relayer : Parser) : EventKind → String → Bytes
  | .msgLock, symbol => utf8 (relayer.translator.sifchainToEthereum symbol)
  | .msgBurn, symbol => afterPrefix (utf8 symbol)
  | .unsupported, _ => []

/-- What Ethereum sees of a withdrawal but its sequence. -/
def markOf (relayer : Parser) (withdrawal : EventKind × MsgLock) :
    EventKind × String × Address × Bytes × SInt :=
  (withdrawal.1, withdrawal.2.cosmosSender, hexToAddress withdrawal.2.ethereumReceiver,
    ethereumSymbol relayer withdrawal.1 withdrawal.2.symbol, withdrawal.2.amount)

/-- The message the relayer makes of a withdrawal. -/
def relayed (relayer : Parser) (withdrawal : EventKind × MsgLock) (sequence : Nat) : CosmosMsg where
  claimType := withdrawal.1
  cosmosSender := utf8 withdrawal.2.cosmosSender
  cosmosSenderSequence := sequence
  ethereumReceiver := hexToAddress withdrawal.2.ethereumReceiver
  symbol := ethereumSymbol relayer withdrawal.1 withdrawal.2.symbol
  amount := withdrawal.2.amount

/-- The event type of a withdrawal. -/
def eventType : EventKind → String
  | .msgLock => "lock"
  | .msgBurn => "burn"
  | .unsupported => ""

/-- A natural number is written as an integer. -/
theorem intText_natCast (value : Nat) : intText value = natText value := by
  simp [intText]

/-- The relayer does not act on the event of a message. -/
theorem relayEvent_message (sender : String) : relayEvent relayer (messageEvent sender) = none := rfl

/-- The prefix letter of a text is a byte of it. -/
theorem prefixByte_mem {text : String} (pegged : 'c' ∈ text.toList) : prefixByte ∈ utf8 text := by
  rw [utf8_eq]
  exact List.mem_flatMap.mpr ⟨'c', pegged, by decide +kernel⟩

/-- The relayer reads back every field of the event of a checked withdrawal. -/
theorem relayEvent_withdrawal {kind : EventKind} {msg : MsgLock} (sequence : Nat)
    (supported : kind ≠ .unsupported) (receiver : isHexAddress msg.ethereumReceiver = true)
    (pegged : kind = .msgBurn → 'c' ∈ msg.symbol.toList) :
    relayEvent relayer (withdrawalEvent (eventType kind) msg sequence) =
      some (relayed relayer (kind, msg) sequence) := by
  have sequenceRead : relayer.decimals.setString (natText sequence) = some (sequence : Int) := by
    rw [← intText_natCast]
    exact relayer.decimals.setString_text sequence
  have amountRead := relayer.decimals.newIntFromString_text msg.amount
  cases kind with
  | unsupported => exact absurd rfl supported
  | msgLock =>
    simp [relayEvent, withdrawalEvent, eventType, getOracleClaimType, burnLockEventToCosmosMsg,
      attributeBytes, parseAttribute, Parsed.start, sequenceRead, amountRead, receiver, relayed,
      ethereumSymbol, bind, Except.bind, pure, Except.pure, Except.toOption]
  | msgBurn =>
    simp [relayEvent, withdrawalEvent, eventType, getOracleClaimType, burnLockEventToCosmosMsg,
      attributeBytes, parseAttribute, Parsed.start, sequenceRead, amountRead, receiver, relayed,
      ethereumSymbol, prefixByte_mem (pegged rfl), bind, Except.bind, pure, Except.pure,
      Except.toOption]

end Relay

section Execution

variable {env : Environment} {context : Context} {state next : State}

/-- No message of the bridge touches a sequence. -/
theorem Effect.accounts {msg : Msg} (effect : Effect env context state next msg) :
    next.accounts = state.accounts := by
  cases effect with
  | claim claim oracleClaim status claimed =>
    by_cases success : status.text = .success
    · obtain ⟨content, denom, minted⟩ := claimed.paid success
      rw [minted.rest]
    · rw [claimed.unpaid success]
  | lock msg sender unpegged withdrawn => rw [withdrawn.rest]
  | burn msg sender pegged withdrawn => rw [withdrawn.rest]
  | whiteList msg prophecies rest => rw [rest]
  | cethReceiver msg rest => rw [rest]
  | rescue msg receiver unblocked supply balance rest => rw [rest]
  | blacklist msg rest => rw [rest]

/-- The receipt of a withdrawal carries its event. -/
structure Recorded (env : Environment) (receipt : Receipt) (withdrawal : EventKind × MsgLock)
    (sender : AccAddress) (sequence : Nat) : Prop where
  supported : withdrawal.1 ≠ .unsupported
  receiver : isHexAddress withdrawal.2.ethereumReceiver = true
  positive : 0 < withdrawal.2.amount.val
  pegged : withdrawal.1 = .msgBurn → 'c' ∈ withdrawal.2.symbol.toList
  signed : env.chain.accAddressFromBech32 withdrawal.2.cosmosSender = some sender
  events : receipt.events = [messageEvent withdrawal.2.cosmosSender,
    withdrawalEvent (eventType withdrawal.1) withdrawal.2 sequence]

/-- A lock that passes has a receiver and a positive amount. -/
theorem lock_valid {msg : MsgLock} (valid : msg.validateBasic = .ok ()) :
    isHexAddress msg.ethereumReceiver = true ∧ 0 < msg.amount.val := by
  simp only [MsgLock.validateBasic, Result.bind_ok, Outcome.require_ok] at valid
  obtain ⟨-, -, -, -, -, -, -, receiver, -, positive, -⟩ := valid
  exact ⟨receiver, positive⟩

/-- A burn that passes has a receiver, a positive amount and the letter in its symbol. -/
theorem burn_valid {msg : MsgBurn} (valid : msg.validateBasic = .ok ()) :
    isHexAddress msg.ethereumReceiver = true ∧ 0 < msg.amount.val ∧ 'c' ∈ msg.symbol.toList := by
  simp only [MsgBurn.validateBasic, Result.bind_ok, Outcome.require_ok] at valid
  obtain ⟨-, -, -, -, -, -, -, receiver, -, positive, -, -, -, starts, -⟩ := valid
  have leading : ['c'] <+: msg.symbol.toList := List.isPrefixOf_iff_prefix.mp starts
  exact ⟨receiver, positive, leading.subset (List.mem_singleton_self _)⟩

/-- A handled withdrawal is recorded. -/
theorem handle_recorded {msg : Msg} {events : List Event} {withdrawal : EventKind × MsgLock}
    (valid : msg.validateBasic = .ok ()) (is_withdrawal : withdrawalOf msg = some withdrawal)
    (handled : handle env context state msg = .ok (next, events)) :
    ∃ sender sequence, Recorded env ⟨msg, events⟩ withdrawal sender sequence ∧
      state.accounts sender = some sequence := by
  cases msg with
  | lock msg =>
    cases is_withdrawal
    obtain ⟨-, sender, sequence, emitted, -⟩ := lock_ok handled
    have checked := lock_valid valid
    exact ⟨sender, sequence, ⟨nofun, checked.1, checked.2, nofun, emitted.signed,
      emitted.events_eq⟩, emitted.account⟩
  | burn msg =>
    cases is_withdrawal
    obtain ⟨-, sender, sequence, emitted, -⟩ := burn_ok (burn_fee valid) handled
    have checked := burn_valid valid
    exact ⟨sender, sequence, ⟨nofun, checked.1, checked.2.1, fun _ => checked.2.2, emitted.signed,
      emitted.events_eq⟩, emitted.account⟩
  | createEthBridgeClaim claim => cases is_withdrawal
  | updateWhiteListValidator msg => cases is_withdrawal
  | updateCethReceiverAccount msg => cases is_withdrawal
  | rescueCeth msg => cases is_withdrawal
  | setBlacklist msg => cases is_withdrawal

/-- The messages of the bridge in a list. -/
def bridgeMsgs (msgs : List ChainMsg) : List Msg :=
  msgs.filterMap fun msg => match msg with
    | .bridge msg => some msg
    | .foreign _ => none

/-- What a list of messages executes: all of them, with the sequences left as they are. -/
structure Executed (env : Environment) (state next : State) (msgs : List ChainMsg)
    (receipts : List Receipt) : Prop where
  keeps : ∀ address sequence, state.accounts address = some sequence →
    next.accounts address = some sequence
  msgs_eq : receipts.map Receipt.msg = bridgeMsgs msgs
  recorded : ∀ receipt ∈ receipts, ∀ withdrawal, withdrawalOf receipt.msg = some withdrawal →
    ∃ sender sequence, Recorded env receipt withdrawal sender sequence ∧
      ∀ held, state.accounts sender = some held → sequence = held

/-- Messages that run are executed one after the other. -/
theorem runMsgs_executed {msgs : List ChainMsg} {result : State × List Receipt}
    (valid : ∀ msg ∈ msgs, msg.validateBasic = .ok ())
    (executed : runMsgs env context state msgs = .ok result) :
    Executed env state result.1 msgs result.2 := by
  induction msgs generalizing state result with
  | nil =>
    cases executed
    exact ⟨fun _ _ same => same, rfl, fun receipt absent => by cases absent⟩
  | cons msg rest ih =>
    have laterValid : ∀ msg ∈ rest, msg.validateBasic = .ok () :=
      fun msg member => valid msg (List.mem_cons_of_mem _ member)
    have own := valid msg List.mem_cons_self
    cases msg with
    | bridge msg =>
      simp only [runMsgs, Result.bind_ok, Result.pure_ok] at executed
      obtain ⟨handled, step, later, run, rfl⟩ := executed
      have after := ih laterValid run
      have same := (handle_effect own step).accounts
      refine ⟨fun address sequence held => after.keeps address sequence (by rw [same]; exact held),
        ?_, ?_⟩
      · rw [List.map_cons, after.msgs_eq]
        rfl
      · intro receipt member withdrawal is_withdrawal
        rcases List.mem_cons.mp member with rfl | listed
        · obtain ⟨sender, sequence, recorded, account⟩ := handle_recorded own is_withdrawal step
          refine ⟨sender, sequence, recorded, fun held found => ?_⟩
          rw [account, Option.some.injEq] at found
          exact found
        · obtain ⟨sender, sequence, recorded, current⟩ :=
            after.recorded receipt listed withdrawal is_withdrawal
          exact ⟨sender, sequence, recorded, fun held found => current held (by rw [same]; exact found)⟩
    | foreign msg =>
      simp only [runMsgs, Result.bind_ok] at executed
      obtain ⟨middle, step, run⟩ := executed
      have after := ih laterValid run
      have kept := msg.keeps state middle step
      refine ⟨fun address sequence held => after.keeps _ _ (kept _ _ held), after.msgs_eq, ?_⟩
      intro receipt member withdrawal is_withdrawal
      obtain ⟨sender, sequence, recorded, current⟩ :=
        after.recorded receipt member withdrawal is_withdrawal
      exact ⟨sender, sequence, recorded, fun held found => current held (kept _ _ found)⟩

/-- The checks before the messages: all are valid, their signers have accounts, and the sequences
of the signers are one higher. -/
structure Checked (env : Environment) (state next : State) (msgs : List ChainMsg) : Prop where
  valid : ∀ msg ∈ msgs, msg.validateBasic = .ok ()
  raised : ∀ address sequence, state.accounts address = some sequence →
    next.accounts address = some sequence ∨
      next.accounts address = some ((sequence + 1) % 2 ^ 64)
  signed : ∀ msg ∈ bridgeMsgs msgs, ∀ signer, msg.signer env = some signer →
    ∃ sequence, state.accounts signer = some sequence ∧
      next.accounts signer = some ((sequence + 1) % 2 ^ 64)

/-- What passes the ante handler has its sequences raised. -/
theorem ante_checked {msgs : List ChainMsg} (passed : ante env state msgs = .ok next) :
    Checked env state next msgs := by
  simp only [ante, Result.bind_ok, Result.pure_ok, Outcome.require_ok] at passed
  obtain ⟨-, -, done, valid, signers, read, -, existing, rfl⟩ := passed
  refine ⟨Result.forM_ok valid, fun address sequence held => ?_, fun msg member signer signed => ?_⟩
  · change increment _ _ _ = _ ∨ increment _ _ _ = _
    simp only [increment, held, Option.map_some]
    split
    · exact .inr rfl
    · exact .inl rfl
  · obtain ⟨chainMsg, listed, is_bridge⟩ := List.mem_filterMap.mp member
    obtain ⟨own, ownListed, readOwn⟩ := Result.mapM_ok read chainMsg listed
    cases chainMsg with
    | foreign msg => cases is_bridge
    | bridge other =>
      cases is_bridge
      simp only [ChainMsg.signers, Result.bind_ok, Result.pure_ok, Outcome.present_ok] at readOwn
      obtain ⟨decoded, same, rfl⟩ := readOwn
      rw [signed, Option.some.injEq] at same
      subst same
      have among : signer ∈ signers.flatten :=
        List.mem_flatten.mpr ⟨_, ownListed, List.mem_singleton_self _⟩
      obtain ⟨sequence, held⟩ := Option.isSome_iff_exists.mp (existing signer among)
      refine ⟨sequence, held, ?_⟩
      change increment _ _ _ = _
      simp only [increment, held, Option.map_some, if_pos among]

end Execution

section Runs

variable {env : Environment} {relayer : Parser} {state : State} {tx : Tx} {receipt : Receipt}

/-- The withdrawals a transaction executes. -/
def withdrawalsOf (env : Environment) (state : State) (tx : Tx) : List Receipt :=
  (deliverTx env state tx).2.filter fun receipt => (withdrawalOf receipt.msg).isSome

/-- The claims the relayer makes of the events of a message. -/
def claimsOf (relayer : Parser) (receipt : Receipt) : List ProphecyClaim :=
  (receipt.events.filterMap (relayEvent relayer)).map CosmosMsg.prophecyClaim

/-- The withdrawals in a transaction differ in more than the sequence, and no sequence is at its
end. -/
structure Distinguishable (relayer : Parser) (state : State) (tx : Tx) : Prop where
  marks : (((bridgeMsgs tx.msgs).filterMap withdrawalOf).map (markOf relayer)).Nodup
  room : ∀ address sequence, state.accounts address = some sequence → sequence + 1 < 2 ^ 64

/-- A recorded withdrawal is claimed once, as it is relayed. -/
theorem Recorded.claims {withdrawal : EventKind × MsgLock} {sender : AccAddress} {sequence : Nat}
    (recorded : Recorded env receipt withdrawal sender sequence) :
    claimsOf relayer receipt = [(relayed relayer withdrawal sequence).prophecyClaim] := by
  have read := @relayEvent_withdrawal relayer _ _ sequence recorded.supported recorded.receiver
    recorded.pegged
  simp only [claimsOf, recorded.events, List.filterMap_cons, List.filterMap_nil,
    relayEvent_message, read, List.map_cons, List.map_nil]

/-- A sequence only grows. -/
theorem deliverTx_grows (room : ∀ address sequence, state.accounts address = some sequence →
      sequence + 1 < 2 ^ 64) {address : AccAddress} {sequence : Nat}
    (held : state.accounts address = some sequence) :
    ∃ reached, sequence ≤ reached ∧ (deliverTx env state tx).1.accounts address = some reached := by
  have small := room address sequence held
  cases checking : ante env state tx.msgs with
  | error fault =>
    simp only [deliverTx, checking]
    exact ⟨sequence, le_refl _, held⟩
  | ok checked =>
    have checks := ante_checked checking
    obtain ⟨reached, least, found⟩ : ∃ reached, sequence ≤ reached ∧
        checked.accounts address = some reached := by
      rcases checks.raised address sequence held with same | raised
      · exact ⟨sequence, le_refl _, same⟩
      · rw [Nat.mod_eq_of_lt small] at raised
        exact ⟨sequence + 1, Nat.le_succ _, raised⟩
    refine ⟨reached, least, ?_⟩
    cases running : runMsgs env tx.context checked tx.msgs with
    | error fault =>
      simp only [deliverTx, checking, running]
      exact found
    | ok result =>
      simp only [deliverTx, checking, running]
      exact (runMsgs_executed checks.valid running).keeps _ _ found

/-- The messages of a transaction that executes anything are all executed. -/
theorem deliverTx_executed (member : receipt ∈ (deliverTx env state tx).2) :
    ∃ checked, Checked env state checked tx.msgs ∧
      Executed env checked (deliverTx env state tx).1 tx.msgs (deliverTx env state tx).2 := by
  cases checking : ante env state tx.msgs with
  | error fault =>
    simp only [deliverTx, checking] at member
    cases member
  | ok checked =>
    have checks := ante_checked checking
    cases running : runMsgs env tx.context checked tx.msgs with
    | error fault =>
      simp only [deliverTx, checking, running] at member
      cases member
    | ok result =>
      simp only [deliverTx, checking, running]
      exact ⟨checked, checks, runMsgs_executed checks.valid running⟩

/-- A withdrawal is signed by its sender. -/
theorem withdrawal_signer {msg : Msg} {withdrawal : EventKind × MsgLock}
    (is_withdrawal : withdrawalOf msg = some withdrawal) :
    msg.signer env = env.chain.accAddressFromBech32 withdrawal.2.cosmosSender := by
  cases msg <;> cases is_withdrawal <;> rfl

/-- An executed withdrawal shows the sequence after its transaction. -/
theorem withdrawal_sequence (room : ∀ address sequence, state.accounts address = some sequence →
      sequence + 1 < 2 ^ 64) (member : receipt ∈ withdrawalsOf env state tx) :
    ∃ withdrawal sender sequence, withdrawalOf receipt.msg = some withdrawal ∧
      Recorded env receipt withdrawal sender (sequence + 1) ∧
      state.accounts sender = some sequence ∧
      (deliverTx env state tx).1.accounts sender = some (sequence + 1) := by
  obtain ⟨listed, is_some⟩ := List.mem_filter.mp member
  obtain ⟨withdrawal, is_withdrawal⟩ := Option.isSome_iff_exists.mp is_some
  obtain ⟨checked, checks, executed⟩ := deliverTx_executed listed
  obtain ⟨sender, shown, recorded, current⟩ :=
    executed.recorded receipt listed withdrawal is_withdrawal
  have among : receipt.msg ∈ bridgeMsgs tx.msgs := by
    rw [← executed.msgs_eq]
    exact List.mem_map_of_mem listed
  have signer : receipt.msg.signer env = some sender := by
    rw [withdrawal_signer is_withdrawal]
    exact recorded.signed
  obtain ⟨sequence, before, after⟩ := checks.signed receipt.msg among sender signer
  rw [Nat.mod_eq_of_lt (room sender sequence before)] at after
  have same : shown = sequence + 1 := current _ after
  rw [same] at recorded
  exact ⟨withdrawal, sender, sequence, is_withdrawal, recorded, before,
    executed.keeps _ _ after⟩

/-- A word tells apart the numbers that fit in it. -/
theorem ofInt_injective {left right : Int} (leftBound : 0 ≤ left ∧ left < 2 ^ 256)
    (rightBound : 0 ≤ right ∧ right < 2 ^ 256)
    (same : BitVec.ofInt 256 left = BitVec.ofInt 256 right) : left = right := by
  have numbers := congrArg BitVec.toNat same
  rw [BitVec.toNat_ofInt, BitVec.toNat_ofInt, Int.emod_eq_of_lt leftBound.1 (by omega),
    Int.emod_eq_of_lt rightBound.1 (by omega)] at numbers
  omega

/-- A relayed claim shows the withdrawal's mark and sequence. -/
theorem relayed_injective {left right : EventKind × MsgLock} {leftSequence rightSequence : Nat}
    (leftSmall : leftSequence < 2 ^ 64) (rightSmall : rightSequence < 2 ^ 64)
    (leftPositive : 0 < left.2.amount.val) (rightPositive : 0 < right.2.amount.val)
    (same : (relayed relayer left leftSequence).prophecyClaim =
      (relayed relayer right rightSequence).prophecyClaim) :
    markOf relayer left = markOf relayer right ∧ leftSequence = rightSequence := by
  simp only [relayed, CosmosMsg.prophecyClaim, ProphecyClaim.mk.injEq] at same
  obtain ⟨kinds, senders, sequences, receivers, symbols, amounts⟩ := same
  have kind : left.1 = right.1 := by
    cases first : left.1 <;> cases second : right.1 <;> simp_all [EventKind.claimType]
  have sequence := ofInt_injective (by omega) (by omega) sequences
  have amount : left.2.amount = right.2.amount := by
    have leftBounded := left.2.amount.bounded
    have rightBounded := right.2.amount.bounded
    have values := ofInt_injective (by omega) (by omega) amounts
    cases first : left.2.amount
    cases second : right.2.amount
    simp_all
  refine ⟨?_, by omega⟩
  rw [markOf, markOf, symbols, utf8_injective senders, receivers, amount, kind]

/-- A claim from a sender without null bytes can be separated. -/
theorem relayed_separable {withdrawal : EventKind × MsgLock} {sequence : Nat}
    (clean : 0 ∉ utf8 withdrawal.2.cosmosSender) (small : sequence < 2 ^ 64) :
    Separable (relayed relayer withdrawal sequence).prophecyClaim := by
  refine ⟨clean, ?_⟩
  change (BitVec.ofInt 256 (sequence : Int)).toNat < _
  rw [BitVec.ofInt_natCast, BitVec.toNat_ofNat]
  have whole := Nat.mod_le sequence (2 ^ 256)
  omega

/-- What an executed withdrawal leaves in the state: its sender's sequence has reached the one it
shows. -/
def Shown (env : Environment) (receipt : Receipt) (state : State) : Prop :=
  ∃ withdrawal sender sequence reached, Recorded env receipt withdrawal sender sequence ∧
    state.accounts sender = some reached ∧ sequence ≤ reached

/-- The relayer makes different claims of the two. -/
def Apart (relayer : Parser) (earlier later : Receipt) : Prop :=
  ∀ first ∈ claimsOf relayer earlier, ∀ second ∈ claimsOf relayer later, first.pack ≠ second.pack

/-- A withdrawal is shown in the sequence of its sender after its transaction. -/
theorem shown_after (admitted : Distinguishable relayer state tx)
    (member : receipt ∈ withdrawalsOf env state tx) :
    Shown env receipt (attempt (stepTx env) state tx) := by
  obtain ⟨withdrawal, sender, sequence, -, recorded, -, after⟩ :=
    withdrawal_sequence admitted.room member
  exact ⟨withdrawal, sender, _, _, recorded, after, le_refl _⟩

/-- What is shown stays so after every later transaction. -/
theorem shown_lasts (shown : Shown env receipt state) (admitted : Distinguishable relayer state tx) :
    Shown env receipt (attempt (stepTx env) state tx) := by
  obtain ⟨withdrawal, sender, sequence, reached, recorded, account, least⟩ := shown
  obtain ⟨later, grown, found⟩ := @deliverTx_grows env state tx admitted.room sender reached account
  exact ⟨withdrawal, sender, sequence, later, recorded, found, by omega⟩

/-- A withdrawal of a later transaction shows a higher sequence. -/
theorem apart_later {later : Receipt} (clean : ∀ text address,
      env.chain.accAddressFromBech32 text = some address → 0 ∉ utf8 text)
    (shown : Shown env receipt state) (admitted : Distinguishable relayer state tx)
    (member : later ∈ withdrawalsOf env state tx) : Apart relayer receipt later := by
  obtain ⟨earlyWithdrawal, earlySender, early, reached, earlyRecorded, account, least⟩ := shown
  obtain ⟨withdrawal, sender, sequence, -, recorded, before, -⟩ :=
    withdrawal_sequence admitted.room member
  have small := admitted.room sender sequence before
  have earlySmall := admitted.room earlySender reached account
  intro first firstListed second secondListed same
  rw [earlyRecorded.claims, List.mem_singleton] at firstListed
  rw [recorded.claims, List.mem_singleton] at secondListed
  subst firstListed secondListed
  have claims := pack_injective
    (relayed_separable (clean _ _ earlyRecorded.signed) (by omega))
    (relayed_separable (clean _ _ recorded.signed) small) same
  obtain ⟨marks, sequences⟩ := relayed_injective (by omega) small earlyRecorded.positive
    recorded.positive claims
  -- One text is one account, whose sequence has grown past the earlier one.
  have texts : earlyWithdrawal.2.cosmosSender = withdrawal.2.cosmosSender := by
    simp only [markOf, Prod.mk.injEq] at marks
    exact marks.2.1
  have senders : some earlySender = some sender := by
    rw [← earlyRecorded.signed, ← recorded.signed, texts]
  rw [Option.some.inj senders, before, Option.some.injEq] at account
  omega

/-- Withdrawals of one transaction are told apart by their marks. -/
theorem apart_within (clean : ∀ text address,
      env.chain.accAddressFromBech32 text = some address → 0 ∉ utf8 text)
    (admitted : Distinguishable relayer state tx) :
    (withdrawalsOf env state tx).Pairwise (Apart relayer) := by
  by_cases empty : (deliverTx env state tx).2 = []
  · rw [withdrawalsOf, empty]
    exact List.Pairwise.nil
  obtain ⟨receipt, among⟩ := List.exists_mem_of_ne_nil _ empty
  obtain ⟨checked, -, executed⟩ := deliverTx_executed among
  have marks := admitted.marks
  rw [← executed.msgs_eq, List.Nodup, List.pairwise_map, List.pairwise_filterMap,
    List.pairwise_map] at marks
  refine List.Pairwise.imp_of_mem ?_ (List.Pairwise.filter _ marks)
  intro left right leftMember rightMember differ first firstListed second secondListed same
  obtain ⟨leftWithdrawal, leftSender, leftSequence, leftIs, leftRecorded, leftBefore, -⟩ :=
    withdrawal_sequence admitted.room leftMember
  obtain ⟨rightWithdrawal, rightSender, rightSequence, rightIs, rightRecorded, rightBefore, -⟩ :=
    withdrawal_sequence admitted.room rightMember
  have leftSmall := admitted.room _ _ leftBefore
  have rightSmall := admitted.room _ _ rightBefore
  rw [leftRecorded.claims, List.mem_singleton] at firstListed
  rw [rightRecorded.claims, List.mem_singleton] at secondListed
  subst firstListed secondListed
  have claims := pack_injective (relayed_separable (clean _ _ leftRecorded.signed) leftSmall)
    (relayed_separable (clean _ _ rightRecorded.signed) rightSmall) same
  exact differ _ leftIs _ rightIs (relayed_injective leftSmall rightSmall leftRecorded.positive
    rightRecorded.positive claims).1

end Runs

/-- The withdrawals a run executes, in order. -/
def executedWithdrawals (env : Environment) (start : State) (txs : List Tx) : List Receipt :=
  (transitions (stepTx env) start txs).flatMap fun transition =>
    withdrawalsOf env transition.before transition.message

/-- Every withdrawal of a run whose transactions keep theirs distinguishable is relayed as one
claim, with an id of its own. -/
theorem withdrawals_keep_apart (env : Environment) (relayer : Parser) (keccak256 : Bytes → Word)
    (start : State) (txs : List Tx)
    (clean : ∀ text address, env.chain.accAddressFromBech32 text = some address → 0 ∉ utf8 text)
    (collisionFree : ∀ first ∈ (executedWithdrawals env start txs).flatMap (claimsOf relayer),
      ∀ second ∈ (executedWithdrawals env start txs).flatMap (claimsOf relayer),
        keccak256 first.pack = keccak256 second.pack → first.pack = second.pack)
    (meets : Meets (stepTx env) (Distinguishable relayer) start txs) :
    (∀ receipt ∈ executedWithdrawals env start txs, ∃ claim, claimsOf relayer receipt = [claim]) ∧
      (executedWithdrawals env start txs).Pairwise fun earlier later =>
        ∀ first ∈ claimsOf relayer earlier, ∀ second ∈ claimsOf relayer later,
          getProphecyID keccak256 first ≠ getProphecyID keccak256 second := by
  constructor
  · intro receipt member
    obtain ⟨transition, reached, listed⟩ := List.mem_flatMap.mp member
    obtain ⟨-, admitted, -⟩ := @transitions_meets _ _ _ (stepTx env) (Distinguishable relayer)
      (fun _ => True) (fun _ _ _ _ => trivial) start trivial txs meets transition reached
    obtain ⟨withdrawal, sender, sequence, -, recorded, -⟩ :=
      withdrawal_sequence admitted.room listed
    exact ⟨_, recorded.claims⟩
  · have apart : (executedWithdrawals env start txs).Pairwise (Apart relayer) :=
      outputs_pairwise (fun _ _ admitted => apart_within clean admitted)
        (fun _ _ admitted _ member => shown_after admitted member)
        (fun _ _ _ shown admitted => shown_lasts shown admitted)
        (fun _ _ _ shown admitted _ member => apart_later clean shown admitted member) meets
    refine List.Pairwise.imp_of_mem ?_ apart
    intro earlier later earlyMember lateMember differ first firstListed second secondListed same
    exact differ first firstListed second secondListed
      (collisionFree first (List.mem_flatMap.mpr ⟨earlier, earlyMember, firstListed⟩)
        second (List.mem_flatMap.mpr ⟨later, lateMember, secondListed⟩) same)

section Sample

/-- A reader of digits. -/
def readNat (digits : List Char) : Option Nat :=
  if digits.all Char.isDigit ∧ digits ≠ [] then some (Nat.ofDigitChars 10 digits 0) else none

/-- A natural number is read back from its text. -/
theorem readNat_text (value : Nat) : readNat (natText value).toList = some value := by
  have digits : (natText value).toList.all Char.isDigit = true :=
    List.all_eq_true.mpr fun char listed => isDigit_of_mem_natText listed
  rw [natText_toList] at digits ⊢
  rw [readNat, if_pos ⟨digits, Nat.toDigits_ne_nil⟩,
    Nat.ofDigitChars_toDigits (by decide) (by decide)]

/-- A reader of plain decimals. -/
def readInt (text : String) : Option Int :=
  match text.toList with
  | '-' :: digits => (readNat digits).map fun value : Nat => -(value : Int)
  | digits => (readNat digits).map Int.ofNat

/-- An integer is read back from its text. -/
theorem readInt_text (value : Int) : readInt (intText value) = some value := by
  have read := readNat_text value.natAbs
  unfold intText
  split
  · rw [readInt, String.toList_append]
    change (readNat (natText value.natAbs).toList).map _ = _
    rw [read, Option.map_some, Option.some.injEq]
    omega
  · unfold readInt
    split
    · rename_i digits starts
      have signed := minus_not_mem_natText value.natAbs
      rw [starts] at signed
      exact absurd List.mem_cons_self signed
    · rw [read, Option.map_some, Option.some.injEq, Int.ofNat_eq_natCast]
      omega

/-- A relayer that reads decimal numbers. -/
def plainRelayer : Parser where
  decimals :=
    { setString := readInt
      newIntFromString := fun text => (readInt text).bind SInt.ofText
      setString_text := readInt_text
      newIntFromString_text := fun value => by
        rw [SInt.text, readInt_text, Option.bind_some, SInt.ofText_some] }
  translator := ⟨fun _ => none, fun _ => none⟩

/-- A withdrawal of rowan. -/
def rowanLock (amount : SInt) : MsgLock where
  cosmosSender := aliceText
  amount := amount
  symbol := "rowan"
  ethereumChainId := 1
  ethereumReceiver := "0x52908400098527886E0F7030069857D2E4169EE7"
  cethAmount := weiAmount

/-- A transaction with locks of some amounts. -/
def lockTx (amounts : List SInt) : Tx :=
  ⟨bridgeContext, amounts.map fun amount => .bridge (.lock (rowanLock amount))⟩

/-- An account with rowan and ceth, before its first transaction. -/
def fundedState : State :=
  { bridgeState with
    bank := ⟨⟨fun address _ => if address = aliceAddress then 10 ^ 20 else 0⟩, fun _ => 10 ^ 20⟩
    accounts := fun address => if address = aliceAddress then some 0 else none }

/-- Five fits an `Int`. -/
theorem fiveRowan_bounded : (5 : Int).natAbs < 2 ^ 256 := by decide

/-- Five rowan. -/
def fiveRowan : SInt := ⟨5, fiveRowan_bounded⟩

/-- Six rowan. -/
def sixRowan : SInt := ⟨6, by decide⟩

/-- The claim of a withdrawal of rowan in the first transaction. -/
def rowanClaim (amount : SInt) : ProphecyClaim :=
  (relayed plainRelayer (.msgLock, rowanLock amount) 1).prophecyClaim

/-- The hashes of the two claims. -/
def rowanHash (packed : Bytes) : Word :=
  if packed = (rowanClaim fiveRowan).pack then
    0x4199870b61584abdbb7cf8fb3616d27bf5cd7901880df1a13ee75057eca1a948
  else if packed = (rowanClaim sixRowan).pack then
    0x414bc029ffc79e9a7f8789c892a44887379f0c290dbbcb3d5d12b63df8a2f9a3
  else 0

end Sample

/-- Two locks of different amounts in one transaction are claimed apart. -/
theorem different_locks_apart :
    let txs := [lockTx [fiveRowan, sixRowan]]
    (executedWithdrawals bridgeEnvironment fundedState txs).flatMap (claimsOf plainRelayer) =
        [rowanClaim fiveRowan, rowanClaim sixRowan] ∧
      (executedWithdrawals bridgeEnvironment fundedState txs).Pairwise fun earlier later =>
        ∀ first ∈ claimsOf plainRelayer earlier, ∀ second ∈ claimsOf plainRelayer later,
          getProphecyID rowanHash first ≠ getProphecyID rowanHash second := by
  have claims : (executedWithdrawals bridgeEnvironment fundedState
      [lockTx [fiveRowan, sixRowan]]).flatMap (claimsOf plainRelayer) =
        [rowanClaim fiveRowan, rowanClaim sixRowan] := by decide +kernel
  refine ⟨claims, (withdrawals_keep_apart bridgeEnvironment plainRelayer rowanHash fundedState
    [lockTx [fiveRowan, sixRowan]] ?_ ?_ ⟨⟨by decide +kernel, ?_⟩, trivial⟩).2⟩
  · intro text address decoded
    have known : text = aliceText := by
      by_contra other
      simp [bridgeEnvironment, bridgeChain, chainReading, other] at decoded
    rw [known]
    decide +kernel
  · rw [claims]
    decide +kernel
  · intro address sequence found
    simp only [fundedState] at found
    split at found
    · cases found
      decide
    · cases found

/-- Two equal locks in one transaction are both executed and become one claim. -/
theorem equal_locks_merge :
    let executed := executedWithdrawals bridgeEnvironment fundedState
      [lockTx [fiveRowan, fiveRowan]]
    executed.length = 2 ∧
      executed.flatMap (claimsOf plainRelayer) = [rowanClaim fiveRowan, rowanClaim fiveRowan] := by
  decide +kernel

end Akhira.Verif.EthBridge
