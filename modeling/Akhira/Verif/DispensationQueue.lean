import Akhira.Sdk.Transfers
import Akhira.Verif.DispensationRecords

/-!
# Draining a distribution

The pending records of a name, type and runner form a queue in the order of their keys, and a run
goes through its first ten. The loop swallows the error of a refused payout, so the coins that the
bank has debited by then are gone: a record is settled whole when its recipient is blocked, when its
first coin is not covered, or when all its coins are. If that holds for every record in its turn, as
many runs as there are tens empty the queue.
-/
namespace Akhira.Verif.Dispensation

open Akhira.Base Akhira.Sdk Akhira.Dispensation

variable {env : Environment} {context : Context env} {state middle next : State}
  {record : DistributionRecord} {records : List DistributionRecord} {msg : MsgRunDistribution}

/-- Whether a message runs a record. -/
def runsRecord (msg : MsgRunDistribution) (record : DistributionRecord) : Bool :=
  record.distributionName = msg.distributionName && record.distributionStatus = .pending &&
    record.authorizedRunner = msg.authorizedRunner && record.distributionType = msg.distributionType

/-- The pending records of a message's name, type and runner in the order of their keys. -/
def queue (state : State) (msg : MsgRunDistribution) : List DistributionRecord :=
  state.pending.values.filter (runsRecord msg)

/-- A message run once in each of some blocks. -/
def runs (env : Environment) (msg : MsgRunDistribution) (state : State)
    (contexts : List (Context env)) : Outcome State :=
  contexts.foldlM (fun state context => state.runDistribution env context msg) state

section Condition

/-- Whether the module account covers the first of some coins. -/
def coversFirst (env : Environment) (ledger : Ledger) (coins : Coins) : Bool :=
  coins.head?.all fun coin => ledger.hasBalance env.moduleAccount coin

/-- Whether the bank refuses a record before it debits anything. -/
def refusedWhole (env : Environment) (ledger : Ledger) (record : DistributionRecord)
    (recipient : AccAddress) : Bool :=
  env.blockedAddr recipient || !coversFirst env ledger record.coins

/-- Whether a record is refused before anything is debited or paid in all its coins. -/
def settledWhole (env : Environment) (ledger : Ledger) (record : DistributionRecord) : Bool :=
  match env.accAddressFromBech32 record.recipientAddress with
  | none => true
  | some recipient => refusedWhole env ledger record recipient ||
    ((record.coins.all fun coin => ledger.hasBalance env.moduleAccount coin) &&
      decide (ledger.HasRoom env.moduleAccount recipient record.coins))

/-- The balances after a record that is settled whole. -/
def afterRecord (env : Environment) (ledger : Ledger) (record : DistributionRecord) : Ledger :=
  match env.accAddressFromBech32 record.recipientAddress with
  | none => ledger
  | some recipient =>
    if refusedWhole env ledger record recipient then ledger
    else ledger.transferred env.moduleAccount recipient record.coins

/-- Whether every record in its turn is settled whole. -/
def allSettledWhole (env : Environment) : Ledger → List DistributionRecord → Bool
  | _, [] => true
  | ledger, record :: rest =>
    settledWhole env ledger record && allSettledWhole env (afterRecord env ledger record) rest

/-- All records are settled whole when the first ones are and then the others. -/
theorem allSettledWhole_append (ledger : Ledger) (first second : List DistributionRecord) :
    allSettledWhole env ledger (first ++ second) =
      (allSettledWhole env ledger first &&
        allSettledWhole env (first.foldl (afterRecord env) ledger) second) := by
  induction first generalizing ledger with
  | nil => rfl
  | cons record rest ih =>
    rw [List.cons_append, allSettledWhole, allSettledWhole, ih, Bool.and_assoc, List.foldl_cons]

end Condition

section Effect

/-- A record with whether it was paid. -/
abbrev Settlement := DistributionRecord × Bool

/-- What the module account pays an address for a record, if it was paid. -/
def received (env : Environment) (address : AccAddress) (denom : Denom) (settlement : Settlement) :
    Nat :=
  if settlement.2 ∧ env.accAddressFromBech32 settlement.1.recipientAddress = some address then
    recordAmount denom settlement.1
  else 0

/-- What the module account gives for a record, if it was paid. -/
def given (denom : Denom) (settlement : Settlement) : Nat :=
  if settlement.2 then recordAmount denom settlement.1 else 0

/-- Where a settled record is found. -/
def Recorded (state : State) (settlement : Settlement) : Prop :=
  ∃ height, if settlement.2 then
    state.completed.get settlement.1.key = some (moved settlement.1 height .completed)
  else state.failed.get settlement.1.key = some (moved settlement.1 height .failed)

/-- The claim of a paid record of a claimable type is gone. -/
def ClaimGone (state : State) (settlement : Settlement) : Prop :=
  settlement.2 = true → settlement.1.distributionType.isValidClaimType = true →
    state.claims.get (getUserClaimKey settlement.1.recipientAddress
      settlement.1.distributionType) = none

/-- The queue of a message is empty, its records are completed, each paid once and its claim
deleted, or failed, and nothing else has moved. -/
structure Drained (env : Environment) (msg : MsgRunDistribution) (state next : State)
    (settlements : List Settlement) : Prop where
  each : settlements.map Prod.fst = queue state msg
  emptied : queue next msg = []
  others : ∀ key, (∀ record ∈ queue state msg, record.key ≠ key) →
    next.pending.get key = state.pending.get key
  recorded : ∀ settlement ∈ settlements, Recorded next settlement
  claims : ∀ settlement ∈ settlements, ClaimGone next settlement
  balances : ∀ address denom, next.bank.balance address denom +
      Ledger.share env.moduleAccount address (settlements.map (given denom)).sum =
    state.bank.balance address denom + (settlements.map (received env address denom)).sum

/-- What some rounds do, with the coins that partial debits take. -/
structure Settles (env : Environment) (state next : State) (settlements : List Settlement)
    (lost : Denom → Nat) : Prop where
  pending : next.pending =
    settlements.foldl (fun pending settlement => pending.delete settlement.1.key) state.pending
  completed : ∀ key, key ∉ settlements.map (fun settlement => settlement.1.key) →
    next.completed.get key = state.completed.get key
  failed : ∀ key, key ∉ settlements.map (fun settlement => settlement.1.key) →
    next.failed.get key = state.failed.get key
  recorded : ∀ settlement ∈ settlements, Recorded next settlement
  deleted : ∀ key, state.claims.get key = none → next.claims.get key = none
  claims : ∀ settlement ∈ settlements, ClaimGone next settlement
  balances : ∀ address denom, next.bank.balance address denom +
      Ledger.share env.moduleAccount address ((settlements.map (given denom)).sum + lost denom) =
    state.bank.balance address denom + (settlements.map (received env address denom)).sum

/-- No round does nothing. -/
theorem Settles.refl (env : Environment) (state : State) : Settles env state state [] fun _ => 0 where
  pending := rfl
  completed _ _ := rfl
  failed _ _ := rfl
  recorded _ listed := by cases listed
  deleted _ missing := missing
  claims _ listed := by cases listed
  balances _ _ := by simp [Ledger.share]

/-- Rounds on different records add up. -/
theorem Settles.trans {first second : List Settlement} {lost lostLater : Denom → Nat}
    (earlier : Settles env state middle first lost)
    (later : Settles env middle next second lostLater)
    (apart : ∀ settlement ∈ first,
      settlement.1.key ∉ second.map fun settlement => settlement.1.key) :
    Settles env state next (first ++ second) fun denom => lost denom + lostLater denom where
  pending := by rw [List.foldl_append, ← earlier.pending, later.pending]
  completed key absent := by
    simp only [List.map_append, List.mem_append, not_or] at absent
    rw [later.completed key absent.2, earlier.completed key absent.1]
  failed key absent := by
    simp only [List.map_append, List.mem_append, not_or] at absent
    rw [later.failed key absent.2, earlier.failed key absent.1]
  recorded settlement listed := by
    rcases List.mem_append.mp listed with inFirst | inSecond
    · obtain ⟨height, found⟩ := earlier.recorded settlement inFirst
      have absent := apart settlement inFirst
      refine ⟨height, ?_⟩
      rw [later.completed _ absent, later.failed _ absent]
      exact found
    · exact later.recorded settlement inSecond
  deleted key missing := later.deleted key (earlier.deleted key missing)
  claims settlement listed := by
    rcases List.mem_append.mp listed with inFirst | inSecond
    · exact fun paid claimable =>
        later.deleted _ (earlier.claims settlement inFirst paid claimable)
    · exact later.claims settlement inSecond
  balances address denom := by
    have now := earlier.balances address denom
    have after := later.balances address denom
    simp only [List.map_append, List.sum_append, Ledger.share_add] at now after ⊢
    omega

/-- A call that settles records in turn: it succeeds when each is settled whole, and whenever it
succeeds coins are lost unless each was. -/
structure SettlesSpec (env : Environment) (state : State) (records : List DistributionRecord)
    (call : Outcome State) : Prop where
  succeeds : allSettledWhole env state.bank records = true → ∃ next, call = .ok next
  settles : ∀ next, call = .ok next → ∃ settlements lost, settlements.map Prod.fst = records ∧
    Settles env state next settlements lost ∧
    ((∀ denom, lost denom = 0) ↔ allSettledWhole env state.bank records = true) ∧
    (allSettledWhole env state.bank records = true →
      next.bank = records.foldl (afterRecord env) state.bank)

/-- A call that returns the state settles no record. -/
theorem SettlesSpec.refl (env : Environment) (state : State) :
    SettlesSpec env state [] (.ok state) := by
  refine ⟨fun _ => ⟨state, rfl⟩, fun next same => ?_⟩
  cases same
  exact ⟨[], _, rfl, .refl env state, iff_of_true (fun _ => rfl) rfl, fun _ => rfl⟩

/-- Two calls settle the records of both, if no key is in both. -/
theorem SettlesSpec.bind {first second : List DistributionRecord} {call : Outcome State}
    {rest : State → Outcome State} (earlier : SettlesSpec env state first call)
    (later : ∀ middle settlements lost, settlements.map Prod.fst = first →
      Settles env state middle settlements lost → SettlesSpec env middle second (rest middle))
    (apart : ∀ left ∈ first, ∀ right ∈ second, left.key ≠ right.key) :
    SettlesSpec env state (first ++ second) (call >>= rest) := by
  constructor
  · intro whole
    rw [allSettledWhole_append, Bool.and_eq_true] at whole
    obtain ⟨middle, called⟩ := earlier.succeeds whole.1
    obtain ⟨settlements, lost, each, settles, -, bank⟩ := earlier.settles middle called
    rw [← bank whole.1] at whole
    obtain ⟨next, finished⟩ := (later middle settlements lost each settles).succeeds whole.2
    exact ⟨next, Result.bind_ok.mpr ⟨middle, called, finished⟩⟩
  · intro next result
    obtain ⟨middle, called, finished⟩ := Result.bind_ok.mp result
    obtain ⟨settled, lost, each, settles, whole, bank⟩ := earlier.settles middle called
    obtain ⟨settledLater, lostLater, eachLater, settlesLater, wholeLater, bankLater⟩ :=
      (later middle settled lost each settles).settles next finished
    refine ⟨settled ++ settledLater, _, by rw [List.map_append, each, eachLater],
      settles.trans settlesLater ?_, ?_, ?_⟩
    · intro settlement listed again
      obtain ⟨other, listedLater, same⟩ := List.mem_map.mp again
      refine apart settlement.1 ?_ other.1 ?_ same.symm
      · exact each ▸ List.mem_map_of_mem listed
      · exact eachLater ▸ List.mem_map_of_mem listedLater
    · rw [allSettledWhole_append, Bool.and_eq_true]
      constructor
      · intro nothing
        have firstWhole := whole.mp fun denom => (Nat.add_eq_zero_iff.mp (nothing denom)).1
        rw [← bank firstWhole]
        exact ⟨firstWhole, wholeLater.mp fun denom => (Nat.add_eq_zero_iff.mp (nothing denom)).2⟩
      · rintro ⟨firstWhole, secondWhole⟩ denom
        rw [← bank firstWhole] at secondWhole
        rw [whole.mpr firstWhole denom, wholeLater.mpr secondWhole denom]
    · rw [allSettledWhole_append, Bool.and_eq_true]
      rintro ⟨firstWhole, secondWhole⟩
      rw [← bank firstWhole] at secondWhole
      rw [bankLater secondWhole, bank firstWhole, List.foldl_append]

/-- Settlement sums over enough addresses: what is received is what is given. -/
theorem received_sum {addresses : Finset AccAddress} {denom : Denom} (settlements : List Settlement)
    (known : ∀ settlement ∈ settlements, ∃ address ∈ addresses,
      env.accAddressFromBech32 settlement.1.recipientAddress = some address) :
    ∑ address ∈ addresses, (settlements.map (received env address denom)).sum =
      (settlements.map (given denom)).sum := by
  induction settlements with
  | nil => simp
  | cons settlement rest ih =>
    obtain ⟨⟨recipient, listed, decoded⟩, others⟩ := List.forall_mem_cons.mp known
    simp only [List.map_cons, List.sum_cons, Finset.sum_add_distrib, ih others]
    congr 1
    unfold received given
    cases settlement.2 with
    | false => simp
    | true => simp [decoded, Finset.sum_ite_eq, listed]

end Effect

section Round

/-- The coins of a filed record are valid. -/
theorem Filed.coins_valid (filed : Filed record.key record) : record.coins.isValid = true := by
  have all := filed.valid
  simp only [DistributionRecord.validate, Bool.and_eq_true] at all
  exact all.1.2

/-- The bank's part of one round. -/
theorem payout_cases {recipient : AccAddress} (filed : Filed record.key record)
    (unblocked : env.blockedAddr recipient = false) {ledger : Ledger} :
    ((record.coins.all fun coin => ledger.hasBalance env.moduleAccount coin) = true ∧
        ledger.HasRoom env.moduleAccount recipient record.coins ∧
        ledger.sendCoinsFromModuleToAccount env.toChain context.locked moduleName recipient
          record.coins = .ok (ledger.transferred env.moduleAccount recipient record.coins)) ∨
      ((record.coins.all fun coin => ledger.hasBalance env.moduleAccount coin) = true ∧
        ¬ledger.HasRoom env.moduleAccount recipient record.coins ∧
        ∃ reason, ledger.sendCoinsFromModuleToAccount env.toChain context.locked moduleName
          recipient record.coins = .error (.panic reason)) ∨
      ((record.coins.all fun coin => ledger.hasBalance env.moduleAccount coin) = false ∧
        ∃ error, ledger.sendCoinsFromModuleToAccount env.toChain context.locked moduleName
          recipient record.coins = .error (.error error)) := by
  have sent : ledger.sendCoinsFromModuleToAccount env.toChain context.locked moduleName recipient
      record.coins = ledger.sendCoins context.locked env.moduleAccount recipient record.coins := by
    unfold Ledger.sendCoinsFromModuleToAccount
    rw [Outcome.require, if_pos unblocked]
    rfl
  rw [sent]
  exact Ledger.sendCoins_unlocked context.unlocked filed.coins_valid

/-- The first coin of a filed record. -/
theorem Filed.first_coin (filed : Filed record.key record) :
    ∃ coin rest, record.coins = coin :: rest ∧ coin.amount ≠ 0 := by
  have all := filed.valid
  simp only [DistributionRecord.validate, Bool.and_eq_true, decide_eq_true_eq, Coins.isValid,
    List.all_eq_true] at all
  obtain ⟨⟨-, -, positive⟩, some⟩ := all
  obtain ⟨coin, rest, same⟩ := List.exists_cons_of_ne_nil some
  exact ⟨coin, rest, same, positive coin (same ▸ List.mem_cons_self)⟩

/-- Whoever covers all coins of a filed record covers the first. -/
theorem Filed.coversFirst_of (filed : Filed record.key record) {ledger : Ledger}
    (covered : (record.coins.all fun coin => ledger.hasBalance env.moduleAccount coin) = true) :
    coversFirst env ledger record.coins = true := by
  obtain ⟨coin, rest, coins, -⟩ := filed.first_coin
  rw [coins] at covered ⊢
  exact List.all_eq_true.mp covered coin List.mem_cons_self

/-- A refused record is marked failed; the bank may have been debited before. -/
theorem failDrop_settles {ledger : Ledger} {lost : Denom → Nat}
    (found : state.pending.get record.key = some record) (filed : Filed record.key record)
    (debited : ∀ address denom, ledger.balance address denom +
      Ledger.share env.moduleAccount address (lost denom) = state.bank.balance address denom) :
    ∃ next, State.failDrop env context { state with bank := ledger } record = .ok next ∧
      next.bank = ledger ∧ Settles env state next [(record, false)] lost := by
  have change := @changeRecordStatus_pending env { state with bank := ledger } record
    context.blockHeight .failed found filed.status filed.valid (by decide)
  refine ⟨_, by rw [State.failDrop, change], rfl, ?_⟩
  constructor
  · rfl
  · exact fun _ _ => rfl
  · intro key absent
    exact Store.get_set_other _ _ (by simpa using absent)
  · intro settlement listed
    obtain rfl := List.mem_singleton.mp listed
    exact ⟨context.blockHeight, Store.get_set_same _ _ _⟩
  · exact fun _ missing => missing
  · intro settlement listed paid
    obtain rfl := List.mem_singleton.mp listed
    cases paid
  · intro address denom
    have lowered := debited address denom
    simp only [List.map_cons, List.map_nil, List.sum_cons, List.sum_nil, given, received,
      Bool.false_eq_true, false_and, if_false, Nat.zero_add, Nat.add_zero]
    exact lowered

/-- A paid record is completed and its claim deleted. -/
theorem completeDrop_settles {recipient : AccAddress} {ledger : Ledger}
    (decoded : env.accAddressFromBech32 record.recipientAddress = some recipient)
    (found : state.pending.get record.key = some record) (filed : Filed record.key record)
    (paid : ∀ address denom, ledger.balance address denom +
      Ledger.share env.moduleAccount address (recordAmount denom record) =
        state.bank.balance address denom +
          Ledger.share recipient address (recordAmount denom record)) :
    ∃ next, State.completeDrop env context { state with bank := ledger } record recipient =
        .ok next ∧ next.bank = ledger ∧ Settles env state next [(record, true)] fun _ => 0 := by
  have change := @changeRecordStatus_pending env { state with bank := ledger } record
    context.blockHeight .completed found filed.status filed.valid (by decide)
  have moves : ∀ address denom, ledger.balance address denom +
      Ledger.share env.moduleAccount address (([(record, true)].map (given denom)).sum + 0) =
        state.bank.balance address denom +
          ([(record, true)].map (received env address denom)).sum := by
    intro address denom
    have exchanged := paid address denom
    simpa [given, received, decoded, Ledger.share, eq_comm] using exchanged
  have claimKeys : ∀ (claims : Store String UserClaim) key other,
      claims.get key = none → (claims.delete other).get key = none := by
    intro claims key other missing
    by_cases same : key = other
    · rw [same, Store.get_delete_same]
    · rw [Store.get_delete_other _ same, missing]
  rw [State.completeDrop, change]
  dsimp only
  split
  · refine ⟨_, rfl, rfl, rfl, ?_, fun _ _ => rfl, ?_, ?_, ?_, moves⟩
    · exact fun key absent => Store.get_set_other _ _ (by simpa using absent)
    · intro settlement listed
      obtain rfl := List.mem_singleton.mp listed
      exact ⟨context.blockHeight, Store.get_set_same _ _ _⟩
    · exact fun key missing => claimKeys _ _ _ missing
    · intro settlement listed _ _
      obtain rfl := List.mem_singleton.mp listed
      exact Store.get_delete_same _ _
  · rename_i unclaimable
    refine ⟨_, rfl, rfl, rfl, ?_, fun _ _ => rfl, ?_, fun _ missing => missing, ?_, moves⟩
    · exact fun key absent => Store.get_set_other _ _ (by simpa using absent)
    · intro settlement listed
      obtain rfl := List.mem_singleton.mp listed
      exact ⟨context.blockHeight, Store.get_set_same _ _ _⟩
    · intro settlement listed _ claimable
      obtain rfl := List.mem_singleton.mp listed
      exact absurd claimable unclaimable

/-- A round whose payout is refused after the debits of some coins. -/
theorem refused_round {recipient : AccAddress} {error : SdkError} {lost : Denom → Nat}
    (found : state.pending.get record.key = some record) (filed : Filed record.key record)
    (decoded : env.accAddressFromBech32 record.recipientAddress = some recipient)
    (refused : state.bank.sendCoinsFromModuleToAccount env.toChain context.locked moduleName
      recipient record.coins = .error (.error error))
    (debited : ∀ address denom, (state.bank.afterRefusal env.toChain context.locked moduleName
      recipient record.coins).balance address denom +
        Ledger.share env.moduleAccount address (lost denom) = state.bank.balance address denom) :
    ∃ next, state.distributeDrop env context record = .ok next ∧
      next.bank = state.bank.afterRefusal env.toChain context.locked moduleName recipient
        record.coins ∧ Settles env state next [(record, false)] lost := by
  obtain ⟨next, marked, bank, settles⟩ := @failDrop_settles env context state record _ lost found
    filed debited
  refine ⟨next, ?_, bank, settles⟩
  unfold State.distributeDrop
  rw [decoded]
  dsimp only
  rw [refused]
  exact marked

/-- A round that sends the coins completes its record. -/
theorem paid_round {recipient : AccAddress} {ledger : Ledger}
    (found : state.pending.get record.key = some record) (filed : Filed record.key record)
    (decoded : env.accAddressFromBech32 record.recipientAddress = some recipient)
    (sent : state.bank.sendCoinsFromModuleToAccount env.toChain context.locked moduleName
      recipient record.coins = .ok ledger) :
    ∃ next, state.distributeDrop env context record = .ok next ∧ next.bank = ledger ∧
      Settles env state next [(record, true)] fun _ => 0 := by
  have paid := sent
  simp only [Ledger.sendCoinsFromModuleToAccount, Result.bind_ok, Outcome.require_ok] at paid
  obtain ⟨-, -, coinsSent⟩ := paid
  obtain ⟨next, completed, bank, settles⟩ := @completeDrop_settles env context state record
    recipient ledger decoded found filed (Ledger.sendCoins_ok coinsSent)
  refine ⟨next, ?_, bank, settles⟩
  unfold State.distributeDrop
  rw [decoded]
  dsimp only
  rw [sent]
  exact completed

/-- A round that settles its record is a call that settles one record. -/
theorem SettlesSpec.of_round {call : Outcome State} {paid : Bool} {lost : Denom → Nat}
    (result : call = .ok next) (settles : Settles env state next [(record, paid)] lost)
    (whole : (∀ denom, lost denom = 0) ↔ settledWhole env state.bank record = true)
    (bank : settledWhole env state.bank record = true →
      next.bank = afterRecord env state.bank record) : SettlesSpec env state [record] call := by
  have single : allSettledWhole env state.bank [record] = settledWhole env state.bank record :=
    Bool.and_true _
  refine ⟨fun _ => ⟨next, result⟩, fun other same => ?_⟩
  cases result.symm.trans same
  rw [single]
  exact ⟨_, lost, rfl, settles, whole, bank⟩

/-- Every round settles its record, paid or failed. -/
theorem round_spec (found : state.pending.get record.key = some record)
    (filed : Filed record.key record)
    (readable : (env.accAddressFromBech32 record.recipientAddress).isSome = true) :
    SettlesSpec env state [record] (state.distributeDrop env context record) := by
  obtain ⟨recipient, decoded⟩ := Option.isSome_iff_exists.mp readable
  cases blocked : env.blockedAddr recipient with
  | true =>
    have refused : state.bank.sendCoinsFromModuleToAccount env.toChain context.locked moduleName
        recipient record.coins = Outcome.fail (errUnauthorized.wrap
          (env.accAddressText recipient ++ " is not allowed to receive funds")) := by
      unfold Ledger.sendCoinsFromModuleToAccount
      rw [Outcome.require, if_neg (by rw [blocked]; decide)]
      rfl
    have untouched : state.bank.afterRefusal env.toChain context.locked moduleName recipient
        record.coins = state.bank := if_pos (.inl blocked)
    obtain ⟨next, result, bank, settles⟩ := @refused_round env context state record recipient _
      (fun _ => 0) found filed decoded refused (fun _ _ => by rw [untouched]; simp [Ledger.share])
    refine .of_round result settles (iff_of_true (fun _ => rfl) ?_) fun _ => ?_
    · simp [settledWhole, decoded, refusedWhole, blocked]
    · simp [afterRecord, decoded, refusedWhole, blocked, bank, untouched]
  | false =>
    rcases @payout_cases env context record recipient filed blocked state.bank with
      ⟨covered, room, sent⟩ | ⟨covered, crowded, reason, crashed⟩ | ⟨short, error, refused⟩
    · obtain ⟨next, result, bank, settles⟩ := paid_round found filed decoded sent
      have first := filed.coversFirst_of covered
      refine .of_round result settles (iff_of_true (fun _ => rfl) ?_) fun _ => ?_
      · simp [settledWhole, decoded, refusedWhole, blocked, first, covered, room]
      · simp [afterRecord, decoded, refusedWhole, blocked, first, bank]
    · have first := filed.coversFirst_of covered
      have broken : allSettledWhole env state.bank [record] = false := by
        simp [allSettledWhole, settledWhole, decoded, refusedWhole, blocked, first, crowded]
      refine ⟨fun whole => absurd whole (by simp [broken]), fun next result => ?_⟩
      unfold State.distributeDrop at result
      rw [decoded] at result
      dsimp only at result
      rw [crashed] at result
      cases result
    · obtain ⟨coin, rest, coins, positive⟩ := filed.first_coin
      obtain ⟨lost, debited, nothing⟩ := @Ledger.debitedBefore_takes context.locked state.bank
        env.moduleAccount context.unlocked coin positive rest
      have first : coversFirst env state.bank record.coins =
          state.bank.hasBalance env.moduleAccount coin := by
        rw [coins]
        rfl
      have valid : record.coins.isValid ≠ false := by simp [filed.coins_valid]
      have left : state.bank.afterRefusal env.toChain context.locked moduleName recipient
          record.coins = Ledger.debitedBefore context.locked env.moduleAccount state.bank
            (coin :: rest) := by
        unfold Ledger.afterRefusal
        rw [if_neg (by simp [blocked, valid]), coins]
        rfl
      rw [← left] at debited
      obtain ⟨next, result, bank, settles⟩ := refused_round found filed decoded refused debited
      have whole : settledWhole env state.bank record =
          !state.bank.hasBalance env.moduleAccount coin := by
        simp [settledWhole, decoded, refusedWhole, blocked, first, short]
      rw [← Bool.not_eq_true', ← whole] at nothing
      refine .of_round result settles nothing fun isWhole => ?_
      have kept : next.bank = state.bank := by
        apply Ledger.ext_balance
        intro address denom
        have lowered := debited address denom
        rw [nothing.mpr isWhole denom] at lowered
        rw [bank]
        simpa [Ledger.share] using lowered
      rw [whole, Bool.not_eq_true'] at isWhole
      rw [kept, afterRecord, decoded]
      simp [refusedWhole, first, isWhole]

end Round

section Queue

/-- Deleting the first record of a queue leaves the rest of it. -/
theorem queue_delete (filed : Store.All Filed state.pending)
    (listed : queue state msg = record :: records)
    (deleted : next.pending = state.pending.delete record.key) : queue next msg = records := by
  have entries : ∀ state : State, queue state msg =
      (state.pending.entries.filter fun entry => runsRecord msg entry.2).map Prod.snd :=
    fun state => List.filter_map
  rw [entries] at listed
  obtain ⟨entry, rest, selected, own, others⟩ := List.map_eq_cons_iff.mp listed
  have sorted := state.pending.sorted.filter fun entry => runsRecord msg entry.2
  rw [selected, List.pairwise_cons] at sorted
  have member : entry ∈ state.pending.entries :=
    List.mem_of_mem_filter (selected ▸ List.mem_cons_self)
  have key := (filed entry.1 entry.2 (state.pending.get_eq_some.mpr member)).key_eq
  rw [own] at key
  rw [entries, deleted, Store.delete, List.filter_comm, selected, List.filter_cons_of_neg (by simp [key]),
    List.filter_eq_self.mpr, others]
  intro other later
  have above := sorted.1 other later
  rw [key] at above
  simpa using ne_of_gt above

/-- The records that are left are filed as before. -/
theorem filed_settled {settlements : List Settlement} {lost : Denom → Nat}
    (filed : Store.All Filed state.pending) (settles : Settles env state next settlements lost) :
    Store.All Filed next.pending := by
  intro key held found
  rw [settles.pending, Store.get_foldl_delete] at found
  split at found
  · cases found
  · exact filed key held found

/-- Settling the records at the front of a queue leaves the rest of it. -/
theorem queue_settled {settlements : List Settlement} {lost : Denom → Nat}
    (filed : Store.All Filed state.pending) (settles : Settles env state next settlements lost)
    (listed : queue state msg = settlements.map Prod.fst ++ records) :
    queue next msg = records := by
  have pending := settles.pending
  clear settles
  induction settlements generalizing state with
  | nil =>
    unfold queue at listed ⊢
    rw [pending]
    exact listed
  | cons settlement rest ih =>
    have first := @queue_delete state { state with
      pending := state.pending.delete settlement.1.key } _ _ msg filed listed rfl
    exact ih (filed.delete _) first pending

/-- A record of the queue is stored under its key. -/
theorem queue_found (filed : Store.All Filed state.pending) (listed : record ∈ queue state msg) :
    state.pending.get record.key = some record :=
  listed_pending filed (List.mem_of_mem_filter listed)

/-- No two records of the queue have one key. -/
theorem queue_distinct (filed : Store.All Filed state.pending) :
    (queue state msg).Pairwise fun left right => left.key ≠ right.key :=
  (listed_distinct filed).filter _

/-- The rounds over some different pending records. -/
theorem rounds_spec (filed : Store.All Filed state.pending)
    (found : ∀ record ∈ records, state.pending.get record.key = some record)
    (readable : ∀ record ∈ records,
      (env.accAddressFromBech32 record.recipientAddress).isSome = true)
    (distinct : records.Pairwise fun left right => left.key ≠ right.key) :
    SettlesSpec env state records (records.foldlM (State.distributeDrop env context) state) := by
  induction records generalizing state with
  | nil => exact .refl env state
  | cons record rest ih =>
    have present := found record List.mem_cons_self
    have apart := (List.pairwise_cons.mp distinct).1
    rw [List.foldlM_cons, ← List.singleton_append]
    refine (round_spec present (filed _ _ present) (readable record List.mem_cons_self)).bind ?_ ?_
    · intro middle settlements lost each settles
      refine ih (filed_settled filed settles) (fun other later => ?_)
        (fun other later => readable other (List.mem_cons_of_mem _ later))
        (List.pairwise_cons.mp distinct).2
      have keys : settlements.map (fun settlement => settlement.1.key) = [record.key] := by
        change settlements.map (DistributionRecord.key ∘ Prod.fst) = _
        rw [← List.map_map, each]
        rfl
      rw [settles.pending, Store.get_foldl_delete, keys, if_neg]
      · exact found other (List.mem_cons_of_mem _ later)
      · simpa using (apart other later).symm
    · simpa using apart

/-- A run settles the first ten records of the queue. -/
theorem runDistribution_spec (filed : Store.All Filed state.pending)
    (readable : ∀ record ∈ queue state msg,
      (env.accAddressFromBech32 record.recipientAddress).isSome = true) :
    SettlesSpec env state ((queue state msg).take maxRecordsPerBlock)
      (state.runDistribution env context msg) :=
  rounds_spec filed (fun _ selected => queue_found filed (List.mem_of_mem_take selected))
    (fun record selected => readable record (List.mem_of_mem_take selected))
    ((queue_distinct filed).sublist (List.take_sublist _ _))

/-- Enough runs settle the whole queue. -/
theorem runs_spec {contexts : List (Context env)} (filed : Store.All Filed state.pending)
    (readable : ∀ record ∈ queue state msg,
      (env.accAddressFromBech32 record.recipientAddress).isSome = true)
    (enough : (queue state msg).length ≤ maxRecordsPerBlock * contexts.length) :
    SettlesSpec env state (queue state msg) (runs env msg state contexts) := by
  induction contexts generalizing state with
  | nil =>
    rw [List.eq_nil_of_length_eq_zero (Nat.le_zero.mp enough)]
    exact .refl env state
  | cons context rest ih =>
    have split := List.take_append_drop maxRecordsPerBlock (queue state msg)
    have distinct := @queue_distinct state msg filed
    rw [← split, List.pairwise_append] at distinct
    rw [← split, runs, List.foldlM_cons]
    refine (runDistribution_spec filed readable).bind ?_ distinct.2.2
    intro middle settlements lost each settles
    have left := queue_settled filed settles (each ▸ split.symm)
    rw [← left]
    apply ih (filed_settled filed settles)
    · rw [left]
      exact fun record listed => readable record (List.mem_of_mem_drop listed)
    · rw [left, List.length_drop]
      rw [List.length_cons] at enough
      unfold maxRecordsPerBlock at enough ⊢
      omega

/-- What leaves the module account arrives, so balances that account for all settlements leave
nothing to be lost. -/
theorem nothing_lost {settlements others : List Settlement} {lost : Denom → Nat}
    (readable : ∀ record ∈ queue state msg,
      (env.accAddressFromBech32 record.recipientAddress).isSome = true)
    (drained : Drained env msg state next settlements)
    (each : others.map Prod.fst = queue state msg)
    (settles : Settles env state next others lost) (denom : Denom) : lost denom = 0 := by
  let addresses : Finset AccAddress := insert env.moduleAccount
    ((queue state msg).filterMap fun record =>
      env.accAddressFromBech32 record.recipientAddress).toFinset
  have known : ∀ list : List Settlement, list.map Prod.fst = queue state msg →
      ∀ settlement ∈ list, ∃ address ∈ addresses,
        env.accAddressFromBech32 settlement.1.recipientAddress = some address := by
    intro list same settlement listed
    have queued : settlement.1 ∈ queue state msg := same ▸ List.mem_map_of_mem listed
    obtain ⟨recipient, decoded⟩ := Option.isSome_iff_exists.mp (readable _ queued)
    refine ⟨recipient, Finset.mem_insert_of_mem (List.mem_toFinset.mpr ?_), decoded⟩
    exact List.mem_filterMap.mpr ⟨settlement.1, queued, decoded⟩
  have module : env.moduleAccount ∈ addresses := Finset.mem_insert_self _ _
  have accounted := Finset.sum_congr (rfl : addresses = addresses)
    fun address _ => drained.balances address denom
  have actual := Finset.sum_congr (rfl : addresses = addresses)
    fun address _ => settles.balances address denom
  rw [Finset.sum_add_distrib, Finset.sum_add_distrib, Ledger.share_sum module,
    received_sum settlements (known settlements drained.each)] at accounted
  rw [Finset.sum_add_distrib, Finset.sum_add_distrib, Ledger.share_sum module,
    received_sum others (known others each)] at actual
  omega

/-- Running a distribution once for every ten records, or fewer, of its queue empties the queue,
every record being paid once and completed or marked failed with nothing moved, exactly when every
record in its turn is settled whole. -/
theorem queue_drained_iff {contexts : List (Context env)} (filed : Store.All Filed state.pending)
    (readable : ∀ record ∈ queue state msg,
      (env.accAddressFromBech32 record.recipientAddress).isSome = true)
    (enough : contexts.length = ((queue state msg).length + 9) / 10) :
    (∃ next settlements, runs env msg state contexts = .ok next ∧
      Drained env msg state next settlements) ↔
        allSettledWhole env state.bank (queue state msg) = true := by
  have spec := @runs_spec env state msg contexts filed readable
    (by unfold maxRecordsPerBlock; omega)
  constructor
  · rintro ⟨next, settlements, ran, drained⟩
    obtain ⟨others, lost, each, settles, whole, -⟩ := spec.settles next ran
    exact whole.mp (nothing_lost readable drained each settles)
  · intro isWhole
    obtain ⟨next, ran⟩ := spec.succeeds isWhole
    obtain ⟨settlements, lost, each, settles, whole, -⟩ := spec.settles next ran
    refine ⟨next, settlements, ran, each, ?_, ?_, settles.recorded, settles.claims, ?_⟩
    · exact queue_settled filed settles (by rw [each, List.append_nil])
    · intro key apart
      rw [settles.pending, Store.get_foldl_delete, if_neg]
      intro listed
      obtain ⟨settlement, member, same⟩ := List.mem_map.mp listed
      exact apart settlement.1 (each ▸ List.mem_map_of_mem member) same
    · intro address denom
      have moved := settles.balances address denom
      rwa [whole.mpr isWhole denom, Nat.add_zero] at moved

end Queue

/-- An airdrop of two coins for the second account. -/
def twoCoins : DistributionRecord :=
  ⟨.pending, .airdrop, dropName, bobText,
    [⟨"aku", 5, by decide, by decide⟩, ⟨"ceth", 5, by decide, by decide⟩], 10, -1, aliceText⟩

/-- The airdrop is pending, and the module account holds five of the first coin and some of the
second. -/
def twoCoinsState (second : Nat) : State where
  pending := Store.empty.set twoCoins.key twoCoins
  completed := .empty
  failed := .empty
  distributions := .empty
  claims := .empty
  bank := ⟨fun address denom =>
    if address = dispensationAddress then if denom = "aku" then 5 else second else 0⟩

/-- The run of the sample distribution. -/
def runTwoCoins : MsgRunDistribution := ⟨aliceText, dropName, .airdrop⟩

/-- The pending records of the sample are filed. -/
theorem twoCoins_filed (second : Nat) : Store.All Filed (twoCoinsState second).pending :=
  Store.All.empty.set ⟨rfl, rfl, by decide +kernel⟩

/-- With both coins covered one run drains the queue. -/
theorem two_coins_drained : ∃ next settlements,
    runs dropEnvironment runTwoCoins (twoCoinsState 5) [dropContext] = .ok next ∧
      Drained dropEnvironment runTwoCoins (twoCoinsState 5) next settlements :=
  (queue_drained_iff (twoCoins_filed 5) (by decide +kernel) (by decide +kernel)).mpr
    (by decide +kernel)

/-- Without the second coin the record is marked failed, but the first coin has left the account. -/
theorem first_coin_lost :
    (Store.All Filed (twoCoinsState 0).pending ∧
      (∀ record ∈ queue (twoCoinsState 0) runTwoCoins,
        (dropEnvironment.accAddressFromBech32 record.recipientAddress).isSome = true) ∧
      (queue (twoCoinsState 0) runTwoCoins).length = 1) ∧
    ¬∃ next settlements,
      runs dropEnvironment runTwoCoins (twoCoinsState 0) [dropContext] = .ok next ∧
        Drained dropEnvironment runTwoCoins (twoCoinsState 0) next settlements := by
  refine ⟨⟨twoCoins_filed 0, by decide +kernel, by decide +kernel⟩, ?_⟩
  rintro ⟨next, settlements, ran, drained⟩
  have left : (runs dropEnvironment runTwoCoins (twoCoinsState 0) [dropContext]).map
      (fun next => (next.bank.balance dispensationAddress "aku", next.completed.get twoCoins.key)) =
        .ok (0, none) := by
    decide +kernel
  rw [ran] at left
  obtain ⟨balance, missing⟩ := Prod.mk.inj (Except.ok.inj left)
  have single : queue (twoCoinsState 0) runTwoCoins = [twoCoins] := by decide +kernel
  obtain ⟨⟨record, paid⟩, listed, same⟩ := List.map_eq_singleton_iff.mp (drained.each.trans single)
  obtain rfl : record = twoCoins := same
  subst listed
  cases paid with
  | false =>
    have kept := drained.balances dispensationAddress "aku"
    rw [balance] at kept
    revert kept
    decide +kernel
  | true =>
    obtain ⟨height, found⟩ := drained.recorded _ List.mem_cons_self
    rw [if_pos rfl, missing] at found
    cases found

end Akhira.Verif.Dispensation
