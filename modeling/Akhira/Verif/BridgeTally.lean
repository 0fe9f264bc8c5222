import Akhira.Verif.BankLog
import Akhira.Verif.BridgeQuorum

/-!
# The tally of a prophecy

While the validator set stays and the bank does its part, no claim on a prophecy is lost and none
counts twice: the signed power is that of the active validators that have called until the threshold
is reached, and the prophecy is paid just when it is. Neither the order of the calls nor repeated
ones matter.
-/
namespace Akhira.Verif.Contracts

open Akhira.Base Akhira.Contracts

variable {keccak256 : Bytes → Word} {system next : BridgeSystem} {id : Word}

/-- The action leaves the validator set. -/
def leavesValidators : Action → Bool
  | .addValidator .. | .updateValidatorPower .. | .removeValidator .. | .updateValset ..
  | .recoverGas .. => false
  | _ => true

/-- An action that leaves the validators has that effect. -/
theorem sameSet_of_steady {valset after : Valset} {action : Action}
    (steady : leavesValidators action = true) (effect : ValsetEffect valset after action) :
    SameSet valset after := by
  cases effect with
  | kept same => exact same
  | added grown => cases steady
  | updated active total version validators powers => cases steady
  | removed active total version validators powers => cases steady
  | replaced replaced => cases steady
  | recovered total version validators powers => cases steady

/-- The weight of the claims on a prophecy depends on the validators and on who has claimed it. -/
theorem claimedWeight_same {bridge after : CosmosBridge}
    (sameSet : SameSet bridge.toValset after.toValset)
    (claims : after.hasMadeClaim id = bridge.hasMadeClaim id) :
    claimedWeight after id = claimedWeight bridge id := by
  unfold claimedWeight isActiveClaimant powerOf Valset.isActiveValidator Valset.getValidatorPower
  rw [sameSet.validators, sameSet.powers, sameSet.version, claims]

/-- The same validator sets have the same active validators. -/
theorem SameSet.isActiveValidator_eq {valset after : Valset} (same : SameSet valset after)
    (validator : Address) : after.isActiveValidator validator = valset.isActiveValidator validator := by
  unfold Valset.isActiveValidator
  rw [same.validators, same.version]

section Acceptance

variable {world : World} {sender : Address} {claim : ProphecyClaim}

/-- The bank's part in a claim: it looks at the token of the first one and pays the last one. -/
def bankPart (keccak256 : Bytes → Word) (world : World) (system : BridgeSystem)
    (claim : ProphecyClaim) (first completes : Bool) : Revertible BridgeSystem := do
  let system ← (if first then system.announceProphecy keccak256 world claim else pure system)
  if completes then system.completeProphecyClaim keccak256 world claim else pure system

/-- The signed power reaches the threshold with that of one more validator. -/
def reachesWith (bridge : CosmosBridge) (id : Word) (validator : Address) : Bool :=
  bridge.totalPower.toNat * bridge.consensusThreshold.toNat ≤
    ((bridge.oracleClaimValidators id).toNat + powerOf bridge.toValset validator) * 100

/-- The threshold is computed where neither product overflows. -/
theorem getProphecyThreshold_fits {bridge : CosmosBridge}
    (threshold : bridge.totalPower.toNat * bridge.consensusThreshold.toNat < 2 ^ 256)
    (current : (bridge.oracleClaimValidators id).toNat * 100 < 2 ^ 256) :
    ∃ result, bridge.getProphecyThreshold id = .ok result := by
  simp only [CosmosBridge.getProphecyThreshold, Result.bind_ok, Result.pure_ok]
  exact ⟨_, _, if_pos threshold, _, if_pos current, rfl⟩

/-- A validator's first claim on a pending prophecy is recorded unless the numbers overflow. -/
theorem newOracleClaim_fits {bridge : CosmosBridge}
    (first : bridge.hasMadeClaim id sender = false)
    (threshold : bridge.totalPower.toNat * bridge.consensusThreshold.toNat < 2 ^ 256)
    (current : ((bridge.oracleClaimValidators id).toNat + powerOf bridge.toValset sender) * 100 <
      2 ^ 256) :
    ∃ result, bridge.newOracleClaim id sender = .ok result ∧
      result.1.bridgeBank = bridge.bridgeBank ∧ result.1.self = bridge.self ∧
      result.2 = reachesWith bridge id sender := by
  have sum : (bridge.oracleClaimValidators id).toNat + powerOf bridge.toValset sender < 2 ^ 256 := by
    omega
  have added : SafeMath.add (bridge.oracleClaimValidators id) (bridge.getValidatorPower sender) =
      .ok (bridge.oracleClaimValidators id + bridge.getValidatorPower sender) := if_pos sum
  have exactly := SafeMath.add_ok added
  set signedPower := bridge.oracleClaimValidators id + bridge.getValidatorPower sender
  set recorded : CosmosBridge := { bridge with
    hasMadeClaim := writeAt bridge.hasMadeClaim id sender true
    oracleClaimValidators := write bridge.oracleClaimValidators id signedPower
    events := bridge.events ++ [.logNewOracleClaim id sender] } with recorded_eq
  have written : recorded.oracleClaimValidators id = signedPower := write_same _ _ _
  obtain ⟨valid, computed⟩ := @getProphecyThreshold_fits id recorded threshold (by
    rw [written, exactly]
    exact current)
  refine ⟨(recorded, valid.1), ?_, rfl, rfl, ?_⟩
  · simp only [CosmosBridge.newOracleClaim, Result.bind_ok, Result.pure_ok, Revertible.require_ok]
    exact ⟨(), first, signedPower, added, valid, computed, rfl⟩
  · rw [getProphecyThreshold_ok computed, written, exactly]
    rfl

/-- The payment depends on nothing of the bridge but the two addresses. -/
theorem completeProphecyClaim_other {bridge : CosmosBridge}
    (bank : bridge.bridgeBank = system.bridge.bridgeBank) (self : bridge.self = system.bridge.self)
    (completed : system.completeProphecyClaim keccak256 world claim = .ok next) :
    ∃ after, BridgeSystem.completeProphecyClaim keccak256 world { system with bridge } claim =
      .ok after := by
  simp only [BridgeSystem.completeProphecyClaim, BridgeSystem.callBank, Result.bind_ok,
    Result.pure_ok, Revertible.require_ok] at completed ⊢
  obtain ⟨-, ⟨-, own, rfl⟩, paidBank, payment, -⟩ := completed
  rw [bank, self]
  exact ⟨_, _, ⟨(), own, rfl⟩, paidBank, payment, rfl⟩

/-- The announcement of a prophecy leaves the numbers and the addresses of the bridge. -/
theorem announceProphecy_bridge
    (announced : system.announceProphecy keccak256 world claim = .ok next) :
    ∃ events, next.bridge = { system.bridge with events } := by
  simp only [BridgeSystem.announceProphecy, Result.bind_ok, Result.pure_ok] at announced
  obtain ⟨-, -, bank, -, rfl⟩ := announced
  exact ⟨_, rfl⟩

/-- An active validator's first claim on a pending prophecy is accepted when the bank does its part
and the numbers do not overflow. -/
theorem newProphecyClaim_accepted (active : system.bridge.isActiveValidator sender = true)
    (pending : ¬ Reached system.bridge (getProphecyID keccak256 claim))
    (first : system.bridge.hasMadeClaim (getProphecyID keccak256 claim) sender = false)
    (threshold : system.bridge.totalPower.toNat * system.bridge.consensusThreshold.toNat < 2 ^ 256)
    (current : ((system.bridge.oracleClaimValidators (getProphecyID keccak256 claim)).toNat +
      powerOf system.bridge.toValset sender) * 100 < 2 ^ 256)
    (served : bankPart keccak256 world system claim
      (decide (system.bridge.oracleClaimValidators (getProphecyID keccak256 claim) = 0))
      (reachesWith system.bridge (getProphecyID keccak256 claim) sender) = .ok next) :
    ∃ after, system.newProphecyClaim keccak256 world sender claim = .ok after := by
  set id := getProphecyID keccak256 claim with id_eq
  obtain ⟨valid, computed⟩ := @getProphecyThreshold_fits id system.bridge threshold (by omega)
  have open_ : valid.1 = false := by
    rw [getProphecyThreshold_ok computed]
    exact decide_eq_false pending
  simp only [bankPart, Result.bind_ok, decide_eq_true_eq] at served
  obtain ⟨middle, opened, ended⟩ := served
  have announced : ∃ events, middle.bridge = { system.bridge with events } := by
    split at opened
    · exact announceProphecy_bridge opened
    · cases opened
      exact ⟨_, rfl⟩
  obtain ⟨events, same⟩ := announced
  obtain ⟨result, recorded, bank, self, reaches⟩ := @newOracleClaim_fits id sender middle.bridge
    (by rw [same]; exact first) (by rw [same]; exact threshold) (by rw [same]; exact current)
  have completes : result.2 = reachesWith system.bridge id sender := by
    rw [reaches, same]
    rfl
  have paid : ∃ after, (if result.2 then
      BridgeSystem.completeProphecyClaim keccak256 world { middle with bridge := result.1 } claim
      else pure { middle with bridge := result.1 }) = .ok after := by
    rw [completes]
    split at ended
    · next reached =>
      rw [if_pos reached]
      exact completeProphecyClaim_other bank self ended
    · next waits =>
      rw [if_neg waits]
      exact ⟨_, rfl⟩
  obtain ⟨after, paid⟩ := paid
  refine ⟨after, ?_⟩
  simp only [BridgeSystem.newProphecyClaim, Result.bind_ok, Revertible.require_ok]
  exact ⟨(), active, valid, computed, (), open_, middle, opened, result, recorded, paid⟩

end Acceptance

/-- Whether a call claims a prophecy. -/
def claimsProphecy (keccak256 : Bytes → Word) (id : Word) (call : Call) : Bool :=
  (claimMade call.action).any fun claim => getProphecyID keccak256 claim = id

/-- Whether an account has claimed a prophecy in some of the calls. -/
def calledFor (keccak256 : Bytes → Word) (id : Word) (calls : List Call) (account : Address) :
    Bool :=
  calls.any fun call => call.sender = account && claimsProphecy keccak256 id call

/-- A call that leaves the validator set, and for which the bank does its part if it is a claim on
the prophecy. -/
structure Counts (keccak256 : Bytes → Word) (id : Word) (system : BridgeSystem) (call : Call) :
    Prop where
  steady : leavesValidators call.action = true
  served : ∀ claim ∈ claimMade call.action, getProphecyID keccak256 claim = id →
    (bankPart keccak256 call.world system claim
      (decide (system.bridge.oracleClaimValidators id = 0))
      (reachesWith system.bridge id call.sender)).isOk = true

/-- Whether a call counts is decided by its parts. -/
instance (keccak256 : Bytes → Word) (id : Word) (system : BridgeSystem) (call : Call) :
    Decidable (Counts keccak256 id system call) :=
  decidable_of_iff
    (leavesValidators call.action = true ∧
      ∀ claim ∈ claimMade call.action, getProphecyID keccak256 claim = id →
        (bankPart keccak256 call.world system claim
          (decide (system.bridge.oracleClaimValidators id = 0))
          (reachesWith system.bridge id call.sender)).isOk = true)
    (Iff.intro (fun both => ⟨both.1, both.2⟩) fun counts => ⟨counts.steady, counts.served⟩)

/-- The contract is set up, the threshold takes some power, the powers do not overflow, and nobody
has claimed the prophecy. -/
structure Opened (id : Word) (bridge : CosmosBridge) : Prop where
  setUp : bridge.isInitialized = true
  bounded : PowersBounded bridge.toValset
  fits : bridge.totalPower.toNat * 100 < 2 ^ 256
  percent : bridge.consensusThreshold.toNat ≤ 100
  positive : 0 < bridge.totalPower.toNat * bridge.consensusThreshold.toNat
  unclaimed : ∀ validator, bridge.hasMadeClaim id validator = false
  unsigned : bridge.oracleClaimValidators id = 0
  unpaid : completions id bridge.events = 0

/-- The state of a prophecy after some calls: its claims are those of the callers until the
threshold is reached, and it is paid then. -/
structure Tallied (keccak256 : Bytes → Word) (id : Word) (start : CosmosBridge) (calls : List Call)
    (bridge : CosmosBridge) : Prop where
  setUp : bridge.isInitialized = true
  sameSet : SameSet start.toValset bridge.toValset
  threshold : bridge.consensusThreshold = start.consensusThreshold
  signed : (bridge.oracleClaimValidators id).toNat = claimedWeight bridge id
  called : ∀ validator, bridge.hasMadeClaim id validator = true →
    bridge.isActiveValidator validator = true ∧ calledFor keccak256 id calls validator = true
  counted : ¬ Reached bridge id → ∀ validator, bridge.isActiveValidator validator = true →
    calledFor keccak256 id calls validator = true → bridge.hasMadeClaim id validator = true
  completed : (Reached bridge id → completions id bridge.events = 1) ∧
    (¬ Reached bridge id → completions id bridge.events = 0)

section Tally

variable {start bridge : CosmosBridge} {calls : List Call} {call : Call}

/-- An account has called for a prophecy when it has before or does in the last call. -/
theorem calledFor_concat {account : Address} : calledFor keccak256 id (calls ++ [call]) account = true ↔
    calledFor keccak256 id calls account = true ∨
      call.sender = account ∧ claimsProphecy keccak256 id call = true := by
  rw [calledFor, List.any_append, Bool.or_eq_true]
  simp [calledFor]

/-- Nothing is counted before the first call. -/
theorem Opened.tallied (opened : Opened id start) : Tallied keccak256 id start [] start := by
  have nobody : claimedWeight start id = 0 := by
    apply weight_eq_zero
    intro validator
    rw [isActiveClaimant, opened.unclaimed, Bool.and_false]
  have pending : ¬ Reached start id := by
    have positive := opened.positive
    unfold Reached
    rw [opened.unsigned]
    exact Nat.not_le.mpr positive
  refine ⟨opened.setUp, ⟨rfl, rfl, rfl, rfl⟩, rfl, ?_, fun validator claimed => ?_,
    fun _ validator _ none_ => ?_, fun reached => absurd reached pending, fun _ => opened.unpaid⟩
  · rw [opened.unsigned, nobody]
    rfl
  · rw [opened.unclaimed] at claimed
    cases claimed
  · cases none_

/-- What does not touch the prophecy keeps its tally. -/
theorem Tallied.untouched {after : CosmosBridge} (tallied : Tallied keccak256 id start calls bridge)
    (other : claimsProphecy keccak256 id call = false)
    (setUp : after.isInitialized = bridge.isInitialized)
    (sameSet : SameSet bridge.toValset after.toValset)
    (threshold : after.consensusThreshold = bridge.consensusThreshold)
    (signed : after.oracleClaimValidators id = bridge.oracleClaimValidators id)
    (claims : after.hasMadeClaim id = bridge.hasMadeClaim id)
    (completed : completions id after.events = completions id bridge.events) :
    Tallied keccak256 id start (calls ++ [call]) after := by
  have reached : Reached after id ↔ Reached bridge id := by
    unfold Reached
    rw [sameSet.total, threshold, signed]
  have same : ∀ account, calledFor keccak256 id (calls ++ [call]) account = true ↔
      calledFor keccak256 id calls account = true := by
    intro account
    rw [calledFor_concat, other]
    simp
  refine ⟨setUp.trans tallied.setUp, tallied.sameSet.trans sameSet,
    threshold.trans tallied.threshold, ?_, fun validator claimed => ?_, fun pending validator active
    caller => ?_, ?_⟩
  · rw [signed, claimedWeight_same sameSet claims]
    exact tallied.signed
  · rw [claims] at claimed
    rw [sameSet.isActiveValidator_eq, same]
    exact tallied.called validator claimed
  · rw [sameSet.isActiveValidator_eq] at active
    rw [claims]
    exact tallied.counted (reached.not.mp pending) validator active ((same validator).mp caller)
  · rw [reached, completed]
    exact tallied.completed

/-- A claim that is recorded is counted. -/
theorem Tallied.claimed {after : CosmosBridge} (tallied : Tallied keccak256 id start calls bridge)
    (claims : claimsProphecy keccak256 id call = true)
    (claimed : Claimed bridge after call.sender id) :
    Tallied keccak256 id start (calls ++ [call]) after := by
  have pending : ¬ Reached bridge id := Nat.not_le.mpr claimed.pending
  have unpaid := tallied.completed.2 pending
  have own := claimed.completed id
  have listed : ∀ validator, after.hasMadeClaim id validator = true ↔
      validator = call.sender ∨ bridge.hasMadeClaim id validator = true := by
    intro validator
    rw [claimed.claims]
    by_cases sender : validator = call.sender
    · subst sender
      simp
    · rw [writeAt_second _ _ _ sender]
      simp [sender]
  refine ⟨claimed.isInitialized.trans tallied.setUp, tallied.sameSet.trans claimed.sameSet,
    claimed.threshold.trans tallied.threshold, ?_, fun validator made => ?_,
    fun _ validator active caller => ?_, fun reached => ?_, fun waits => ?_⟩
  · rw [claimed.signed, claimedWeight_claimed claimed, tallied.signed]
  · rw [claimed.sameSet.isActiveValidator_eq, calledFor_concat]
    rcases (listed validator).mp made with rfl | earlier
    · exact ⟨claimed.active, .inr ⟨rfl, claims⟩⟩
    · exact ⟨(tallied.called validator earlier).1, .inl (tallied.called validator earlier).2⟩
  · rw [claimed.sameSet.isActiveValidator_eq] at active
    rw [listed]
    rcases calledFor_concat.mp caller with earlier | ⟨rfl, -⟩
    · exact .inr (tallied.counted pending validator active earlier)
    · exact .inl rfl
  · rw [own, unpaid, if_pos ⟨rfl, reached⟩]
  · rw [own, unpaid, if_neg fun both => waits both.2]

/-- A claim that reverts was not needed: it had been made, or the sender is no validator, or the
threshold was reached. -/
theorem Tallied.refused (tallied : Tallied keccak256 id start calls bridge)
    (needless : ¬ Reached bridge id → bridge.isActiveValidator call.sender = true →
      claimsProphecy keccak256 id call = true → bridge.hasMadeClaim id call.sender = true) :
    Tallied keccak256 id start (calls ++ [call]) bridge := by
  refine ⟨tallied.setUp, tallied.sameSet, tallied.threshold, tallied.signed,
    fun validator claimed => ?_, fun pending validator active caller => ?_, tallied.completed⟩
  · obtain ⟨active, earlier⟩ := tallied.called validator claimed
    exact ⟨active, calledFor_concat.mpr (.inl earlier)⟩
  · rcases calledFor_concat.mp caller with earlier | ⟨rfl, claims⟩
    · exact tallied.counted pending validator active earlier
    · exact needless pending active claims

/-- The signed power is never too large to be counted. -/
theorem Tallied.signed_fits (opened : Opened id start) (tallied : Tallied keccak256 id start calls bridge)
    {sender : Address} (active : bridge.isActiveValidator sender = true)
    (first : bridge.hasMadeClaim id sender = false) :
    bridge.totalPower.toNat * bridge.consensusThreshold.toNat < 2 ^ 256 ∧
      ((bridge.oracleClaimValidators id).toNat + powerOf bridge.toValset sender) * 100 < 2 ^ 256 := by
  have fits := opened.fits
  have threshold : bridge.consensusThreshold.toNat ≤ 100 := by
    rw [tallied.threshold]
    exact opened.percent
  have total := tallied.sameSet.total
  rw [← total] at fits
  constructor
  · calc bridge.totalPower.toNat * bridge.consensusThreshold.toNat
        ≤ bridge.totalPower.toNat * 100 := Nat.mul_le_mul_left _ threshold
      _ < 2 ^ 256 := fits
  · -- the claimants and the sender are distinct active validators
    have apart : claimedWeight bridge id + powerOf bridge.toValset sender ≤
        activeWeight bridge.toValset := by
      refine weight_add_le (fun validator claimant => ?_) active ?_
      · rw [isActiveClaimant, Bool.and_eq_true] at claimant
        exact claimant.1
      · rw [isActiveClaimant, first, Bool.and_false]
    have bounded := (opened.bounded.same tallied.sameSet).bounded
    rw [tallied.signed]
    omega

end Tally

/-- Every call that counts keeps the tally. -/
theorem Tallied.attempt {start : CosmosBridge} {calls : List Call} {call : Call}
    (opened : Opened id start) (tallied : Tallied keccak256 id start calls system.bridge)
    (counts : Counts keccak256 id system call) :
    Tallied keccak256 id start (calls ++ [call])
      (attempt (execute keccak256) system call).bridge := by
  cases made : claimMade call.action with
  | none =>
    have other : claimsProphecy keccak256 id call = false := by rw [claimsProphecy, made]; rfl
    cases executed : execute keccak256 system call with
    | error reason =>
      rw [attempt_error executed]
      exact tallied.refused fun _ _ claims => absurd claims (by rw [other]; exact Bool.false_ne_true)
    | ok next =>
      rw [attempt_ok executed]
      cases execute_effect tallied.setUp executed with
      | claimed kind claimed =>
        rw [kind] at made
        cases made
      | quiet quiet effect =>
        exact tallied.untouched other quiet.isInitialized (sameSet_of_steady counts.steady effect)
          quiet.threshold (congrFun quiet.signed id) (congrFun quiet.claims id) (quiet.quiet id)
  | some claim =>
    have kind := action_of_claimMade made
    have same : execute keccak256 system call =
        system.newProphecyClaim keccak256 call.world call.sender claim := by
      simp only [execute, kind]
    cases executed : execute keccak256 system call with
    | error reason =>
      rw [attempt_error executed]
      refine tallied.refused fun pending active claims => ?_
      have own : getProphecyID keccak256 claim = id := by
        rw [claimsProphecy, made] at claims
        simpa using claims
      by_contra unclaimed
      have first := Bool.eq_false_of_not_eq_true unclaimed
      obtain ⟨threshold, current⟩ := tallied.signed_fits opened active first
      obtain ⟨served, done⟩ := Result.exists_of_isOk (counts.served claim made own)
      subst own
      obtain ⟨after, accepted⟩ := newProphecyClaim_accepted active pending first threshold current done
      rw [← same, executed] at accepted
      cases accepted
    | ok next =>
      rw [attempt_ok executed]
      rw [same] at executed
      have claimed := newProphecyClaim_ok executed
      by_cases own : getProphecyID keccak256 claim = id
      · rw [own] at claimed
        exact tallied.claimed (by rw [claimsProphecy, made]; simpa using own) claimed
      · refine tallied.untouched (by rw [claimsProphecy, made]; simpa using own)
          claimed.isInitialized claimed.sameSet claimed.threshold
          (claimed.others id (Ne.symm own)) ?_ ?_
        · rw [claimed.claims, writeAt_first _ _ _ (Ne.symm own)]
        · rw [claimed.completed, if_neg fun both => own both.1, Nat.add_zero]

section Sample

end Sample

end Akhira.Verif.Contracts
