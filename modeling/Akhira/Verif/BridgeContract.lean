import Akhira.Contracts.CosmosBridge

/-!
# What a call does to the bridge contract

One description for each way a successful call changes the contract: a change of the
validator set leaves claims and completions, and a claim leaves the validator set. The
results about runs follow from these descriptions alone.
-/
namespace Akhira.Verif.Contracts

open Akhira.Base Akhira.Contracts

variable {keccak256 : Bytes → Word}

/-- The prophecy an event completes. -/
def completedID : BridgeEvent → Option Word
  | .logProphecyCompleted prophecyID _ => some prophecyID
  | _ => none

/-- The prophecies `completeProphecyClaim` has run for, in order. -/
def completedIDs (events : List BridgeEvent) : List Word := events.filterMap completedID

/-- How often `completeProphecyClaim` has run for a prophecy. -/
def completions (prophecyID : Word) (events : List BridgeEvent) : Nat :=
  (completedIDs events).count prophecyID

/-- An appended event counts if it completes the prophecy. -/
theorem completions_append (prophecyID : Word) (events : List BridgeEvent) (event : BridgeEvent) :
    completions prophecyID (events ++ [event]) =
      completions prophecyID events + if completedID event = some prophecyID then 1 else 0 := by
  unfold completions completedIDs
  rw [List.filterMap_append, List.count_append]
  cases kind : completedID event with
  | none => simp [kind]
  | some completed => simp [kind, List.count_singleton]

/-- The validator set after adding one validator. -/
structure Grown (valset next : Valset) (validator : Address) (power : Word) : Prop where
  /-- The total grows by the power. -/
  total : next.totalPower.toNat = valset.totalPower.toNat + power.toNat
  /-- The version stays. -/
  version : next.currentValsetVersion = valset.currentValsetVersion
  /-- The validator is active. -/
  validators : next.validators =
    writeAt valset.validators validator valset.currentValsetVersion true
  /-- It has its power. -/
  powers : next.powers = writeAt valset.powers validator valset.currentValsetVersion power
  /-- Nothing is completed. -/
  quiet : ∀ prophecyID, completions prophecyID next.events = completions prophecyID valset.events

/-- `addValidatorInternal` adds the validator. -/
theorem addValidatorInternal_ok {valset next : Valset} {validator : Address} {power : Word}
    (added : valset.addValidatorInternal validator power = .ok next) :
    Grown valset next validator power := by
  simp only [Valset.addValidatorInternal, Result.bind_ok, Result.pure_ok] at added
  obtain ⟨count, -, total, sum, rfl⟩ := added
  exact ⟨SafeMath.add_ok sum, rfl, rfl, rfl, fun prophecyID => completions_append _ _ _⟩

/-- What adding one validator after another keeps, the loop keeps. -/
theorem addValidators_invariant {invariant : Valset → Prop}
    (kept : ∀ valset next validator power, invariant valset → Grown valset next validator power →
      invariant next)
    {validators : List (Address × Word)} {valset next : Valset} (holds : invariant valset)
    (added : valset.addValidators validators = .ok next) : invariant next := by
  induction validators generalizing valset with
  | nil =>
    cases added
    exact holds
  | cons validator rest ih =>
    rw [Valset.addValidators, Result.bind_ok] at added
    obtain ⟨middle, first, others⟩ := added
    exact ih (kept _ _ _ _ holds (addValidatorInternal_ok first)) others

/-- The loop adds all powers to the total. -/
theorem addValidators_total {validators : List (Address × Word)} {valset next : Valset}
    (added : valset.addValidators validators = .ok next) :
    next.totalPower.toNat =
      valset.totalPower.toNat + (validators.map fun added => added.2.toNat).sum := by
  induction validators generalizing valset with
  | nil =>
    cases added
    rfl
  | cons validator rest ih =>
    rw [Valset.addValidators, Result.bind_ok] at added
    obtain ⟨middle, first, others⟩ := added
    have one := (addValidatorInternal_ok first).total
    have sum := ih others
    rw [List.map_cons, List.sum_cons]
    omega

/-- The start of a new version: nobody has power in the totals. -/
structure Restarted (valset next : Valset) : Prop where
  /-- The total is zero. -/
  total : next.totalPower = 0
  /-- The version is the next one. -/
  version : next.currentValsetVersion.toNat = valset.currentValsetVersion.toNat + 1
  /-- The old versions stay. -/
  validators : next.validators = valset.validators
  /-- With their powers. -/
  powers : next.powers = valset.powers
  /-- Nothing is completed. -/
  quiet : ∀ prophecyID, completions prophecyID next.events = completions prophecyID valset.events

/-- `resetValset` starts a new version. -/
theorem resetValset_ok {valset next : Valset} (reset : valset.resetValset = .ok next) :
    Restarted valset next := by
  simp only [Valset.resetValset, Result.bind_ok, Result.pure_ok] at reset
  obtain ⟨version, counted, rfl⟩ := reset
  exact ⟨rfl, SafeMath.add_ok counted, rfl, rfl, fun prophecyID => completions_append _ _ _⟩

/-- Two validator sets with the same validators and totals. -/
structure SameSet (valset next : Valset) : Prop where
  /-- The totals agree. -/
  total : next.totalPower = valset.totalPower
  /-- The versions agree. -/
  version : next.currentValsetVersion = valset.currentValsetVersion
  /-- The validators agree. -/
  validators : next.validators = valset.validators
  /-- The powers agree. -/
  powers : next.powers = valset.powers

/-- Agreement passes on. -/
theorem SameSet.trans {first second third : Valset} (left : SameSet first second)
    (right : SameSet second third) : SameSet first third :=
  ⟨right.total.trans left.total, right.version.trans left.version,
    right.validators.trans left.validators, right.powers.trans left.powers⟩

/-- A new version with its validators. -/
structure Replaced (valset next : Valset) (powers : List Word) : Prop where
  /-- The total is at most the sum of the powers. -/
  total : next.totalPower.toNat ≤ (powers.map BitVec.toNat).sum
  /-- The set is restarted and the validators are added. -/
  added : ∃ fresh last validators, Restarted valset fresh ∧
    fresh.addValidators validators = .ok last ∧ SameSet last next
  /-- Nothing is completed. -/
  quiet : ∀ prophecyID, completions prophecyID next.events = completions prophecyID valset.events

/-- The powers that are paired with a validator. -/
theorem sum_zip_le (validators : List Address) (powers : List Word) :
    ((validators.zip powers).map fun added => added.2.toNat).sum ≤
      (powers.map BitVec.toNat).sum := by
  induction validators generalizing powers with
  | nil => exact Nat.zero_le _
  | cons validator validators ih =>
    cases powers with
    | nil => exact Nat.le_refl _
    | cons power powers =>
      rw [List.zip_cons_cons, List.map_cons, List.sum_cons, List.map_cons, List.sum_cons]
      exact Nat.add_le_add_left (ih powers) _

/-- `replaceValidators` makes a new version. -/
theorem replaceValidators_ok {valset next : Valset} {validators : List Address}
    {powers : List Word} (replaced : valset.replaceValidators validators powers = .ok next) :
    Replaced valset next powers := by
  simp only [Valset.replaceValidators, Result.bind_ok, Result.pure_ok,
    Revertible.require_ok] at replaced
  obtain ⟨-, -, fresh, reset, last, added, rfl⟩ := replaced
  have restarted := resetValset_ok reset
  have total := addValidators_total added
  have paired := sum_zip_le validators powers
  have quiet : ∀ prophecyID, completions prophecyID last.events =
      completions prophecyID valset.events := by
    apply addValidators_invariant _ restarted.quiet added
    intro before after validator power holds grown prophecyID
    rw [grown.quiet, holds]
  rw [restarted.total] at total
  refine ⟨?_, ⟨fresh, last, _, restarted, added, ⟨rfl, rfl, rfl, rfl⟩⟩, fun prophecyID => ?_⟩
  · change last.totalPower.toNat ≤ _
    rw [total]
    exact (Nat.zero_add _).le.trans paired
  · exact (completions_append _ _ _).trans (quiet prophecyID)

/-- The ways a call changes the validator set. -/
inductive ValsetEffect (valset next : Valset) : Action → Prop where
  /-- Calls about other things leave it. -/
  | kept {action : Action} (same : SameSet valset next) : ValsetEffect valset next action
  /-- `addValidator`. -/
  | added {validator : Address} {power : Word} (grown : Grown valset next validator power) :
    ValsetEffect valset next (.addValidator validator power)
  /-- `updateValidatorPower`. -/
  | updated {validator : Address} {power : Word}
    (active : valset.isActiveValidator validator = true)
    (total : next.totalPower.toNat + (valset.getValidatorPower validator).toNat =
      valset.totalPower.toNat + power.toNat)
    (version : next.currentValsetVersion = valset.currentValsetVersion)
    (validators : next.validators = valset.validators)
    (powers : next.powers = writeAt valset.powers validator valset.currentValsetVersion power) :
    ValsetEffect valset next (.updateValidatorPower validator power)
  /-- `removeValidator`. -/
  | removed {validator : Address}
    (active : valset.isActiveValidator validator = true)
    (total : next.totalPower.toNat + (valset.getValidatorPower validator).toNat =
      valset.totalPower.toNat)
    (version : next.currentValsetVersion = valset.currentValsetVersion)
    (validators : next.validators =
      writeAt valset.validators validator valset.currentValsetVersion false)
    (powers : next.powers = writeAt valset.powers validator valset.currentValsetVersion 0) :
    ValsetEffect valset next (.removeValidator validator)
  /-- `updateValset`. -/
  | replaced {validators : List Address} {powers : List Word}
    (replaced : Replaced valset next powers) :
    ValsetEffect valset next (.updateValset validators powers)
  /-- `recoverGas` takes a validator of the current version away and leaves the total. -/
  | recovered {valsetVersion : Word} {validator : Address}
    (total : next.totalPower = valset.totalPower)
    (version : next.currentValsetVersion = valset.currentValsetVersion)
    (validators : next.validators =
      writeAt valset.validators validator valset.currentValsetVersion false)
    (powers : next.powers = writeAt valset.powers validator valset.currentValsetVersion 0) :
    ValsetEffect valset next (.recoverGas valsetVersion validator)

/-- What a call of the validator set does: the set changes and nothing is completed. -/
structure ValsetChange (valset next : Valset) (action : Action) : Prop where
  /-- How the set changes. -/
  effect : ValsetEffect valset next action
  /-- Nothing is completed. -/
  quiet : ∀ prophecyID, completions prophecyID next.events = completions prophecyID valset.events

section Valset

variable {valset next : Valset} {sender validator : Address} {power : Word}

/-- `addValidator` adds the validator. -/
theorem addValidator_ok (added : valset.addValidator sender validator power = .ok next) :
    ValsetChange valset next (.addValidator validator power) := by
  rw [Valset.addValidator, Result.bind_ok] at added
  obtain ⟨-, -, added⟩ := added
  have grown := addValidatorInternal_ok added
  exact ⟨.added grown, grown.quiet⟩

/-- `updateValidatorPower` exchanges one power. -/
theorem updateValidatorPower_ok
    (updated : valset.updateValidatorPower sender validator power = .ok next) :
    ValsetChange valset next (.updateValidatorPower validator power) := by
  simp only [Valset.updateValidatorPower, Result.bind_ok, Result.pure_ok,
    Revertible.require_ok] at updated
  obtain ⟨-, -, -, active, rest, taken, total, sum, rfl⟩ := updated
  have before := SafeMath.sub_ok taken
  have after := SafeMath.add_ok sum
  refine ⟨.updated active ?_ rfl rfl rfl, fun prophecyID => completions_append _ _ _⟩
  unfold Valset.getValidatorPower
  dsimp only
  omega

/-- `removeValidator` takes a validator and its power away. -/
theorem removeValidator_ok (removed : valset.removeValidator sender validator = .ok next) :
    ValsetChange valset next (.removeValidator validator) := by
  simp only [Valset.removeValidator, Result.bind_ok, Result.pure_ok,
    Revertible.require_ok] at removed
  obtain ⟨-, -, -, active, count, -, total, taken, rfl⟩ := removed
  have before := SafeMath.sub_ok taken
  refine ⟨.removed active ?_ rfl rfl rfl, fun prophecyID => completions_append _ _ _⟩
  unfold Valset.getValidatorPower
  dsimp only
  omega

/-- `updateValset` makes a new version. -/
theorem updateValset_ok {validators : List Address} {powers : List Word}
    (updated : valset.updateValset sender validators powers = .ok next) :
    ValsetChange valset next (.updateValset validators powers) := by
  rw [Valset.updateValset, Result.bind_ok] at updated
  obtain ⟨-, -, updated⟩ := updated
  have replaced := replaceValidators_ok updated
  exact ⟨.replaced replaced, replaced.quiet⟩

/-- `recoverGas` takes a validator away and leaves the totals. -/
theorem recoverGas_ok {valsetVersion : Word}
    (recovered : valset.recoverGas sender valsetVersion validator = .ok next) :
    ValsetChange valset next (.recoverGas valsetVersion validator) := by
  simp only [Valset.recoverGas, Result.bind_ok, Result.pure_ok, Revertible.require_ok] at recovered
  obtain ⟨-, -, -, -, rfl⟩ := recovered
  exact ⟨.recovered rfl rfl rfl rfl, fun _ => rfl⟩

end Valset

/-- Two states of the bridge with the same claims and threshold. -/
structure SameClaims (bridge next : CosmosBridge) : Prop where
  /-- The signed powers agree. -/
  signed : next.oracleClaimValidators = bridge.oracleClaimValidators
  /-- The claims agree. -/
  claims : next.hasMadeClaim = bridge.hasMadeClaim
  /-- The thresholds agree. -/
  threshold : next.consensusThreshold = bridge.consensusThreshold
  /-- Both are set up or neither. -/
  isInitialized : next.isInitialized = bridge.isInitialized

/-- What a call other than a claim leaves. -/
structure Quiet (bridge next : CosmosBridge) : Prop extends SameClaims bridge next where
  /-- Nothing is completed. -/
  quiet : ∀ prophecyID, completions prophecyID next.events = completions prophecyID bridge.events

/-- A claim that is accepted. -/
structure Claimed (bridge next : CosmosBridge) (sender : Address) (prophecyID : Word) : Prop where
  /-- The sender is an active validator. -/
  active : bridge.isActiveValidator sender = true
  /-- It had not claimed the prophecy. -/
  first : bridge.hasMadeClaim prophecyID sender = false
  /-- The prophecy was not complete. -/
  pending : (bridge.oracleClaimValidators prophecyID).toNat * 100 <
    bridge.totalPower.toNat * bridge.consensusThreshold.toNat
  /-- Its power is added to the signed power. -/
  signed : (next.oracleClaimValidators prophecyID).toNat =
    (bridge.oracleClaimValidators prophecyID).toNat + (bridge.getValidatorPower sender).toNat
  /-- The other signed powers stay. -/
  others : ∀ other, other ≠ prophecyID →
    next.oracleClaimValidators other = bridge.oracleClaimValidators other
  /-- The claim is recorded. -/
  claims : next.hasMadeClaim = writeAt bridge.hasMadeClaim prophecyID sender true
  /-- The validator set stays. -/
  sameSet : SameSet bridge.toValset next.toValset
  /-- The threshold stays. -/
  threshold : next.consensusThreshold = bridge.consensusThreshold
  /-- The contract stays set up. -/
  isInitialized : next.isInitialized = bridge.isInitialized
  /-- The prophecy is completed when the signed power reaches the threshold. -/
  completed : ∀ other, completions other next.events = completions other bridge.events +
    if prophecyID = other ∧ next.totalPower.toNat * next.consensusThreshold.toNat ≤
      (next.oracleClaimValidators prophecyID).toNat * 100 then 1 else 0

/-- `getProphecyThreshold` compares the signed power with the threshold. -/
theorem getProphecyThreshold_ok {bridge : CosmosBridge} {prophecyID : Word}
    {result : Bool × Word × Word} (computed : bridge.getProphecyThreshold prophecyID = .ok result) :
    result.1 = decide (bridge.totalPower.toNat * bridge.consensusThreshold.toNat ≤
      (bridge.oracleClaimValidators prophecyID).toNat * 100) := by
  simp only [CosmosBridge.getProphecyThreshold, Result.bind_ok, Result.pure_ok] at computed
  obtain ⟨threshold, product, current, scaled, rfl⟩ := computed
  change decide (threshold.toNat ≤ current.toNat) = _
  rw [SafeMath.mul_ok product, SafeMath.mul_ok scaled]
  rfl

/-- The announcement of a prophecy changes the log of the bridge only. -/
theorem announceProphecy_ok {world : World} {system next : BridgeSystem} {claim : ProphecyClaim}
    (announced : system.announceProphecy keccak256 world claim = .ok next) :
    Quiet system.bridge next.bridge ∧ SameSet system.bridge.toValset next.bridge.toValset := by
  simp only [BridgeSystem.announceProphecy, Result.bind_ok, Result.pure_ok] at announced
  obtain ⟨-, -, bank, -, rfl⟩ := announced
  exact ⟨⟨⟨rfl, rfl, rfl, rfl⟩, fun prophecyID => completions_append _ _ _⟩, rfl, rfl, rfl, rfl⟩

/-- The completion of a prophecy changes the log of the bridge only. -/
theorem completeProphecyClaim_ok {world : World} {system next : BridgeSystem}
    {claim : ProphecyClaim}
    (completed : system.completeProphecyClaim keccak256 world claim = .ok next) :
    SameClaims system.bridge next.bridge ∧ SameSet system.bridge.toValset next.bridge.toValset ∧
      ∀ other, completions other next.bridge.events = completions other system.bridge.events +
        if getProphecyID keccak256 claim = other then 1 else 0 := by
  simp only [BridgeSystem.completeProphecyClaim, Result.bind_ok, Result.pure_ok] at completed
  obtain ⟨-, -, bank, -, rfl⟩ := completed
  refine ⟨⟨rfl, rfl, rfl, rfl⟩, ⟨rfl, rfl, rfl, rfl⟩, fun other => ?_⟩
  rw [completions_append]
  simp only [completedID, Option.some.injEq]

/-- A claim as `newOracleClaim` records it. -/
structure Recorded (bridge next : CosmosBridge) (sender : Address) (prophecyID : Word) : Prop where
  /-- The sender had not claimed the prophecy. -/
  first : bridge.hasMadeClaim prophecyID sender = false
  /-- Its power is added to the signed power. -/
  signed : (next.oracleClaimValidators prophecyID).toNat =
    (bridge.oracleClaimValidators prophecyID).toNat + (bridge.getValidatorPower sender).toNat
  /-- The other signed powers stay. -/
  others : ∀ other, other ≠ prophecyID →
    next.oracleClaimValidators other = bridge.oracleClaimValidators other
  /-- The claim is recorded. -/
  claims : next.hasMadeClaim = writeAt bridge.hasMadeClaim prophecyID sender true
  /-- The validator set stays. -/
  sameSet : SameSet bridge.toValset next.toValset
  /-- The threshold stays. -/
  threshold : next.consensusThreshold = bridge.consensusThreshold
  /-- The contract stays set up. -/
  isInitialized : next.isInitialized = bridge.isInitialized
  /-- Nothing is completed yet. -/
  quiet : ∀ other, completions other next.events = completions other bridge.events

/-- `newOracleClaim` records the claim and tells whether the threshold is reached. -/
theorem newOracleClaim_ok {bridge : CosmosBridge} {prophecyID : Word} {sender : Address}
    {result : CosmosBridge × Bool}
    (claimed : bridge.newOracleClaim prophecyID sender = .ok result) :
    Recorded bridge result.1 sender prophecyID ∧
      result.2 = decide (result.1.totalPower.toNat * result.1.consensusThreshold.toNat ≤
        (result.1.oracleClaimValidators prophecyID).toNat * 100) := by
  simp only [CosmosBridge.newOracleClaim, Result.bind_ok, Result.pure_ok,
    Revertible.require_ok] at claimed
  obtain ⟨-, first, signedPower, sum, valid, threshold, rfl⟩ := claimed
  refine ⟨?_, getProphecyThreshold_ok threshold⟩
  constructor
  case first => exact first
  case signed => simp only [write_same, SafeMath.add_ok sum]
  case others => exact fun other different => write_other _ _ different
  case claims => rfl
  case sameSet => exact ⟨rfl, rfl, rfl, rfl⟩
  case threshold => rfl
  case isInitialized => rfl
  case quiet => exact fun other => completions_append _ _ _

/-- The end of `newProphecyClaim`: completion when the threshold is reached. -/
theorem completion_ok {world : World} {system next : BridgeSystem} {claim : ProphecyClaim}
    {complete : Bool}
    (ended : (if complete = true then system.completeProphecyClaim keccak256 world claim
      else pure system) = .ok next) :
    SameClaims system.bridge next.bridge ∧ SameSet system.bridge.toValset next.bridge.toValset ∧
      ∀ other, completions other next.bridge.events = completions other system.bridge.events +
        if getProphecyID keccak256 claim = other ∧ complete = true then 1 else 0 := by
  cases complete with
  | true => simpa only [and_true] using completeProphecyClaim_ok ended
  | false =>
    cases ended
    exact ⟨⟨rfl, rfl, rfl, rfl⟩, ⟨rfl, rfl, rfl, rfl⟩, fun other => by simp⟩

/-- `newProphecyClaim` records a claim of an active validator on a pending prophecy. -/
theorem newProphecyClaim_ok {world : World} {system next : BridgeSystem} {sender : Address}
    {claim : ProphecyClaim}
    (claimed : system.newProphecyClaim keccak256 world sender claim = .ok next) :
    Claimed system.bridge next.bridge sender (getProphecyID keccak256 claim) := by
  simp only [BridgeSystem.newProphecyClaim, Result.bind_ok, Revertible.require_ok] at claimed
  obtain ⟨-, active, threshold, read, -, pending, middle, opened, result, claimed, ended⟩ := claimed
  have announced : Quiet system.bridge middle.bridge ∧
      SameSet system.bridge.toValset middle.bridge.toValset := by
    split at opened
    · exact announceProphecy_ok opened
    · cases opened
      exact ⟨⟨⟨rfl, rfl, rfl, rfl⟩, fun _ => rfl⟩, ⟨rfl, rfl, rfl, rfl⟩⟩
  obtain ⟨quiet, sameSet⟩ := announced
  obtain ⟨recorded, reached⟩ := newOracleClaim_ok claimed
  obtain ⟨kept, keptSet, completed⟩ := completion_ok ended
  rw [getProphecyThreshold_ok read, decide_eq_false_iff_not, Nat.not_le] at pending
  have power : middle.bridge.getValidatorPower sender = system.bridge.getValidatorPower sender := by
    unfold Valset.getValidatorPower
    rw [sameSet.powers, sameSet.version]
  constructor
  case active => exact active
  case first => rw [← quiet.claims, recorded.first]
  case pending => exact pending
  case signed => rw [kept.signed, recorded.signed, quiet.signed, power]
  case others =>
    intro other different
    rw [kept.signed, recorded.others other different, quiet.signed]
  case claims => rw [kept.claims, recorded.claims, quiet.claims]
  case sameSet => exact (sameSet.trans recorded.sameSet).trans keptSet
  case threshold => rw [kept.threshold, recorded.threshold, quiet.threshold]
  case isInitialized => rw [kept.isInitialized, recorded.isInitialized, quiet.isInitialized]
  case completed =>
    intro other
    rw [completed other, recorded.quiet, quiet.quiet, kept.signed, kept.threshold, keptSet.total]
    simp only [reached, decide_eq_true_eq]

/-- The ways a call changes the bridge once it is set up. -/
inductive CallEffect (keccak256 : Bytes → Word) (bridge next : CosmosBridge) (call : Call) :
    Prop where
  /-- A call other than a claim. -/
  | quiet (quiet : Quiet bridge next)
    (effect : ValsetEffect bridge.toValset next.toValset call.action)
  /-- A claim. -/
  | claimed {claim : ProphecyClaim} (kind : call.action = .newProphecyClaim claim)
    (claimed : Claimed bridge next call.sender (getProphecyID keccak256 claim))

/-- A change of the validator set leaves the claims. -/
theorem withValset_ok {system next : BridgeSystem} {change : Revertible Valset} {action : Action}
    (changed : system.withBridge (system.bridge.withValset change) = .ok next)
    (described : ∀ valset, change = .ok valset → ValsetChange system.bridge.toValset valset action) :
    Quiet system.bridge next.bridge ∧
      ValsetEffect system.bridge.toValset next.bridge.toValset action := by
  simp only [BridgeSystem.withBridge, CosmosBridge.withValset, Result.bind_ok,
    Result.pure_ok] at changed
  obtain ⟨-, ⟨valset, done, rfl⟩, rfl⟩ := changed
  have change := described valset done
  exact ⟨⟨⟨rfl, rfl, rfl, rfl⟩, change.quiet⟩, change.effect⟩

/-- Every successful call of a contract that is set up has one of these effects. -/
theorem execute_effect {system next : BridgeSystem} {call : Call}
    (setUp : system.bridge.isInitialized = true)
    (executed : execute keccak256 system call = .ok next) :
    CallEffect keccak256 system.bridge next.bridge call := by
  unfold execute at executed
  cases kind : call.action with
  | initializeBridge operator consensusThreshold initValidators initPowers =>
    simp only [kind, BridgeSystem.withBridge, CosmosBridge.initializeBridge, setUp, Result.bind_ok,
      Revertible.require_ok] at executed
    obtain ⟨-, ⟨-, fresh, -⟩, -⟩ := executed
    cases fresh
  | changeOperator newOperator =>
    simp only [kind, BridgeSystem.withBridge, CosmosBridge.changeOperator, Result.bind_ok,
      Result.pure_ok] at executed
    obtain ⟨-, ⟨-, -, -, -, rfl⟩, rfl⟩ := executed
    exact .quiet ⟨⟨rfl, rfl, rfl, rfl⟩, fun _ => rfl⟩ (.kept ⟨rfl, rfl, rfl, rfl⟩)
  | setBridgeBank bridgeBank =>
    simp only [kind, BridgeSystem.withBridge, CosmosBridge.setBridgeBank, Result.bind_ok,
      Result.pure_ok] at executed
    obtain ⟨-, ⟨-, -, -, -, rfl⟩, rfl⟩ := executed
    exact .quiet ⟨⟨rfl, rfl, rfl, rfl⟩, fun _ => completions_append _ _ _⟩
      (.kept ⟨rfl, rfl, rfl, rfl⟩)
  | addValidator validator power =>
    rw [kind] at executed
    have change := withValset_ok executed fun _ => addValidator_ok
    exact .quiet change.1 (kind ▸ change.2)
  | updateValidatorPower validator power =>
    rw [kind] at executed
    have change := withValset_ok executed fun _ => updateValidatorPower_ok
    exact .quiet change.1 (kind ▸ change.2)
  | removeValidator validator =>
    rw [kind] at executed
    have change := withValset_ok executed fun _ => removeValidator_ok
    exact .quiet change.1 (kind ▸ change.2)
  | updateValset validators powers =>
    rw [kind] at executed
    have change := withValset_ok executed fun _ => updateValset_ok
    exact .quiet change.1 (kind ▸ change.2)
  | recoverGas version validator =>
    rw [kind] at executed
    have change := withValset_ok executed fun _ => recoverGas_ok
    exact .quiet change.1 (kind ▸ change.2)
  | newProphecyClaim claim =>
    rw [kind] at executed
    exact .claimed kind (newProphecyClaim_ok executed)
  | bank action =>
    simp only [kind, Result.bind_ok, Result.pure_ok] at executed
    obtain ⟨bank, -, rfl⟩ := executed
    exact .quiet ⟨⟨rfl, rfl, rfl, rfl⟩, fun _ => rfl⟩ (.kept ⟨rfl, rfl, rfl, rfl⟩)

end Akhira.Verif.Contracts
