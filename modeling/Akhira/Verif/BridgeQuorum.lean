import Akhira.Base.Weight
import Akhira.Verif.BridgePayout

/-!
# The power behind a completed prophecy

A claim adds the power of its validator to the signed power once and for all, while the
threshold is taken from the current total power. The powers of the active validators
never add up to more than that total. So a prophecy is completed by active validators
with the required share of the power, unless the signed power counts validators that
have since been removed or have lost power.
-/
namespace Akhira.Verif.Contracts

open Akhira.Base Akhira.Contracts

variable {keccak256 : Bytes → Word} {valset next : Valset}

/-- The power of a validator as a number. -/
def powerOf (valset : Valset) (validator : Address) : Nat :=
  (valset.getValidatorPower validator).toNat

/-- The sum of the powers of all active validators. -/
def activeWeight (valset : Valset) : Nat := weight valset.isActiveValidator (powerOf valset)

/-- An active validator that has claimed a prophecy. -/
def isActiveClaimant (bridge : CosmosBridge) (prophecyID : Word) (validator : Address) : Bool :=
  bridge.isActiveValidator validator && bridge.hasMadeClaim prophecyID validator

/-- The sum of the powers of the active validators that have claimed a prophecy. -/
def claimedWeight (bridge : CosmosBridge) (prophecyID : Word) : Nat :=
  weight (isActiveClaimant bridge prophecyID) (powerOf bridge.toValset)

/-- The active claimants hold the required percentage of the power of all active validators. -/
def Backed (bridge : CosmosBridge) (prophecyID : Word) : Prop :=
  activeWeight bridge.toValset * bridge.consensusThreshold.toNat ≤
    claimedWeight bridge prophecyID * 100

/-- What the total power bounds. -/
structure PowersBounded (valset : Valset) : Prop where
  /-- The powers of the active validators add up to at most the total. -/
  bounded : activeWeight valset ≤ valset.totalPower.toNat
  /-- Later versions have no validators. -/
  fresh : ∀ validator version, valset.currentValsetVersion.toNat < version.toNat →
    valset.validators validator version = false

namespace PowersBounded

/-- Sets that agree are bounded together. -/
theorem same (bounded : PowersBounded valset) (same : SameSet valset next) :
    PowersBounded next := by
  have weights : activeWeight next = activeWeight valset := by
    unfold activeWeight powerOf Valset.isActiveValidator Valset.getValidatorPower
    rw [same.validators, same.powers, same.version]
  constructor
  · rw [weights, same.total]
    exact bounded.bounded
  · rw [same.validators, same.version]
    exact bounded.fresh

/-- Writing one validator of the current version moves the active power by its two shares. -/
theorem activeWeight_write {validator : Address} {active : Bool} {power : Word}
    (version : next.currentValsetVersion = valset.currentValsetVersion)
    (validators : next.validators =
      writeAt valset.validators validator valset.currentValsetVersion active)
    (powers : next.powers = writeAt valset.powers validator valset.currentValsetVersion power) :
    activeWeight next + contribution valset.isActiveValidator (powerOf valset) validator =
      activeWeight valset + if active = true then power.toNat else 0 := by
  have own : contribution next.isActiveValidator (powerOf next) validator =
      if active = true then power.toNat else 0 := by
    unfold contribution powerOf Valset.isActiveValidator Valset.getValidatorPower
    rw [validators, powers, version, writeAt_same, writeAt_same]
  rw [← own]
  apply weight_replace
  intro other different
  unfold contribution powerOf Valset.isActiveValidator Valset.getValidatorPower
  rw [validators, powers, version, writeAt_first _ _ _ different, writeAt_first _ _ _ different]

/-- Writing validators of the current version leaves later versions. -/
theorem fresh_write {validator : Address} {active : Bool} (bounded : PowersBounded valset)
    (version : next.currentValsetVersion = valset.currentValsetVersion)
    (validators : next.validators =
      writeAt valset.validators validator valset.currentValsetVersion active) :
    ∀ other later, next.currentValsetVersion.toNat < later.toNat →
      next.validators other later = false := by
  intro other later after
  rw [version] at after
  have different : later ≠ valset.currentValsetVersion := by
    intro same
    rw [same] at after
    omega
  rw [validators, writeAt_second _ _ _ different]
  exact bounded.fresh other later after

/-- Adding a validator keeps the bound; one that is there already is counted twice. -/
theorem grown {validator : Address} {power : Word} (bounded : PowersBounded valset)
    (grown : Grown valset next validator power) : PowersBounded next := by
  have moved := activeWeight_write grown.version grown.validators grown.powers
  have before := bounded.bounded
  have total := grown.total
  refine ⟨?_, bounded.fresh_write grown.version grown.validators⟩
  rw [if_pos rfl] at moved
  omega

/-- A restart keeps the bound, as the new version has no validators. -/
theorem restarted (bounded : PowersBounded valset) (restarted : Restarted valset next) :
    PowersBounded next := by
  have later := restarted.version
  constructor
  · have nobody : activeWeight next = 0 := by
      apply weight_eq_zero
      intro validator
      unfold Valset.isActiveValidator
      rw [restarted.validators]
      exact bounded.fresh validator _ (by omega)
    rw [nobody]
    exact Nat.zero_le _
  · intro validator version after
    rw [restarted.validators]
    exact bounded.fresh validator version (by omega)

/-- A new version with its validators keeps the bound. -/
theorem replaced {powers : List Word} (bounded : PowersBounded valset)
    (replaced : Replaced valset next powers) : PowersBounded next := by
  obtain ⟨fresh, last, validators, restarted, added, sameSet⟩ := replaced.added
  have reached : PowersBounded last :=
    addValidators_invariant (fun _ _ _ _ holds grown => holds.grown grown)
      (bounded.restarted restarted) added
  exact reached.same sameSet

/-- Every change of the validator set keeps the bound. -/
theorem change {action : Action} (bounded : PowersBounded valset)
    (effect : ValsetEffect valset next action) : PowersBounded next := by
  have before := bounded.bounded
  cases effect with
  | kept same => exact bounded.same same
  | added grown => exact bounded.grown grown
  | @updated validator power active total version validators powers =>
    have stored : valset.validators validator valset.currentValsetVersion = true := active
    have rewritten : next.validators =
        writeAt valset.validators validator valset.currentValsetVersion true := by
      rw [validators, writeAt_eq_self stored]
    have moved := activeWeight_write version rewritten powers
    have own : contribution valset.isActiveValidator (powerOf valset) validator =
        (valset.getValidatorPower validator).toNat := if_pos active
    refine ⟨?_, bounded.fresh_write version rewritten⟩
    rw [if_pos rfl] at moved
    omega
  | @removed validator active total version validators powers =>
    have moved := activeWeight_write version validators powers
    have own : contribution valset.isActiveValidator (powerOf valset) validator =
        (valset.getValidatorPower validator).toNat := if_pos active
    refine ⟨?_, bounded.fresh_write version validators⟩
    rw [if_neg (by decide)] at moved
    omega
  | replaced replaced => exact bounded.replaced replaced
  | recovered total version validators powers =>
    have moved := activeWeight_write version validators powers
    refine ⟨?_, bounded.fresh_write version validators⟩
    rw [if_neg (by decide)] at moved
    rw [total]
    omega

end PowersBounded

/-- What holds of the validator set in every state after the set-up. -/
structure WellSet (bridge : CosmosBridge) : Prop where
  /-- The contract is set up. -/
  setUp : bridge.isInitialized = true
  /-- The total power bounds the powers. -/
  bounded : PowersBounded bridge.toValset

/-- A contract that has just been set up is well set. -/
theorem WellSet.initialized {self operator : Address} {consensusThreshold : Word}
    {initValidators : List Address} {initPowers : List Word} {bridge : CosmosBridge}
    (setUp : (CosmosBridge.deployed self).initializeBridge operator consensusThreshold
      initValidators initPowers = .ok bridge) :
    WellSet bridge := by
  simp only [CosmosBridge.initializeBridge, Valset.initializeValset, Result.bind_ok,
    Result.pure_ok] at setUp
  obtain ⟨-, -, -, -, -, -, valset, replaced, rfl⟩ := setUp
  refine ⟨rfl, PowersBounded.replaced ⟨?_, fun _ _ _ => rfl⟩ (replaceValidators_ok replaced)⟩
  have nobody : activeWeight (CosmosBridge.deployed self).toValset = 0 :=
    weight_eq_zero fun _ => rfl
  exact nobody.le

/-- Every call keeps the contract well set. -/
theorem wellSet_step {system next : BridgeSystem} {call : Call} (wellSet : WellSet system.bridge)
    (executed : execute keccak256 system call = .ok next) : WellSet next.bridge := by
  cases execute_effect wellSet.setUp executed with
  | quiet quiet effect =>
    exact ⟨quiet.isInitialized.trans wellSet.setUp, wellSet.bounded.change effect⟩
  | claimed kind claimed =>
    exact ⟨claimed.isInitialized.trans wellSet.setUp, wellSet.bounded.same claimed.sameSet⟩

/-- A claim meets active power only: the signed power of its prophecy is not more than what its
active claimants hold now. -/
def SignedIsActive (keccak256 : Bytes → Word) (system : BridgeSystem) (call : Call) : Prop :=
  ∀ claim, call.action = .newProphecyClaim claim →
    (system.bridge.oracleClaimValidators (getProphecyID keccak256 claim)).toNat ≤
      claimedWeight system.bridge (getProphecyID keccak256 claim)

/-- A claim adds the power of its validator to the power of the active claimants. -/
theorem claimedWeight_claimed {bridge next : CosmosBridge} {sender : Address} {prophecyID : Word}
    (claimed : Claimed bridge next sender prophecyID) :
    claimedWeight next prophecyID = claimedWeight bridge prophecyID +
      (bridge.getValidatorPower sender).toNat := by
  have sameActive : next.isActiveValidator = bridge.isActiveValidator := by
    unfold Valset.isActiveValidator
    rw [claimed.sameSet.validators, claimed.sameSet.version]
  have samePower : powerOf next.toValset = powerOf bridge.toValset := by
    unfold powerOf Valset.getValidatorPower
    rw [claimed.sameSet.powers, claimed.sameSet.version]
  have moved : claimedWeight next prophecyID +
      contribution (isActiveClaimant bridge prophecyID) (powerOf bridge.toValset) sender =
      claimedWeight bridge prophecyID +
        contribution (isActiveClaimant next prophecyID) (powerOf next.toValset) sender := by
    apply weight_replace
    intro other different
    unfold contribution isActiveClaimant
    rw [sameActive, samePower, claimed.claims, writeAt_second _ _ _ different]
  have before : contribution (isActiveClaimant bridge prophecyID) (powerOf bridge.toValset)
      sender = 0 := by
    unfold contribution isActiveClaimant
    rw [claimed.first, Bool.and_false]
    rfl
  have after : contribution (isActiveClaimant next prophecyID) (powerOf next.toValset) sender =
      (bridge.getValidatorPower sender).toNat := by
    unfold contribution isActiveClaimant
    rw [sameActive, samePower, claimed.claims, writeAt_same, claimed.active]
    rfl
  omega

/-- A claim that completes a prophecy on active power only leaves it backed. -/
theorem backed_of_completed {bridge next : CosmosBridge} {sender : Address}
    {prophecyID other : Word} (bounded : PowersBounded bridge.toValset)
    (claimed : Claimed bridge next sender prophecyID)
    (signed : (bridge.oracleClaimValidators prophecyID).toNat ≤ claimedWeight bridge prophecyID)
    (completed : completions other bridge.events < completions other next.events) :
    Backed next other := by
  rw [claimed.completed] at completed
  split at completed
  · next reached =>
    obtain ⟨rfl, reached⟩ := reached
    have active := (bounded.same claimed.sameSet).bounded
    have power := claimedWeight_claimed claimed
    have sum := claimed.signed
    calc activeWeight next.toValset * next.consensusThreshold.toNat
        ≤ next.totalPower.toNat * next.consensusThreshold.toNat := Nat.mul_le_mul_right _ active
      _ ≤ (next.oracleClaimValidators prophecyID).toNat * 100 := reached
      _ ≤ claimedWeight next prophecyID * 100 := Nat.mul_le_mul_right _ (by omega)
  · omega

/-- In every run of a contract that has just been set up, a call that completes a prophecy and
meets active power only leaves the prophecy backed by active validators. -/
theorem completion_backed (keccak256 : Bytes → Word) (self operator : Address)
    (consensusThreshold : Word) (initValidators : List Address) (initPowers : List Word)
    (start : BridgeSystem)
    (setUp : (CosmosBridge.deployed self).initializeBridge operator consensusThreshold
      initValidators initPowers = .ok start.bridge)
    (calls : List Call) (call : Call) (prophecyID : Word)
    (signed : SignedIsActive keccak256 (run (execute keccak256) start calls) call)
    (completed :
      completions prophecyID (run (execute keccak256) start calls).bridge.events <
        completions prophecyID (run (execute keccak256) start (calls ++ [call])).bridge.events) :
    Backed (run (execute keccak256) start (calls ++ [call])).bridge prophecyID := by
  have always : Meets (execute keccak256) (fun _ _ => True) start calls :=
    meets_of_forall (fun _ _ => trivial) start calls
  have wellSet : WellSet (run (execute keccak256) start calls).bridge := by
    have kept : ∀ system message next, WellSet system.bridge → True →
        execute keccak256 system message = .ok next → WellSet next.bridge :=
      fun _ _ _ holds _ => wellSet_step holds
    exact run_invariant kept (WellSet.initialized setUp) always
  rw [run_append] at completed ⊢
  generalize run (execute keccak256) start calls = before at *
  change completions prophecyID before.bridge.events <
    completions prophecyID (attempt (execute keccak256) before call).bridge.events at completed
  change Backed (attempt (execute keccak256) before call).bridge prophecyID
  rcases @attempt_cases _ _ _ (execute keccak256) before call with same | ⟨next, executed, same⟩
  · rw [same] at completed
    omega
  · rw [same] at completed ⊢
    cases execute_effect wellSet.setUp executed with
    | quiet quiet effect =>
      rw [quiet.quiet] at completed
      omega
    | claimed kind claimed =>
      exact backed_of_completed wellSet.bounded claimed (signed _ kind) completed

/-- The set-up of a bridge with a threshold of 70 percent and validators of powers 40, 30, 30. -/
def threeSetUp : Revertible CosmosBridge :=
  (CosmosBridge.deployed bridgeAddress).initializeBridge operatorAddress 70 [1, 2, 3] [40, 30, 30]

/-- The bridge after that set-up. -/
def threeValidators : BridgeSystem :=
  { deployedSystem with
    bridge := match threeSetUp with
      | .ok bridge => bridge
      | .error _ => CosmosBridge.deployed bridgeAddress }

/-- The set-up succeeds. -/
theorem threeSetUp_ok : threeSetUp = .ok threeValidators.bridge := rfl

/-- The bank is set and the first validator claims. -/
def firstClaim : List Call :=
  [callBy operatorAddress (.setBridgeBank bankAddress), callBy 1 (.newProphecyClaim etherClaim)]

/-- The second validator claims. -/
def secondClaim : Call := callBy 2 (.newProphecyClaim etherClaim)

/-- After the first claim the signed power is what the active claimant holds. -/
theorem secondClaim_signed :
    SignedIsActive etherHash (run (execute etherHash) threeValidators firstClaim) secondClaim := by
  intro claim kind
  obtain rfl : etherClaim = claim := Action.newProphecyClaim.inj kind
  refine le_trans ?_ (sum_contribution_le_weight {1})
  decide +kernel

/-- The second claim completes the withdrawal with 70 of 100 behind it. -/
theorem ether_backed :
    Backed (run (execute etherHash) threeValidators (firstClaim ++ [secondClaim])).bridge
      (getProphecyID etherHash etherClaim) :=
  completion_backed etherHash bridgeAddress operatorAddress 70 [1, 2, 3] [40, 30, 30]
    threeValidators threeSetUp_ok firstClaim secondClaim (getProphecyID etherHash etherClaim)
    secondClaim_signed (by decide +kernel)

/-- The first validator claims and is removed. -/
def removedCalls : List Call :=
  firstClaim ++ [callBy operatorAddress (.removeValidator 1)]

/-- The second claim then completes the withdrawal with 30 of 60 behind it. -/
theorem ether_unbacked :
    threeSetUp = .ok threeValidators.bridge ∧
      completions (getProphecyID etherHash etherClaim)
        (run (execute etherHash) threeValidators removedCalls).bridge.events = 0 ∧
      completions (getProphecyID etherHash etherClaim)
        (run (execute etherHash) threeValidators (removedCalls ++ [secondClaim])).bridge.events =
          1 ∧
      ¬ Backed (run (execute etherHash) threeValidators (removedCalls ++ [secondClaim])).bridge
        (getProphecyID etherHash etherClaim) := by
  refine ⟨threeSetUp_ok, by decide +kernel, by decide +kernel, ?_⟩
  let bridge := (run (execute etherHash) threeValidators (removedCalls ++ [secondClaim])).bridge
  let prophecyID := getProphecyID etherHash etherClaim
  have claimed : claimedWeight bridge prophecyID = 30 := by
    have claims : ∀ validator, bridge.hasMadeClaim prophecyID validator =
        writeAt (writeAt (fun _ _ => false) prophecyID 1 true) prophecyID 2 true prophecyID
          validator := fun _ => rfl
    have among : ∀ validator, isActiveClaimant bridge prophecyID validator = true →
        validator ∈ ({1, 2} : Finset Address) := by
      intro validator claimant
      rw [isActiveClaimant, Bool.and_eq_true, claims] at claimant
      by_contra outside
      rw [Finset.mem_insert, Finset.mem_singleton, not_or] at outside
      rw [writeAt_second _ _ _ outside.2, writeAt_second _ _ _ outside.1] at claimant
      exact Bool.noConfusion claimant.2
    rw [claimedWeight, weight_eq_sum _ among]
    decide +kernel
  have active : 60 ≤ activeWeight bridge.toValset := by
    calc 60 = ∑ validator ∈ {2, 3}, contribution bridge.isActiveValidator
            (powerOf bridge.toValset) validator := by decide +kernel
      _ ≤ activeWeight bridge.toValset := sum_contribution_le_weight {2, 3}
  have threshold : bridge.consensusThreshold.toNat = 70 := by decide +kernel
  intro backed
  change activeWeight bridge.toValset * bridge.consensusThreshold.toNat ≤
    claimedWeight bridge prophecyID * 100 at backed
  rw [claimed, threshold] at backed
  omega

end Akhira.Verif.Contracts
