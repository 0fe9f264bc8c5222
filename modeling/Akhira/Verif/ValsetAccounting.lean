import Akhira.Verif.BridgeQuorum

/-!
# The counters of the validator set

The contract keeps the number of validators and their total power in two counters beside the tables.
Each operation writes one validator and books a change of the counters. The books stay right as long
as what an operation takes off them is what the validator had before: nothing for a validator that
is added, and nothing for one whose storage is cleared.
-/
namespace Akhira.Verif.Contracts

open Akhira.Base Akhira.Contracts

/-- The calls of the operator. -/
inductive ValsetAction where
  | addValidator (validatorAddress : Address) (validatorPower : Word)
  | updateValidatorPower (validatorAddress : Address) (newValidatorPower : Word)
  | removeValidator (validatorAddress : Address)
  | updateValset (validators : List Address) (powers : List Word)
  | recoverGas (valsetVersion : Word) (validatorAddress : Address)

/-- A call with its sender. -/
structure ValsetCall where
  sender : Address
  action : ValsetAction

/-- Carry out a call. -/
def executeValset (valset : Valset) (call : ValsetCall) : Revertible Valset :=
  match call.action with
  | .addValidator validator power => valset.addValidator call.sender validator power
  | .updateValidatorPower validator power => valset.updateValidatorPower call.sender validator power
  | .removeValidator validator => valset.removeValidator call.sender validator
  | .updateValset validators powers => valset.updateValset call.sender validators powers
  | .recoverGas valsetVersion validator => valset.recoverGas call.sender valsetVersion validator

/-- The number of active validators. -/
def activeCount (valset : Valset) : Nat :=
  (Finset.univ.filter fun validator => valset.isActiveValidator validator = true).card

/-- The counters say how many validators are active and what power they have. -/
structure Accurate (valset : Valset) : Prop where
  count : valset.validatorCount.toNat = activeCount valset
  total : valset.totalPower.toNat = activeWeight valset

/-- A call that adds only addresses that are not active, each once, and clears the storage of
inactive addresses only. -/
def Clean (valset : Valset) (call : ValsetCall) : Prop :=
  match call.action with
  | .addValidator validator _ => valset.isActiveValidator validator = false
  | .updateValset validators _ => validators.Nodup
  | .recoverGas _ validator => valset.isActiveValidator validator = false
  | _ => True

/-- Whether a call is clean is decided by the state it meets. -/
instance (valset : Valset) : ∀ call, Decidable (Clean valset call)
  | ⟨_, .addValidator _ _⟩ => inferInstanceAs (Decidable (_ = _))
  | ⟨_, .updateValidatorPower _ _⟩ => inferInstanceAs (Decidable True)
  | ⟨_, .removeValidator _⟩ => inferInstanceAs (Decidable True)
  | ⟨_, .updateValset validators _⟩ => inferInstanceAs (Decidable validators.Nodup)
  | ⟨_, .recoverGas _ _⟩ => inferInstanceAs (Decidable (_ = _))

section Books

variable {valset next : Valset} {validator : Address} {power : Word}

/-- The number of active validators is the weight of one for each. -/
theorem activeCount_eq_weight (valset : Valset) :
    activeCount valset = weight valset.isActiveValidator fun _ => 1 := by
  rw [activeCount, Finset.card_filter]
  rfl

/-- One validator of the current version is written, and the counters gain what it has then and lose
what is charged. -/
structure Booked (valset next : Valset) (validator : Address) (active : Bool) (power : Word)
    (chargedCount chargedPower : Nat) : Prop where
  version : next.currentValsetVersion = valset.currentValsetVersion
  validators : next.validators =
    writeAt valset.validators validator valset.currentValsetVersion active
  powers : next.powers = writeAt valset.powers validator valset.currentValsetVersion power
  count : next.validatorCount.toNat + chargedCount =
    valset.validatorCount.toNat + if active = true then 1 else 0
  total : next.totalPower.toNat + chargedPower =
    valset.totalPower.toNat + if active = true then power.toNat else 0

namespace Booked

variable {active : Bool} {chargedCount chargedPower : Nat}
  (booked : Booked valset next validator active power chargedCount chargedPower)
include booked

/-- The others are active as before. -/
theorem isActive_other {other : Address} (different : other ≠ validator) :
    next.isActiveValidator other = valset.isActiveValidator other := by
  unfold Valset.isActiveValidator
  rw [booked.validators, booked.version, writeAt_first _ _ _ different]

/-- The validator is active as it was set. -/
theorem isActive_own : next.isActiveValidator validator = active := by
  unfold Valset.isActiveValidator
  rw [booked.validators, booked.version, writeAt_same]

/-- The number of active validators moves with the one that changes. -/
theorem activeCount_moved :
    activeCount next + contribution valset.isActiveValidator (fun _ => 1) validator =
      activeCount valset + if active = true then 1 else 0 := by
  have own : contribution next.isActiveValidator (fun _ => 1) validator =
      if active = true then 1 else 0 := by
    rw [contribution, booked.isActive_own]
  rw [activeCount_eq_weight, activeCount_eq_weight, ← own]
  apply weight_replace
  intro other different
  rw [contribution, contribution, booked.isActive_other different]

/-- The counters stay right just when the charge is what the validator had. -/
theorem accurate_iff (accurate : Accurate valset) :
    Accurate next ↔
      chargedCount = contribution valset.isActiveValidator (fun _ => 1) validator ∧
        chargedPower = contribution valset.isActiveValidator (powerOf valset) validator := by
  have counted := booked.activeCount_moved
  have weighed := PowersBounded.activeWeight_write booked.version booked.validators booked.powers
  have count := booked.count
  have total := booked.total
  have countBefore := accurate.count
  have totalBefore := accurate.total
  constructor
  · intro after
    have countAfter := after.count
    have totalAfter := after.total
    omega
  · rintro ⟨sameCount, samePower⟩
    constructor <;> omega

end Booked

/-- Without a charge the counters stay right just when the validator was not active. -/
theorem Booked.accurate_iff_inactive {active : Bool}
    (booked : Booked valset next validator active power 0 0) (accurate : Accurate valset) :
    Accurate next ↔ valset.isActiveValidator validator = false := by
  rw [booked.accurate_iff accurate, contribution, contribution]
  cases valset.isActiveValidator validator <;> simp

/-- The counters stay right when an active validator is charged with what it had. -/
theorem Booked.accurate_of_active {active : Bool}
    (booked : Booked valset next validator active power 1 (valset.getValidatorPower validator).toNat)
    (accurate : Accurate valset) (wasActive : valset.isActiveValidator validator = true) :
    Accurate next := by
  rw [booked.accurate_iff accurate, contribution, contribution, wasActive]
  exact ⟨rfl, rfl⟩

/-- The log has no part in the counters. -/
theorem accurate_events (valset : Valset) (events : List BridgeEvent) :
    Accurate { valset with events } ↔ Accurate valset :=
  ⟨fun right => ⟨right.count, right.total⟩, fun right => ⟨right.count, right.total⟩⟩

/-- Adding a validator is booked as new, whether or not it was active. -/
theorem addValidatorInternal_booked (added : valset.addValidatorInternal validator power = .ok next) :
    Booked valset next validator true power 0 0 := by
  simp only [Valset.addValidatorInternal, Result.bind_ok, Result.pure_ok] at added
  obtain ⟨count, counted, total, summed, rfl⟩ := added
  exact ⟨rfl, rfl, rfl, SafeMath.add_ok counted, SafeMath.add_ok summed⟩

/-- An update is booked in place of the old power. -/
theorem updateValidatorPower_booked {sender : Address}
    (updated : valset.updateValidatorPower sender validator power = .ok next) :
    valset.isActiveValidator validator = true ∧
      Booked valset next validator true power 1 (valset.getValidatorPower validator).toNat := by
  simp only [Valset.updateValidatorPower, Result.bind_ok, Result.pure_ok,
    Revertible.require_ok] at updated
  obtain ⟨-, -, -, active, rest, taken, total, summed, rfl⟩ := updated
  have before := SafeMath.sub_ok taken
  have after := SafeMath.add_ok summed
  have stored : valset.validators validator valset.currentValsetVersion = true := active
  refine ⟨active, rfl, (writeAt_eq_self stored).symm, rfl, rfl, ?_⟩
  rw [if_pos rfl, Valset.getValidatorPower]
  dsimp only
  omega

/-- A removal is booked as the end of the old power. -/
theorem removeValidator_booked {sender : Address}
    (removed : valset.removeValidator sender validator = .ok next) :
    valset.isActiveValidator validator = true ∧
      Booked valset next validator false 0 1 (valset.getValidatorPower validator).toNat := by
  simp only [Valset.removeValidator, Result.bind_ok, Result.pure_ok,
    Revertible.require_ok] at removed
  obtain ⟨-, -, -, active, count, counted, total, taken, rfl⟩ := removed
  have fewer : valset.validatorCount.toNat = 1 + count.toNat := SafeMath.sub_ok counted
  have weaker := SafeMath.sub_ok taken
  refine ⟨active, rfl, rfl, rfl, ?_, ?_⟩
  · rw [if_neg (by decide)]
    dsimp only
    omega
  · rw [if_neg (by decide), Valset.getValidatorPower]
    dsimp only
    omega

/-- Recovering gas ends a validator without booking it. -/
theorem recoverGas_booked {sender : Address} {valsetVersion : Word}
    (recovered : valset.recoverGas sender valsetVersion validator = .ok next) :
    Booked valset next validator false 0 0 0 := by
  simp only [Valset.recoverGas, Result.bind_ok, Result.pure_ok, Revertible.require_ok] at recovered
  obtain ⟨-, -, -, -, rfl⟩ := recovered
  exact ⟨rfl, rfl, rfl, rfl, rfl⟩

/-- The loop of a list without repetitions keeps the counters right, if nobody of it was active. -/
theorem addValidators_accurate {validators : List (Address × Word)} (accurate : Accurate valset)
    (inactive : ∀ entry ∈ validators, valset.isActiveValidator entry.1 = false)
    (distinct : (validators.map Prod.fst).Nodup)
    (added : valset.addValidators validators = .ok next) : Accurate next := by
  induction validators generalizing valset with
  | nil =>
    cases added
    exact accurate
  | cons entry rest ih =>
    rw [Valset.addValidators, Result.bind_ok] at added
    obtain ⟨middle, first, others⟩ := added
    have booked := addValidatorInternal_booked first
    rw [List.map_cons, List.nodup_cons] at distinct
    refine ih ((booked.accurate_iff_inactive accurate).mpr
      (inactive entry List.mem_cons_self)) ?_ distinct.2 others
    intro other later
    rw [booked.isActive_other]
    · exact inactive other (List.mem_cons_of_mem _ later)
    · intro same
      exact distinct.1 (same ▸ List.mem_map_of_mem later)

/-- The loop counts every entry. -/
theorem addValidators_count {validators : List (Address × Word)}
    (added : valset.addValidators validators = .ok next) :
    next.validatorCount.toNat = valset.validatorCount.toNat + validators.length := by
  induction validators generalizing valset with
  | nil =>
    cases added
    rfl
  | cons entry rest ih =>
    rw [Valset.addValidators, Result.bind_ok] at added
    obtain ⟨middle, first, others⟩ := added
    have one := (addValidatorInternal_booked first).count
    have all := ih others
    rw [if_pos rfl] at one
    rw [List.length_cons]
    omega

/-- The loop makes nobody active but the listed ones. -/
theorem addValidators_active {validators : List (Address × Word)}
    (added : valset.addValidators validators = .ok next)
    (active : next.isActiveValidator validator = true) :
    validator ∈ validators.map Prod.fst ∨ valset.isActiveValidator validator = true := by
  induction validators generalizing valset with
  | nil =>
    cases added
    exact .inr active
  | cons entry rest ih =>
    rw [Valset.addValidators, Result.bind_ok] at added
    obtain ⟨middle, first, others⟩ := added
    have booked := addValidatorInternal_booked first
    rw [List.map_cons, List.mem_cons]
    rcases ih others with later | earlier
    · exact .inl (.inr later)
    · by_cases same : validator = entry.1
      · exact .inl (.inl same)
      · rw [booked.isActive_other same] at earlier
        exact .inr earlier

/-- A new version is right just when nobody is listed twice. -/
theorem replaceValidators_accurate_iff {validators : List Address} {powers : List Word}
    (bounded : PowersBounded valset)
    (replaced : valset.replaceValidators validators powers = .ok next) :
    Accurate next ↔ validators.Nodup := by
  simp only [Valset.replaceValidators, Valset.resetValset, Result.bind_ok, Result.pure_ok,
    Revertible.require_ok] at replaced
  obtain ⟨-, lengths, fresh, ⟨version, later, rfl⟩, last, added, rfl⟩ := replaced
  have listed : (validators.zip powers).map Prod.fst = validators :=
    List.map_fst_zip lengths.le
  have nobody : ∀ other, valset.validators other version = false := by
    intro other
    have next := SafeMath.add_ok later
    apply bounded.fresh
    change version.toNat = valset.currentValsetVersion.toNat + 1 at next
    omega
  rw [accurate_events]
  constructor
  · intro accurate
    have count := addValidators_count added
    have active : activeCount last ≤ validators.toFinset.card := by
      apply Finset.card_le_card
      intro other member
      rw [List.mem_toFinset, ← listed]
      rcases addValidators_active added (Finset.mem_filter.mp member).2 with inside | before
      · exact inside
      · change valset.validators other version = true at before
        rw [nobody] at before
        cases before
    have length := congrArg List.length listed
    rw [List.length_map] at length
    change last.validatorCount.toNat = 0 + _ at count
    have right := accurate.count
    rw [← List.dedup_eq_self]
    apply (List.dedup_sublist validators).eq_of_length_le
    rw [← List.card_toFinset]
    omega
  · intro distinct
    refine addValidators_accurate ⟨?_, ?_⟩ ?_ (by rwa [listed]) added
    · symm
      rw [activeCount_eq_weight]
      exact weight_eq_zero nobody
    · exact (weight_eq_zero nobody).symm
    · exact fun entry _ => nobody entry.1

end Books

section Steps

variable {valset next : Valset} {call : ValsetCall}

/-- Every call keeps the total above the powers and later versions empty. -/
theorem executeValset_bounded (bounded : PowersBounded valset)
    (executed : executeValset valset call = .ok next) : PowersBounded next := by
  unfold executeValset at executed
  split at executed
  · exact bounded.change (addValidator_ok executed).effect
  · exact bounded.change (updateValidatorPower_ok executed).effect
  · exact bounded.change (removeValidator_ok executed).effect
  · exact bounded.change (updateValset_ok executed).effect
  · exact bounded.change (recoverGas_ok executed).effect

/-- A call that is carried out keeps right counters right just when it is clean. -/
theorem executeValset_accurate_iff (bounded : PowersBounded valset) (accurate : Accurate valset)
    (executed : executeValset valset call = .ok next) : Accurate next ↔ Clean valset call := by
  obtain ⟨sender, action⟩ := call
  cases action with
  | addValidator validator power =>
    simp only [executeValset, Valset.addValidator, Result.bind_ok] at executed
    obtain ⟨-, -, added⟩ := executed
    exact (addValidatorInternal_booked added).accurate_iff_inactive accurate
  | updateValidatorPower validator power =>
    obtain ⟨active, booked⟩ := updateValidatorPower_booked executed
    exact iff_of_true (booked.accurate_of_active accurate active) trivial
  | removeValidator validator =>
    obtain ⟨active, booked⟩ := removeValidator_booked executed
    exact iff_of_true (booked.accurate_of_active accurate active) trivial
  | updateValset validators powers =>
    simp only [executeValset, Valset.updateValset, Result.bind_ok] at executed
    obtain ⟨-, -, replaced⟩ := executed
    exact replaceValidators_accurate_iff bounded replaced
  | recoverGas valsetVersion validator =>
    exact (recoverGas_booked executed).accurate_iff_inactive accurate

end Steps

/-- A set-up with distinct validators makes the counters right. -/
theorem initializeValset_invariant {self operator : Address} {initValidators : List Address}
    {initPowers : List Word} {start : Valset}
    (setUp : (CosmosBridge.deployed self).toValset.initializeValset operator initValidators
      initPowers = .ok start)
    (distinct : initValidators.Nodup) : PowersBounded start ∧ Accurate start := by
  have blank : PowersBounded
      { (CosmosBridge.deployed self).toValset with operator, currentValsetVersion := 0 } :=
    ⟨(weight_eq_zero fun _ => rfl).le, fun _ _ _ => rfl⟩
  exact ⟨blank.replaced (replaceValidators_ok setUp),
    (replaceValidators_accurate_iff blank setUp).mpr distinct⟩

/-- After a set-up with distinct validators, the counters are right after every run of clean
calls. -/
theorem counters_accurate (self operator : Address) (initValidators : List Address)
    (initPowers : List Word) (start : Valset)
    (setUp : (CosmosBridge.deployed self).toValset.initializeValset operator initValidators
      initPowers = .ok start)
    (distinct : initValidators.Nodup) (calls : List ValsetCall)
    (clean : Meets executeValset Clean start calls) :
    Accurate (run executeValset start calls) := by
  have kept : ∀ valset call next, PowersBounded valset ∧ Accurate valset → Clean valset call →
      executeValset valset call = .ok next → PowersBounded next ∧ Accurate next :=
    fun _ _ _ holds isClean executed => ⟨executeValset_bounded holds.1 executed,
      (executeValset_accurate_iff holds.1 holds.2 executed).mpr isClean⟩
  exact (run_invariant kept (initializeValset_invariant setUp distinct) clean).2

section Sample

/-- Two validators of powers 40 and 30. -/
def pairValset : Valset :=
  match (CosmosBridge.deployed bridgeAddress).toValset.initializeValset operatorAddress [1, 2]
    [40, 30] with
  | .ok valset => valset
  | .error _ => (CosmosBridge.deployed bridgeAddress).toValset

/-- Two validators at the start. -/
theorem pairValset_ok :
    (CosmosBridge.deployed bridgeAddress).toValset.initializeValset operatorAddress [1, 2] [40, 30] =
      .ok pairValset := rfl

/-- A call of the operator. -/
def operatorCall (action : ValsetAction) : ValsetCall := ⟨operatorAddress, action⟩

/-- A validator is added, changed and removed, and the set is replaced and extended. -/
def cleanCalls : List ValsetCall :=
  [operatorCall (.addValidator 3 20), operatorCall (.updateValidatorPower 3 50),
    operatorCall (.removeValidator 1), operatorCall (.addValidator 1 5),
    operatorCall (.updateValset [4, 5] [7, 8]), operatorCall (.recoverGas 1 2),
    operatorCall (.addValidator 2 9)]

end Sample

/-- After clean calls the total and the count are those of the active validators. -/
theorem cleanCalls_accurate :
    (run executeValset pairValset cleanCalls).totalPower = 24 ∧
      (run executeValset pairValset cleanCalls).validatorCount = 3 ∧
      Accurate (run executeValset pairValset cleanCalls) :=
  ⟨by decide +kernel, by decide +kernel, counters_accurate bridgeAddress operatorAddress [1, 2]
    [40, 30] pairValset pairValset_ok (by decide) cleanCalls (by decide +kernel)⟩

/-- The storage of a former version is cleared in the current one, and a validator is added twice:
in both runs the counters say more than the two powers that are there. -/
theorem counters_drift :
    let cleared := run executeValset pairValset [operatorCall (.recoverGas 0 1)]
    let repeated := run executeValset pairValset [operatorCall (.addValidator 1 40)]
    (cleared.totalPower = 70 ∧ cleared.validatorCount = 2 ∧ cleared.isActiveValidator 1 = false) ∧
      (repeated.totalPower = 110 ∧ repeated.validatorCount = 3) ∧
      ¬ Accurate cleared ∧ ¬ Accurate repeated := by
  obtain ⟨bounded, start⟩ := initializeValset_invariant pairValset_ok (by decide)
  refine ⟨by decide +kernel, by decide +kernel, ?_, ?_⟩
  · intro accurate
    have clean := (@executeValset_accurate_iff _ _ (operatorCall (.recoverGas 0 1)) bounded start
      rfl).mp accurate
    exact Bool.noConfusion clean
  · intro accurate
    have clean := (@executeValset_accurate_iff _ _ (operatorCall (.addValidator 1 40)) bounded start
      rfl).mp accurate
    exact Bool.noConfusion clean

end Akhira.Verif.Contracts
