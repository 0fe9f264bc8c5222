import Akhira.Base.Ballot
import Akhira.Oracle.Keeper

/-!
# What `FindHighestClaim` finds

The loop adds up the power of every content and keeps the first content it visits that
has the highest one. Powers are looked up by address text; since no operator is listed
twice, the lookup finds the power of the validator itself.
-/
namespace Akhira.Verif.Oracle

open Akhira.Base Akhira.Sdk Akhira.Oracle

variable {env : Environment} {codec : ValCodec} {staking : Staking}

/-- The power of an address among the bonded validators. -/
def powerOf (staking : Staking) (address : ValAddress) : Nat :=
  match staking.bondedValidators.find? fun validator => validator.operator = address with
  | some validator => validator.getConsensusPower
  | none => 0

/-- The power of the listed claimants of a content. -/
def listedPower (staking : Staking) (addresses : List ValAddress) : Nat :=
  (addresses.map (powerOf staking)).sum

/-- The power of the white-listed bonded validators. -/
def eligiblePower (staking : Staking) (whiteList : List ValAddress) : Nat :=
  ((staking.bondedValidators.filter fun validator => inWhiteList validator whiteList).map
    Validator.getConsensusPower).sum

/-- The power of the white-listed bonded validators among some addresses. -/
def agreedPower (staking : Staking) (whiteList addresses : List ValAddress) : Nat :=
  ((staking.bondedValidators.filter fun validator =>
    inWhiteList validator whiteList && decide (validator.operator ∈ addresses)).map
      Validator.getConsensusPower).sum

/-- A validator is on the white list by its operator address. -/
theorem inWhiteList_iff {validator : Validator} {whiteList : List ValAddress} :
    inWhiteList validator whiteList = true ↔ validator.operator ∈ whiteList := by
  have same : ∀ address : ValAddress,
      validator.operator.bytes = address.bytes ↔ validator.operator = address := by
    intro address
    cases address
    cases validator.operator
    simp
  simp only [inWhiteList, List.any_eq_true, decide_eq_true_eq, same]
  exact ⟨fun ⟨address, listed, found⟩ => found ▸ listed, fun listed => ⟨_, listed, rfl⟩⟩

section Lookup

/-- Looking a text up after more validators are stored finds the last of that operator. -/
theorem get_foldl_set (validators : List Validator) (store : Store String Validator)
    (address : ValAddress) (distinct : (validators.map Validator.operator).Nodup) :
    (validators.foldl (fun store validator => store.set (codec.text validator.operator) validator)
      store).get (codec.text address) =
        (validators.find? fun validator => validator.operator = address).or
          (store.get (codec.text address)) := by
  induction validators generalizing store with
  | nil => rfl
  | cons validator validators ih =>
    rw [List.map_cons, List.nodup_cons] at distinct
    rw [List.foldl_cons, ih _ distinct.2]
    by_cases same : validator.operator = address
    · have absent : validators.find? (fun validator => validator.operator = address) = none := by
        rw [List.find?_eq_none]
        intro other listed found
        rw [decide_eq_true_eq] at found
        exact distinct.1 (List.mem_map.mpr ⟨other, listed, found.trans same.symm⟩)
      rw [absent, same, Store.get_set_same, List.find?_cons_of_pos (by simpa using same)]
      rfl
    · have different : codec.text address ≠ codec.text validator.operator :=
        fun clash => same (codec.text_injective clash).symm
      rw [Store.get_set_other _ _ different, List.find?_cons_of_neg (by simpa using same)]

/-- The power of a claimant is that of the bonded validator of its address. -/
theorem claimantPower_eq (address : ValAddress) :
    claimantPower codec (validatorsByAddress codec staking.bondedValidators) (some address) =
      powerOf staking address := by
  unfold claimantPower validatorsByAddress powerOf
  rw [ValCodec.listedText, get_foldl_set _ _ _ staking.distinct, Store.get_empty, Option.or_none]
  cases staking.bondedValidators.find? fun validator => validator.operator = address <;> rfl

/-- No validator is found under the empty text. -/
theorem claimantPower_none :
    claimantPower codec (validatorsByAddress codec staking.bondedValidators) none = 0 := by
  have unfound : ∀ (validators : List Validator) (store : Store String Validator),
      (validators.foldl (fun store validator => store.set (codec.text validator.operator) validator)
        store).get "" = store.get "" := by
    intro validators
    induction validators with
    | nil => exact fun _ => rfl
    | cons validator validators ih =>
      intro store
      rw [List.foldl_cons, ih]
      exact Store.get_set_other _ _ (codec.text_ne_empty _).symm
  unfold claimantPower validatorsByAddress
  rw [ValCodec.listedText, unfound, Store.get_empty]

/-- A bonded validator has its own power. -/
theorem powerOf_operator {validator : Validator} (listed : validator ∈ staking.bondedValidators) :
    powerOf staking validator.operator = validator.getConsensusPower := by
  unfold powerOf
  cases found : staking.bondedValidators.find?
      fun other => other.operator = validator.operator with
  | none =>
    have absent := List.find?_eq_none.mp found validator listed
    exact absurd (decide_eq_true rfl) absent
  | some other =>
    have same := List.find?_some found
    rw [decide_eq_true_eq] at same
    have unique := List.inj_on_of_nodup_map staking.distinct (List.mem_of_find?_eq_some found)
      listed same
    rw [unique]

end Lookup

section Sums

/-- The operators of the bonded validators. -/
def operators (staking : Staking) : Finset ValAddress :=
  (staking.bondedValidators.map Validator.operator).toFinset

/-- Whoever has power is bonded. -/
theorem mem_operators_of_power {address : ValAddress} (power : powerOf staking address ≠ 0) :
    ∃ validator ∈ staking.bondedValidators, validator.operator = address := by
  unfold powerOf at power
  split at power
  · next validator found =>
    have same := List.find?_some found
    rw [decide_eq_true_eq] at same
    exact ⟨validator, List.mem_of_find?_eq_some found, same⟩
  · exact absurd rfl power

/-- The power of the bonded validators of a class, as a sum over their operators. -/
theorem sum_bonded (inClass : ValAddress → Bool) :
    ((staking.bondedValidators.filter fun validator => inClass validator.operator).map
      Validator.getConsensusPower).sum =
        ∑ address ∈ (operators staking).filter (fun address => inClass address = true),
          powerOf staking address := by
  have byOperator : (staking.bondedValidators.filter fun validator =>
        inClass validator.operator).map Validator.getConsensusPower =
      ((staking.bondedValidators.map Validator.operator).filter inClass).map
        (powerOf staking) := by
    rw [List.filter_map, List.map_map]
    apply List.map_congr_left
    intro validator listed
    exact (powerOf_operator (List.mem_of_mem_filter listed)).symm
  have distinct := staking.distinct.filter inClass
  rw [byOperator, ← List.sum_toFinset _ distinct, List.toFinset_filter]
  rfl

/-- The power of distinct addresses is the sum of their powers. -/
theorem listedPower_eq_sum {addresses : List ValAddress} (distinct : addresses.Nodup) :
    listedPower staking addresses = ∑ address ∈ addresses.toFinset, powerOf staking address :=
  (List.sum_toFinset _ distinct).symm

/-- Distinct addresses hold at most the power of a class that has every one of them with power. -/
theorem listedPower_le_class {addresses : List ValAddress} (distinct : addresses.Nodup)
    {inClass : ValAddress → Bool}
    (inside : ∀ address ∈ addresses, powerOf staking address ≠ 0 → inClass address = true) :
    listedPower staking addresses ≤
      ((staking.bondedValidators.filter fun validator => inClass validator.operator).map
        Validator.getConsensusPower).sum := by
  rw [sum_bonded, listedPower_eq_sum distinct]
  apply Finset.sum_le_sum_of_ne_zero
  intro address listed power
  obtain ⟨validator, bonded, rfl⟩ := mem_operators_of_power power
  rw [Finset.mem_filter, operators, List.mem_toFinset]
  exact ⟨List.mem_map_of_mem bonded, inside _ (List.mem_toFinset.mp listed) power⟩

variable {whiteList addresses : List ValAddress}

/-- Distinct white-listed addresses hold at most the eligible power. -/
theorem listedPower_le_eligible (distinct : addresses.Nodup)
    (inside : ∀ address ∈ addresses, powerOf staking address ≠ 0 → address ∈ whiteList) :
    listedPower staking addresses ≤ eligiblePower staking whiteList := by
  have bounded := listedPower_le_class distinct
    (fun address listed power => decide_eq_true (inside address listed power))
  have class_eq : eligiblePower staking whiteList =
      ((staking.bondedValidators.filter fun validator => decide (validator.operator ∈ whiteList)).map
        Validator.getConsensusPower).sum := by
    unfold eligiblePower
    congr 2
    apply List.filter_congr
    intro validator _
    rw [Bool.eq_iff_iff, inWhiteList_iff, decide_eq_true_eq]
  rw [class_eq]
  exact bounded

/-- Addresses that include every white-listed bonded validator hold the eligible power. -/
theorem eligiblePower_le_listed (distinct : addresses.Nodup)
    (everybody : ∀ bonded ∈ staking.bondedValidators, bonded.operator ∈ whiteList →
      bonded.operator ∈ addresses) :
    eligiblePower staking whiteList ≤ listedPower staking addresses := by
  let eligible := (staking.bondedValidators.filter fun bonded =>
    inWhiteList bonded whiteList).map Validator.operator
  have byOperator : eligiblePower staking whiteList = listedPower staking eligible := by
    unfold eligiblePower listedPower
    rw [List.map_map]
    congr 1
    apply List.map_congr_left
    intro bonded listed
    exact (powerOf_operator (List.mem_of_mem_filter listed)).symm
  have once : eligible.Nodup := staking.distinct.sublist (List.filter_sublist.map _)
  rw [byOperator, listedPower_eq_sum once, listedPower_eq_sum distinct]
  apply Finset.sum_le_sum_of_subset
  intro address listed
  rw [List.mem_toFinset] at listed ⊢
  obtain ⟨bonded, kept, rfl⟩ := List.mem_map.mp listed
  obtain ⟨member, inside⟩ := List.mem_filter.mp kept
  exact everybody bonded member (inWhiteList_iff.mp inside)

/-- Distinct white-listed addresses hold at most the power that agrees. -/
theorem listedPower_le_agreed (distinct : addresses.Nodup)
    (inside : ∀ address ∈ addresses, powerOf staking address ≠ 0 → address ∈ whiteList) :
    listedPower staking addresses ≤ agreedPower staking whiteList addresses := by
  have bounded := listedPower_le_class distinct (fun address listed power =>
    decide_eq_true (And.intro (inside address listed power) listed))
  have class_eq : agreedPower staking whiteList addresses =
      ((staking.bondedValidators.filter fun validator =>
        decide (validator.operator ∈ whiteList ∧ validator.operator ∈ addresses)).map
          Validator.getConsensusPower).sum := by
    unfold agreedPower
    congr 2
    apply List.filter_congr
    intro validator _
    rw [Bool.eq_iff_iff, Bool.and_eq_true, inWhiteList_iff, decide_eq_true_eq, decide_eq_true_eq]
  rw [class_eq]
  exact bounded

end Sums

section Loop

/-- What the loop has found after some entries. -/
structure Found (power : List (Option ValAddress) → Int) (start : Highest)
    (entries : List (String × List (Option ValAddress))) (found : Highest) : Prop where
  total : found.totalClaims = start.totalClaims + (entries.map fun entry => power entry.2).sum
  highest : ∀ entry ∈ entries, power entry.2 ≤ found.power
  grown : start.power ≤ found.power
  /-- Nothing was higher than at the start, or an entry was. -/
  claim : found.claim = start.claim ∧ found.power = start.power ∨
    ∃ entry ∈ entries, start.power < power entry.2 ∧ found.claim = entry.1 ∧
      found.power = power entry.2

/-- The loop over the contents finds the one of most power. -/
theorem foldl_visit (power : List (Option ValAddress) → Int) (start : Highest)
    (entries : List (String × List (Option ValAddress))) :
    Found power start entries (entries.foldl (Highest.visit power) start) := by
  induction entries generalizing start with
  | nil => exact ⟨by simp, by simp, Int.le_refl _, .inl ⟨rfl, rfl⟩⟩
  | cons entry entries ih =>
    have rest := ih (start.visit power entry)
    have sum : (start.visit power entry).totalClaims = start.totalClaims + power entry.2 := by
      unfold Highest.visit
      dsimp only
      split <;> rfl
    have total : (entries.foldl (Highest.visit power) (start.visit power entry)).totalClaims =
        start.totalClaims + ((entry :: entries).map fun entry => power entry.2).sum := by
      rw [rest.total, sum, List.map_cons, List.sum_cons, Int.add_assoc]
    rw [List.foldl_cons]
    by_cases higher : start.power < power entry.2
    · -- the entry is the highest so far, and later entries are compared with it
      have visited : start.visit power entry =
          ⟨entry.1, power entry.2, start.totalClaims + power entry.2⟩ := if_pos higher
      rw [visited] at rest total ⊢
      refine ⟨total, ?_, Int.le_of_lt (lt_of_lt_of_le higher rest.grown), ?_⟩
      · intro other member
        rcases List.mem_cons.mp member with rfl | later
        · exact rest.grown
        · exact rest.highest other later
      · rcases rest.claim with ⟨claim, found⟩ | ⟨later, member, above, claim, found⟩
        · exact .inr ⟨entry, List.mem_cons_self, higher, claim, found⟩
        · exact .inr ⟨later, List.mem_cons_of_mem _ member, higher.trans above, claim, found⟩
    · have visited : start.visit power entry =
          { start with totalClaims := start.totalClaims + power entry.2 } := if_neg higher
      rw [visited] at rest total ⊢
      refine ⟨total, ?_, rest.grown, ?_⟩
      · intro other member
        rcases List.mem_cons.mp member with rfl | later
        · exact (Int.not_lt.mp higher).trans rest.grown
        · exact rest.highest other later
      · rcases rest.claim with same | ⟨later, member, above, claim, found⟩
        · exact .inl same
        · exact .inr ⟨later, List.mem_cons_of_mem _ member, above, claim, found⟩

end Loop

variable {order : MapOrder} {prophecy : Prophecy} {whiteList : List ValAddress}

/-- The total power is that of the bonded validators on the white list. -/
theorem findHighestClaim_total :
    (prophecy.findHighestClaim codec staking order whiteList).2 =
      eligiblePower staking whiteList := by
  unfold Prophecy.findHighestClaim eligiblePower
  rw [Nat.cast_list_sum, List.map_map]
  rfl

/-- The empty addresses of a list count nothing. -/
theorem claimPower_eq (addresses : List (Option ValAddress)) :
    (addresses.map (claimantPower codec
      (validatorsByAddress codec staking.bondedValidators))).sum =
        listedPower staking addresses.reduceOption := by
  induction addresses with
  | nil => rfl
  | cons address addresses ih =>
    rw [List.map_cons, List.sum_cons, ih]
    cases address with
    | none => rw [claimantPower_none, Int.zero_add, List.reduceOption_cons_of_none]
    | some address =>
      rw [claimantPower_eq, List.reduceOption_cons_of_some, listedPower, listedPower,
        List.map_cons, List.sum_cons, Nat.cast_add]

/-- The loop runs over all contents, in the order of the node. -/
theorem findHighestClaim_eq :
    (prophecy.findHighestClaim codec staking order whiteList).1 =
      (order.enumerate prophecy.claimValidators.entries).foldl
        (Highest.visit fun addresses => listedPower staking addresses.reduceOption)
          ⟨"", -1, 0⟩ := by
  have loops : (fun addresses : List (Option ValAddress) => (addresses.map (claimantPower codec
      (validatorsByAddress codec staking.bondedValidators))).sum) =
        fun addresses => (listedPower staking addresses.reduceOption : Int) :=
    funext claimPower_eq
  unfold Prophecy.findHighestClaim
  dsimp only
  rw [loops]

/-- The highest claim has the most power of all contents, and all powers are added up. -/
theorem findHighestClaim_found :
    Found (fun addresses => listedPower staking addresses.reduceOption) ⟨"", -1, 0⟩
      (order.enumerate prophecy.claimValidators.entries)
      (prophecy.findHighestClaim codec staking order whiteList).1 := by
  rw [findHighestClaim_eq]
  exact foldl_visit _ _ _

end Akhira.Verif.Oracle
