import Akhira.Network.Chains
import Akhira.Verif.BridgeTally
import Akhira.Verif.Withdrawals

/-!
# Payouts on Ethereum

Some validators claim only what their relayer makes of an executed withdrawal. While the others
have less power than a completion takes and the validator set stays, every completed prophecy is
one that an honest validator has claimed. Unless its id is also that of another claim, it is then
an executed withdrawal, and what the bank unlocks has been withdrawn before.
-/
namespace Akhira.Verif.Network

open Akhira.Base Akhira.Contracts Akhira.EthBridge Akhira.Relayer Akhira.Network
open Akhira.Verif.Contracts Akhira.Verif.EthBridge

variable {keccak256 : Bytes → Word} {env : Environment} {relayer : Parser}
  {honest : Address → Bool} {system next : BridgeSystem} {receipts : List Receipt}

/-- The claims that a relayer makes of executed messages. -/
def executedClaims (relayer : Parser) (receipts : List Receipt) : List ProphecyClaim :=
  receipts.flatMap (claimsOf relayer)

/-- A call that leaves the validator set, claims what has been executed if its sender is honest,
and does not claim anything else under the id of an executed withdrawal. -/
structure AdmitsCall (keccak256 : Bytes → Word) (relayer : Parser) (honest : Address → Bool)
    (receipts : List Receipt) (call : Call) : Prop where
  steady : leavesValidators call.action = true
  honestly : ∀ claim ∈ claimMade call.action, honest call.sender = true →
    claim ∈ executedClaims relayer receipts
  distinct : ∀ claim ∈ claimMade call.action, ∀ other ∈ executedClaims relayer receipts,
    getProphecyID keccak256 other = getProphecyID keccak256 claim → other = claim

/-- Whether a call is admitted is decided over the executed claims. -/
instance (keccak256 : Bytes → Word) (relayer : Parser) (honest : Address → Bool)
    (receipts : List Receipt) (call : Call) :
    Decidable (AdmitsCall keccak256 relayer honest receipts call) :=
  decidable_of_iff
    (leavesValidators call.action = true ∧
      (∀ claim ∈ claimMade call.action, honest call.sender = true →
        claim ∈ executedClaims relayer receipts) ∧
      ∀ claim ∈ claimMade call.action, ∀ other ∈ executedClaims relayer receipts,
        getProphecyID keccak256 other = getProphecyID keccak256 claim → other = claim)
    (Iff.intro (fun all => ⟨all.1, all.2.1, all.2.2⟩)
      fun admits => ⟨admits.steady, admits.honestly, admits.distinct⟩)

/-- The power of the active validators that are not honest. -/
def dishonestWeight (honest : Address → Bool) (valset : Valset) : Nat :=
  weight (fun validator => valset.isActiveValidator validator && !honest validator)
    (powerOf valset)

/-- The other validators cannot complete a prophecy. -/
def Guarded (honest : Address → Bool) (bridge : CosmosBridge) : Prop :=
  dishonestWeight honest bridge.toValset * 100 <
    bridge.totalPower.toNat * bridge.consensusThreshold.toNat

section Weights

variable {bridge after : CosmosBridge} {id : Word}

/-- What is guarded is said by the validators and the threshold. -/
theorem Guarded.same (guarded : Guarded honest bridge) (sameSet : SameSet bridge.toValset after.toValset)
    (threshold : after.consensusThreshold = bridge.consensusThreshold) : Guarded honest after := by
  have weights : dishonestWeight honest after.toValset = dishonestWeight honest bridge.toValset := by
    unfold dishonestWeight powerOf Valset.isActiveValidator Valset.getValidatorPower
    rw [sameSet.validators, sameSet.powers, sameSet.version]
  unfold Guarded
  rw [weights, sameSet.total, threshold]
  exact guarded

/-- A prophecy that reaches the threshold has been claimed by an honest validator. -/
theorem honest_claimant (guarded : Guarded honest bridge)
    (signed : (bridge.oracleClaimValidators id).toNat ≤ claimedWeight bridge id)
    (reached : Reached bridge id) :
    ∃ validator, honest validator = true ∧ bridge.hasMadeClaim id validator = true := by
  by_contra nobody
  have dishonest : claimedWeight bridge id ≤ dishonestWeight honest bridge.toValset := by
    apply weight_mono
    intro validator claimant
    rw [isActiveClaimant, Bool.and_eq_true] at claimant
    rw [Bool.and_eq_true, Bool.not_eq_true']
    refine ⟨claimant.1, ?_⟩
    by_contra trusted
    exact nobody ⟨validator, Bool.not_eq_false _ ▸ trusted, claimant.2⟩
  unfold Guarded at guarded
  unfold Reached at reached
  omega

end Weights

/-- Every completed prophecy is an executed withdrawal, paid once. -/
structure Vouched (keccak256 : Bytes → Word) (relayer : Parser) (honest : Address → Bool)
    (system : BridgeSystem) (receipts : List Receipt) : Prop where
  paidOnce : PaidOnce system.bridge
  spelled : Spelled system.bank
  guarded : Guarded honest system.bridge
  signed : ∀ id, (system.bridge.oracleClaimValidators id).toNat ≤ claimedWeight system.bridge id
  honestly : ∀ id validator, honest validator = true →
    system.bridge.hasMadeClaim id validator = true →
    ∃ claim ∈ executedClaims relayer receipts, getProphecyID keccak256 claim = id
  paid : ∃ paid : List ProphecyClaim,
    (∀ id, completions id system.bridge.events =
      (paid.map (getProphecyID keccak256)).count id) ∧
    (∀ claim ∈ paid, claim ∈ executedClaims relayer receipts) ∧
    ∀ symbol, unlocked symbol system.bank.events = (paid.map (claimValue symbol)).sum

namespace Vouched

/-- More executed messages vouch for more. -/
theorem mono {more : List Receipt} (vouched : Vouched keccak256 relayer honest system receipts) :
    Vouched keccak256 relayer honest system (receipts ++ more) := by
  have grows : ∀ claim ∈ executedClaims relayer receipts,
      claim ∈ executedClaims relayer (receipts ++ more) := by
    intro claim listed
    rw [executedClaims, List.flatMap_append]
    exact List.mem_append_left _ listed
  obtain ⟨paid, counts, listed, unlocks⟩ := vouched.paid
  refine ⟨vouched.paidOnce, vouched.spelled, vouched.guarded, vouched.signed, ?_,
    paid, counts, fun claim member => grows claim (listed claim member), unlocks⟩
  intro id validator trusted claimed
  obtain ⟨claim, executed, same⟩ := vouched.honestly id validator trusted claimed
  exact ⟨claim, grows claim executed, same⟩

/-- A call other than a claim changes nothing that is paid. -/
theorem quiet (vouched : Vouched keccak256 relayer honest system receipts)
    (paidOnce : PaidOnce next.bridge) (quiet : Quiet system.bridge next.bridge)
    (sameSet : SameSet system.bridge.toValset next.bridge.toValset)
    (quietly : Quietly system.bank next.bank) :
    Vouched keccak256 relayer honest next receipts := by
  obtain ⟨paid, counts, listed, unlocks⟩ := vouched.paid
  refine ⟨paidOnce, quietly.spelled vouched.spelled, vouched.guarded.same sameSet quiet.threshold,
    fun id => ?_, fun id validator trusted claimed => ?_, paid, fun id => ?_, listed,
    fun symbol => ?_⟩
  · rw [quiet.signed, claimedWeight_same sameSet (by rw [quiet.claims])]
    exact vouched.signed id
  · rw [quiet.claims] at claimed
    exact vouched.honestly id validator trusted claimed
  · rw [quiet.quiet]
    exact counts id
  · rw [quietly.appends.unlocked_eq]
    exact unlocks symbol

variable {call : Call} {claim : ProphecyClaim}

/-- The signed power stays that of active claimants. -/
theorem signed_claimed (vouched : Vouched keccak256 relayer honest system receipts)
    {sender : Address} {prophecyID : Word}
    (claimed : Claimed system.bridge next.bridge sender prophecyID) (id : Word) :
    (next.bridge.oracleClaimValidators id).toNat ≤ claimedWeight next.bridge id := by
  have before := vouched.signed id
  by_cases own : id = prophecyID
  · subst own
    rw [claimed.signed, claimedWeight_claimed claimed]
    omega
  · have claims : next.bridge.hasMadeClaim id = system.bridge.hasMadeClaim id := by
      rw [claimed.claims, writeAt_first _ _ _ own]
    rw [claimed.others id own, claimedWeight_same claimed.sameSet claims]
    exact before

/-- What an honest validator claims has been executed. -/
theorem honestly_claimed (vouched : Vouched keccak256 relayer honest system receipts)
    (admitted : AdmitsCall keccak256 relayer honest receipts call)
    (kind : call.action = .newProphecyClaim claim)
    (claimed : Claimed system.bridge next.bridge call.sender (getProphecyID keccak256 claim))
    (id : Word) (validator : Address) (trusted : honest validator = true)
    (listed : next.bridge.hasMadeClaim id validator = true) :
    ∃ claim ∈ executedClaims relayer receipts, getProphecyID keccak256 claim = id := by
  rw [claimed.claims] at listed
  by_cases own : id = getProphecyID keccak256 claim
  · by_cases sender : validator = call.sender
    · subst sender
      have made : claim ∈ claimMade call.action := by rw [kind]; rfl
      exact ⟨claim, admitted.honestly claim made trusted, own.symm⟩
    · rw [writeAt_second _ _ _ sender] at listed
      exact vouched.honestly id validator trusted listed
  · rw [writeAt_first _ _ _ own] at listed
    exact vouched.honestly id validator trusted listed

/-- A claim completes at most its own prophecy, which then is an executed withdrawal. -/
theorem claimed (vouched : Vouched keccak256 relayer honest system receipts)
    (admitted : AdmitsCall keccak256 relayer honest receipts call)
    (kind : call.action = .newProphecyClaim claim)
    (accepted : system.newProphecyClaim keccak256 call.world call.sender claim = .ok next) :
    Vouched keccak256 relayer honest next receipts := by
  have claimed := newProphecyClaim_ok accepted
  obtain ⟨settles, waits⟩ := newProphecyClaim_settled vouched.spelled accepted
  have paidOnce := vouched.paidOnce.claimed claimed
  have guarded := vouched.guarded.same claimed.sameSet claimed.threshold
  have signed := vouched.signed_claimed claimed
  have honestly := vouched.honestly_claimed admitted kind claimed
  obtain ⟨paid, counts, listed, unlocks⟩ := vouched.paid
  by_cases reached : Reached next.bridge (getProphecyID keccak256 claim)
  · have settled := settles reached
    obtain ⟨validator, trusted, made⟩ := honest_claimant guarded (signed _) reached
    obtain ⟨other, executed, same⟩ := honestly _ validator trusted made
    have own : other = claim :=
      admitted.distinct claim (by rw [kind]; rfl) other executed same
    refine ⟨paidOnce, settled.spelled, guarded, signed, honestly, paid ++ [claim], fun id => ?_,
      fun done member => ?_, fun symbol => ?_⟩
    · rw [claimed.completed, counts, List.map_append, List.count_append, List.map_singleton,
        List.count_singleton]
      congr 1
      by_cases mine : getProphecyID keccak256 claim = id
      · rw [if_pos ⟨mine, reached⟩, if_pos (beq_iff_eq.mpr mine)]
      · rw [if_neg fun both => mine both.1, if_neg fun equal => mine (beq_iff_eq.mp equal)]
    · rcases List.mem_append.mp member with earlier | last
      · exact listed done earlier
      · rw [List.mem_singleton.mp last, ← own]
        exact executed
    · rw [settled.unlocked, unlocks, List.map_append, List.sum_append, List.map_singleton,
        List.sum_singleton]
  · have quietly := waits reached
    refine ⟨paidOnce, quietly.spelled vouched.spelled, guarded, signed, honestly, paid,
      fun id => ?_, listed, fun symbol => ?_⟩
    · rw [claimed.completed, if_neg fun both => reached both.2, Nat.add_zero]
      exact counts id
    · rw [quietly.appends.unlocked_eq]
      exact unlocks symbol

end Vouched

/-- An admitted call keeps the payouts vouched for. -/
theorem Vouched.call {call : Call} (vouched : Vouched keccak256 relayer honest system receipts)
    (admitted : AdmitsCall keccak256 relayer honest receipts call)
    (executed : execute keccak256 system call = .ok next) :
    Vouched keccak256 relayer honest next receipts := by
  cases made : claimMade call.action with
  | some claim =>
    have kind := action_of_claimMade made
    have accepted := executed
    simp only [execute, kind] at accepted
    exact vouched.claimed admitted kind accepted
  | none =>
    cases execute_effect vouched.paidOnce.setUp executed with
    | claimed kind claimed =>
      rw [kind] at made
      cases made
    | quiet quiet effect =>
      have sameSet := sameSet_of_steady admitted.steady effect
      have keeps : KeepsPaid system call := by
        intro total requested
        have steady := admitted.steady
        cases action : call.action with
        | addValidator _ _ | updateValidatorPower _ _ | updateValset _ _ =>
          rw [action] at steady
          cases steady
        | _ =>
          rw [action] at requested
          cases requested
      exact vouched.quiet (paidOnce_step vouched.paidOnce keeps executed) quiet sameSet
        (execute_quietly made executed)

/-- What is unlocked has been withdrawn. -/
theorem Vouched.unlocked_le (vouched : Vouched keccak256 relayer honest system receipts)
    (symbol : Bytes) : unlocked symbol system.bank.events ≤
      ((executedClaims relayer receipts).map (claimValue symbol)).sum := by
  obtain ⟨paid, counts, listed, unlocks⟩ := vouched.paid
  have once : paid.Nodup := by
    apply List.Nodup.of_map (getProphecyID keccak256)
    rw [List.nodup_iff_count_le_one]
    intro id
    rw [← counts]
    exact vouched.paidOnce.once id
  rw [unlocks]
  refine @sum_le_of_covered _ _ paid (executedClaims relayer receipts) Eq _ _ once ?_ ?_
  · intro fund left _ right _ first second
    exact first.symm.trans second
  · intro claim member _
    exact ⟨claim, listed claim member, rfl, le_rfl⟩

/-- The contracts are set up, nobody has claimed, and nothing has been paid. -/
structure Fresh (system : BridgeSystem) : Prop where
  setUp : system.bridge.isInitialized = true
  unclaimed : ∀ id validator, system.bridge.hasMadeClaim id validator = false
  unsigned : ∀ id, system.bridge.oracleClaimValidators id = 0
  unpaid : completedIDs system.bridge.events = []
  locked : ∀ symbol, unlocked symbol system.bank.events = 0
  spelled : Spelled system.bank

/-- A fresh system has paid nothing, so all is vouched for. -/
theorem Fresh.vouched (fresh : Fresh system) (guarded : Guarded honest system.bridge) :
    Vouched keccak256 relayer honest system [] where
  paidOnce := by
    refine ⟨fresh.setUp, fun id paid => ?_, fun id => ?_⟩
    · rw [fresh.unpaid] at paid
      cases paid
    · rw [completions, fresh.unpaid]
      exact Nat.zero_le _
  spelled := fresh.spelled
  guarded := guarded
  signed id := by
    rw [fresh.unsigned]
    exact Nat.zero_le _
  honestly id validator _ claimed := by
    rw [fresh.unclaimed] at claimed
    cases claimed
  paid := by
    refine ⟨[], fun id => ?_, fun claim absent => absurd absent List.not_mem_nil, fresh.locked⟩
    rw [completions, fresh.unpaid]
    rfl

end Akhira.Verif.Network
