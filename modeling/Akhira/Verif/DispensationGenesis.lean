import Akhira.App.Genesis

/-!
# The dispensation genesis

A record stands in the store of its status, under the key that its own fields give. The export walks
the three stores, and the import sorts the records into them again.
-/
namespace Akhira.Verif.Dispensation

open Akhira.Base Akhira.Base.Result Akhira.Sdk Akhira.Sdk.Outcome Akhira.Dispensation

/-- The status whose store holds the records of a status. -/
def shelf : DistributionStatus → DistributionStatus
  | .unspecified => .completed
  | status => status

/-- A valid record under its own key, in the store of its own status. -/
def OnShelf (status : DistributionStatus) (key : String) (record : DistributionRecord) : Prop :=
  key = record.key ∧ record.validate = true ∧ shelf record.distributionStatus = shelf status

/-- Everything is valid and under its own key. -/
structure Shelved (state : State) : Prop where
  records : ∀ status, Store.All (OnShelf status) (state.records status)
  distributions : Store.All (fun key distribution => key = distribution.key ∧
    distribution.validate = true) state.distributions
  claims : Store.All (fun key claim => key = claim.key ∧ claim.validate = true) state.claims

/-- Records are written to the shelf of their status, and to no other. -/
theorem records_setRecords (state : State) (status other : DistributionStatus)
    (records : Store String DistributionRecord) : (state.setRecords status records).records other =
      if shelf other = shelf status then records else state.records other := by
  cases status <;> cases other <;> rfl

section Keeper

variable {env : Environment} {context : Context env} {state : State} (shelved : Shelved state)
include shelved

/-- Records that fit their shelf may replace it. -/
theorem setRecords_shelved {status : DistributionStatus} {records : Store String DistributionRecord}
    (fits : Store.All (OnShelf status) records) : Shelved (state.setRecords status records) := by
  refine ⟨fun other => ?_, ?_, ?_⟩
  · rw [records_setRecords]
    split
    · rename_i same
      intro key record found
      obtain ⟨own, valid, shelf⟩ := fits key record found
      exact ⟨own, valid, shelf.trans same.symm⟩
    · exact shelved.records other
  · cases status <;> exact shelved.distributions
  · cases status <;> exact shelved.claims

/-- Storing a record keeps every shelf in order. -/
theorem setDistributionRecord_shelved (record : DistributionRecord) :
    Ensures Shelved (state.setDistributionRecord env record) := by
  intro next set
  simp only [State.setDistributionRecord, Result.bind_ok, Outcome.require_ok, Result.pure_ok] at set
  obtain ⟨-, valid, rfl⟩ := set
  exact setRecords_shelved shelved ((shelved.records _).set ⟨rfl, valid, rfl⟩)

/-- Deleting a record keeps every shelf in order. -/
theorem deleteDistributionRecord_shelved (name recipient : String) (status : DistributionStatus)
    (distributionType : DistributionType) :
    Ensures Shelved (state.deleteDistributionRecord name recipient status distributionType) :=
  .pass fun _ => .pure (setRecords_shelved shelved ((shelved.records status).delete _))

/-- Moving a record keeps every shelf in order, also when it stops half way. -/
theorem changeRecordStatus_shelved (record : DistributionRecord) (height : Int)
    (newStatus : DistributionStatus) :
    Shelved (state.changeRecordStatus env record height newStatus).1 := by
  unfold State.changeRecordStatus
  dsimp only
  split
  · exact shelved
  · rename_i set written
    have still := setDistributionRecord_shelved shelved _ set written
    split
    · exact still
    · rename_i next deleted
      exact deleteDistributionRecord_shelved still _ _ _ _ next deleted

/-- The balances are on no shelf. -/
theorem withBank_shelved (bank : Ledger) : Shelved { state with bank } := by
  refine ⟨fun status => ?_, shelved.distributions, shelved.claims⟩
  have same : State.records { state with bank } status = state.records status := by
    cases status <;> rfl
  rw [same]
  exact shelved.records status

/-- Claims that fit may replace the stored ones. -/
theorem withClaims_shelved {claims : Store String UserClaim}
    (fits : Store.All (fun key claim => key = claim.key ∧ claim.validate = true) claims) :
    Shelved { state with claims } := by
  refine ⟨fun status => ?_, shelved.distributions, fits⟩
  have same : State.records { state with claims } status = state.records status := by
    cases status <;> rfl
  rw [same]
  exact shelved.records status

/-- Storing a distribution keeps every shelf in order. -/
theorem setDistribution_shelved (distribution : Distribution) :
    Ensures Shelved (state.setDistribution distribution) := by
  intro next set
  simp only [State.setDistribution, Result.bind_ok, Outcome.require_ok, Result.pure_ok] at set
  obtain ⟨-, valid, rfl⟩ := set
  refine ⟨fun status => ?_, shelved.distributions.set ⟨rfl, valid⟩, shelved.claims⟩
  cases status <;> exact shelved.records _

/-- Storing a claim keeps every shelf in order. -/
theorem setClaim_shelved (claim : UserClaim) : Ensures Shelved (state.setClaim env claim) := by
  intro next set
  simp only [State.setClaim, Result.bind_ok, Outcome.require_ok, Result.pure_ok] at set
  obtain ⟨-, valid, rfl⟩ := set
  exact withClaims_shelved shelved (shelved.claims.set ⟨rfl, valid⟩)

/-- A paid record keeps every shelf in order. -/
theorem completeDrop_shelved (record : DistributionRecord) (recipient : AccAddress) :
    Ensures Shelved (state.completeDrop env context record recipient) := by
  have moved := @changeRecordStatus_shelved env state shelved record context.blockHeight .completed
  unfold State.completeDrop
  split
  · rename_i next changed
    rw [changed] at moved
    dsimp only
    split
    · exact .pure (withClaims_shelved moved (moved.claims.delete _))
    · exact .pure moved
  · rename_i left _ changed
    rw [changed] at moved
    exact .pass fun _ => .pure (withBank_shelved moved _)

/-- A failed record keeps every shelf in order. -/
theorem failDrop_shelved (record : DistributionRecord) :
    Ensures Shelved (state.failDrop env context record) := by
  have moved := @changeRecordStatus_shelved env state shelved record context.blockHeight .failed
  unfold State.failDrop
  split
  · rename_i next changed
    rw [changed] at moved
    exact .pure moved
  · exact nofun

/-- One round of a run keeps every shelf in order. -/
theorem distributeDrop_shelved (record : DistributionRecord) :
    Ensures Shelved (state.distributeDrop env context record) := by
  unfold State.distributeDrop
  split
  · exact .pure shelved
  · split
    · exact completeDrop_shelved (withBank_shelved shelved _) _ _
    · exact failDrop_shelved (withBank_shelved shelved _) _
    · exact nofun

/-- A new distribution keeps every shelf in order. -/
theorem createDistribution_shelved (msg : MsgCreateDistribution) (output : List (Output Coins)) :
    Ensures Shelved (state.createDistribution env context msg output) := by
  have listed : Ensures Shelved (state.verifyAndSetDistribution
      (distributionNameOf context.blockHeight msg.distributor) msg.distributionType
      msg.authorizedRunner) := by
    intro next set
    simp only [State.verifyAndSetDistribution, Result.bind_ok, Outcome.require_ok,
      Result.pure_ok] at set
    obtain ⟨-, -, -, valid, rfl⟩ := set
    refine ⟨fun status => ?_, shelved.distributions.set ⟨rfl, valid⟩, shelved.claims⟩
    cases status <;> exact shelved.records _
  refine .bind listed fun state shelved => .pass fun _ => ?_
  refine @Ensures.bind _ _ _ _ _ _ Shelved ?_ fun state shelved => ?_
  · exact .pass fun _ => .pass fun _ => .pure (withBank_shelved shelved _)
  · refine Ensures.foldlM (fun state out _ shelved => ?_) shelved
    exact .pass fun _ => ensures_replacing (setDistributionRecord_shelved shelved _)

/-- A new claim keeps every shelf in order. -/
theorem createUserClaim_shelved (claim : MsgCreateUserClaim) :
    Ensures Shelved (state.createUserClaim env context claim) := by
  intro next created
  simp only [State.createUserClaim, Result.bind_ok, Outcome.require_ok, Result.pure_ok] at created
  obtain ⟨-, -, -, -, -, valid, rfl⟩ := created
  exact withClaims_shelved shelved (shelved.claims.set ⟨rfl, valid⟩)

/-- Every message keeps every shelf in order. -/
theorem deliver_shelved (delivery : Delivery env) :
    Ensures Shelved (deliver env state delivery) := by
  unfold deliver
  split
  · exact .pass fun _ => .pass fun _ => createDistribution_shelved shelved _ _
  · exact .pass fun _ => .pass fun _ => createUserClaim_shelved shelved _
  · refine .pass fun _ => .pass fun _ => ?_
    exact Ensures.foldlM (fun _ _ _ shelved => distributeDrop_shelved shelved _) shelved

end Keeper

/-- What happens to the store: messages, and transfers of other modules. -/
inductive Change (env : Environment) where
  | deliver (delivery : Delivery env)
  | balances (bank : Ledger)

/-- Carry out a change. -/
def change (env : Environment) (state : State) : Change env → Outcome State
  | .deliver delivery => deliver env state delivery
  | .balances bank => pure { state with bank }

/-- Exported and imported next to any balances, the store is the same. -/
def RoundTrips (env : Environment) (state : State) : Prop :=
  ∀ bank, initGenesis env bank (exportGenesis state) = .ok { state with bank }

variable {env : Environment} {state next : State} {bank : Ledger} {data : GenesisState}

/-- The store of an initialised chain has every shelf in order. -/
theorem initGenesis_shelved (initialised : initGenesis env bank data = .ok state) :
    Shelved state := by
  have start : Shelved ⟨.empty, .empty, .empty, .empty, .empty, bank⟩ := by
    refine ⟨fun status => ?_, Store.All.empty, Store.All.empty⟩
    cases status <;> exact Store.All.empty
  refine (?_ : Ensures Shelved (initGenesis env bank data)) state initialised
  refine .bind (Ensures.foldlM (fun _ _ _ shelved => ?_) start) fun _ shelved =>
    .bind (Ensures.foldlM (fun _ _ _ shelved => ?_) shelved) fun _ shelved =>
      Ensures.foldlM (fun _ _ _ shelved => ?_) shelved
  · exact ensures_orCrash (setDistributionRecord_shelved shelved _)
  · exact ensures_orCrash (setDistribution_shelved shelved _)
  · exact ensures_orCrash (setClaim_shelved shelved _)

/-- Every change keeps every shelf in order. -/
theorem change_shelved (shelved : Shelved state) {happening : Change env}
    (changed : change env state happening = .ok next) : Shelved next := by
  cases happening with
  | deliver delivery => exact deliver_shelved shelved delivery next changed
  | balances bank =>
    cases changed
    exact withBank_shelved shelved bank

/-- The records of one store, written again. -/
theorem records_again (shelved : Shelved state) (status : DistributionStatus) (into : State)
    (vacant : into.records status = .empty) :
    (state.records status).values.foldlM (fun state record =>
      (state.setDistributionRecord env record).orCrash
        ("Error setting distribution record during init genesis : " ++ env.recordText record)) into =
      .ok (into.setRecords status (state.records status)) := by
  have start : into = into.setRecords status .empty := by
    rw [← vacant]
    cases status <;> rfl
  have written := @Store.foldlM_set_values _ _ _ (state.records status) _ _
    (fun state record => (State.setDistributionRecord env state record).orCrash
      ("Error setting distribution record during init genesis : " ++ env.recordText record))
    (fun records => into.setRecords status records) DistributionRecord.key
    (by
      intro key record found
      obtain ⟨rfl, valid, same⟩ := shelved.records status key record found
      refine ⟨rfl, fun built => ?_⟩
      simp only [Outcome.orCrash_ok, State.setDistributionRecord, Result.bind_ok,
        Outcome.require_ok, Result.pure_ok]
      refine ⟨(), valid, ?_⟩
      generalize record.distributionStatus = own at same
      cases own <;> cases status <;> first | rfl | cases same)
  rw [← start] at written
  exact written

/-- A store with every shelf in order round trips. -/
theorem shelved_roundTrips (shelved : Shelved state) : RoundTrips env state := by
  intro bank
  have records : state.getRecords.foldlM (fun state record =>
      (state.setDistributionRecord env record).orCrash
        ("Error setting distribution record during init genesis : " ++ env.recordText record))
      (⟨.empty, .empty, .empty, .empty, .empty, bank⟩ : State) =
        .ok ⟨state.pending, state.completed, state.failed, .empty, .empty, bank⟩ := by
    rw [State.getRecords, List.foldlM_append, List.foldlM_append]
    simp only [Result.bind_ok]
    exact ⟨_, ⟨_, records_again shelved .pending _ rfl, records_again shelved .completed _ rfl⟩,
      records_again shelved .failed _ rfl⟩
  have distributions := @Store.foldlM_set_values _ _ _ state.distributions _ _
    (fun state dist => (State.setDistribution state dist).orCrash
      ("Error setting distribution during init genesis : " ++ dist.text))
    (fun distributions =>
      ⟨state.pending, state.completed, state.failed, distributions, .empty, bank⟩)
    Distribution.key (by
      intro key distribution found
      obtain ⟨rfl, valid⟩ := shelved.distributions key distribution found
      refine ⟨rfl, fun built => ?_⟩
      simp only [Outcome.orCrash_ok, State.setDistribution, Result.bind_ok, Outcome.require_ok,
        Result.pure_ok]
      exact ⟨(), valid, trivial⟩)
  have claims := @Store.foldlM_set_values _ _ _ state.claims _ _
    (fun state claim => (State.setClaim env state claim).orCrash
      ("Error setting claim during init genesis : " ++ env.claimText claim))
    (fun claims =>
      ⟨state.pending, state.completed, state.failed, state.distributions, claims, bank⟩)
    UserClaim.key (by
      intro key claim found
      obtain ⟨rfl, valid⟩ := shelved.claims key claim found
      refine ⟨rfl, fun built => ?_⟩
      simp only [Outcome.orCrash_ok, State.setClaim, Result.bind_ok, Outcome.require_ok,
        Result.pure_ok]
      exact ⟨(), valid, trivial⟩)
  simp only [initGenesis, Result.bind_ok]
  exact ⟨_, records, _, distributions, claims⟩

end Akhira.Verif.Dispensation
