import Akhira.Verif.DispensationHandlers

/-!
# The dispensation account covers its records

Every pending record sits under its own key, so the records a run goes through are different and
each is still pending when its turn comes. What the account holds covers all pending and failed
records: outputs are collected in full before they are recorded, and a payout takes out no more
than the record it completes.
-/
namespace Akhira.Verif.Dispensation

open Akhira.Base Akhira.Sdk Akhira.Dispensation

variable {env : Environment} {context : Context env} {state next : State}
  {record : DistributionRecord} {records : List DistributionRecord}

/-- A pending record as the keeper files it. -/
structure Filed (key : String) (record : DistributionRecord) : Prop where
  key_eq : key = record.key
  status : record.distributionStatus = .pending
  valid : record.validate = true

/-- The amount of a denomination over all records of a store. -/
def total (denom : Denom) (records : Store String DistributionRecord) : Nat :=
  records.total fun _ => recordAmount denom

/-- The pending records are filed, and the account covers them with the failed ones. -/
structure Sound (env : Environment) (state : State) : Prop where
  filed : Store.All Filed state.pending
  covered : ∀ denom, total denom state.pending + total denom state.failed ≤ held env state denom

section Creating

variable {name runner : String} {distributionType : DistributionType} {output : List (Output Coins)}
  {pending : Store String DistributionRecord} {out : Output Coins}

/-- The record of an output is filed. -/
theorem Dropped.filed (dropped : Dropped name distributionType runner pending out record) :
    Filed record.key record := ⟨rfl, dropped.status, dropped.valid⟩

/-- A new distribution brings the coins it promises. -/
theorem created_sound {msg : MsgCreateDistribution} (sound : Sound env state)
    (created : Created env context state next msg output) : Sound env next := by
  have step : ∀ pending out record, out ∈ output → Store.All Filed pending →
      Dropped (distributionNameOf context.blockHeight msg.distributor) msg.distributionType
        msg.authorizedRunner pending out record →
      Store.All Filed (pending.set record.key record) :=
    fun _ _ _ _ filed dropped => filed.set dropped.filed
  refine ⟨created.drops.keeps step sound.filed, fun denom => ?_⟩
  have raised := created.drops.total step (fun _ _ _ _ _ dropped => dropped.amount denom) sound.filed
  have before := sound.covered denom
  have collected := created.gained denom
  rw [created.failed]
  unfold total at *
  unfold outputAmount at collected
  omega

end Creating

section Running

/-- A round leaves the pending records of all other keys. -/
theorem Handled.pending_other {key : String} (handled : Handled env context state record next)
    (different : key ≠ record.key) : next.pending.get key = state.pending.get key := by
  cases handled with
  | skipped => rfl
  | paid _ _ pending =>
    rw [pending]
    exact Store.get_delete_other _ different
  | refused _ _ pending =>
    rw [pending]
    exact Store.get_delete_other _ different

/-- Moving a record keeps its amount. -/
theorem recordAmount_moved (denom : Denom) (height : Int) (status : DistributionStatus) :
    recordAmount denom (moved record height status) = recordAmount denom record := rfl

/-- A round takes from the account what its record promised, or keeps both. -/
theorem handled_sound (sound : Sound env state)
    (found : state.pending.get record.key = some record)
    (handled : Handled env context state record next) : Sound env next := by
  cases handled with
  | skipped => exact sound
  | @paid _ recipient _ _ pending _ failed sent =>
    refine ⟨pending ▸ sound.filed.delete _, fun denom => ?_⟩
    have before := sound.covered denom
    have released := state.pending.total_of_get (fun _ => recordAmount denom) found
    have exchanged := sent env.moduleAccount denom
    rw [Ledger.share_self] at exchanged
    rw [pending, failed]
    unfold total held at *
    omega
  | refused _ _ pending _ failed kept =>
    refine ⟨pending ▸ sound.filed.delete _, fun denom => ?_⟩
    have before := sound.covered denom
    have released := state.pending.total_of_get (fun _ => recordAmount denom) found
    have written := state.failed.total_change (fun _ => recordAmount denom) record.key
      (moved record context.blockHeight .failed)
    rw [recordAmount_moved] at written
    rw [pending, failed]
    unfold total held at *
    rw [kept]
    omega

/-- The rounds of a run, each on a record that is pending when its turn comes. -/
inductive Rounds (env : Environment) (context : Context env) :
    State → List DistributionRecord → State → Prop
  | done (state : State) : Rounds env context state [] state
  | round {state middle next : State} {record : DistributionRecord}
    {rest : List DistributionRecord} (found : state.pending.get record.key = some record)
    (handled : Handled env context state record middle)
    (later : Rounds env context middle rest next) : Rounds env context state (record :: rest) next

/-- A run keeps the account sound. -/
theorem rounds_sound (sound : Sound env state) (rounds : Rounds env context state records next) :
    Sound env next := by
  induction rounds with
  | done => exact sound
  | round found handled _ ih => exact ih (handled_sound sound found handled)

/-- A pending record is covered on its own. -/
theorem Sound.covers (sound : Sound env state)
    (found : state.pending.get record.key = some record) (denom : Denom) :
    recordAmount denom record ≤ held env state denom := by
  have counted := state.pending.total_of_get (fun _ => recordAmount denom) found
  have before := sound.covered denom
  unfold total at before
  omega

/-- A run over distinct stored records is a sequence of rounds. -/
theorem distribute_rounds (sound : Sound env state)
    (found : ∀ record ∈ records, state.pending.get record.key = some record)
    (distinct : records.Pairwise fun left right => left.key ≠ right.key)
    (ran : records.foldlM (State.distributeDrop env context) state = .ok next) :
    Rounds env context state records next := by
  induction records generalizing state with
  | nil =>
    cases ran
    exact .done _
  | cons record rest ih =>
    rw [List.foldlM_cons, Result.bind_ok] at ran
    obtain ⟨middle, first, later⟩ := ran
    have present := found record List.mem_cons_self
    have filed := sound.filed record.key record present
    have handled := distributeDrop_ok present filed.status filed.valid (sound.covers present) first
    rw [List.pairwise_cons] at distinct
    have stillFound : ∀ other ∈ rest, middle.pending.get other.key = some other := by
      intro other listed
      rw [handled.pending_other (distinct.1 other listed).symm]
      exact found other (List.mem_cons_of_mem _ listed)
    exact .round present handled (ih (handled_sound sound present handled) stillFound distinct.2
      later)

/-- A listed record is pending under its own key. -/
theorem listed_pending (filed : Store.All Filed state.pending)
    (listed : record ∈ state.pending.values) : state.pending.get record.key = some record := by
  obtain ⟨⟨key, value⟩, entry, rfl⟩ := List.mem_map.mp listed
  have present := state.pending.get_eq_some.mpr entry
  have own := (filed key value present).key_eq
  subst own
  exact present

/-- A selected record is pending and carries the name, runner and type it was selected for. -/
theorem selected_pending {name runner : String} {distributionType : DistributionType}
    (filed : Store.All Filed state.pending)
    (selected : record ∈ state.getLimitedRecordsForRunner name runner distributionType .pending) :
    state.pending.get record.key = some record ∧ record.authorizedRunner = runner := by
  have kept := List.mem_filter.mp (List.mem_of_mem_take selected)
  simp only [Bool.and_eq_true, decide_eq_true_eq] at kept
  obtain ⟨listed, fields, -⟩ := kept
  exact ⟨listed_pending filed listed, fields.2⟩

/-- Listed records have different keys. -/
theorem listed_distinct (filed : Store.All Filed state.pending) :
    state.pending.values.Pairwise fun left right => left.key ≠ right.key := by
  refine List.pairwise_map.mpr (state.pending.sorted.imp_of_mem ?_)
  intro left right leftListed rightListed less
  have leftOwn := (filed left.1 left.2 (state.pending.get_eq_some.mpr leftListed)).key_eq
  have rightOwn := (filed right.1 right.2 (state.pending.get_eq_some.mpr rightListed)).key_eq
  rw [← leftOwn, ← rightOwn]
  exact ne_of_lt less

/-- The records that are selected have distinct keys. -/
theorem selected_distinct {name runner : String} {distributionType : DistributionType}
    (filed : Store.All Filed state.pending) :
    (state.getLimitedRecordsForRunner name runner distributionType .pending).Pairwise
      fun left right => left.key ≠ right.key :=
  ((listed_distinct filed).filter _).sublist (List.take_sublist _ _)

end Running

/-- What a delivered message does in a sound state. -/
inductive Effect (env : Environment) (state next : State) (delivery : Delivery env) : Prop
  | created (msg : MsgCreateDistribution) (output : List (Output Coins))
    (is : delivery.msg = .createDistribution msg)
    (checked : msg.validateBasic env.toChain = .ok output)
    (created : Created env delivery.context state next msg output)
  | claimed (msg : MsgCreateUserClaim) (claims : Store String UserClaim)
    (is : delivery.msg = .createUserClaim msg) (written : next = { state with claims })
  | ran (msg : MsgRunDistribution) (is : delivery.msg = .runDistribution msg)
    (rounds : Rounds env delivery.context state (state.getLimitedRecordsForRunner
      msg.distributionName msg.authorizedRunner msg.distributionType .pending) next)

/-- Every message that is delivered has the effect of its kind. -/
theorem deliver_effect {delivery : Delivery env} (sound : Sound env state)
    (delivered : deliver env state delivery = .ok next) : Effect env state next delivery := by
  obtain ⟨context, msg⟩ := delivery
  cases msg with
  | createDistribution msg =>
    simp only [deliver, authenticate, Msg.signer, Result.bind_ok, Outcome.present_ok,
      Outcome.require_ok, Result.pure_ok] at delivered
    obtain ⟨output, checked, -, ⟨signer, signed, -, outside, -⟩, handled⟩ := delivered
    exact .created msg output rfl checked (createDistribution_ok checked signed outside handled)
  | createUserClaim msg =>
    simp only [deliver, State.createUserClaim, Result.bind_ok, Outcome.require_ok,
      Result.pure_ok] at delivered
    obtain ⟨-, -, -, -, -, -, -, -, -, -, written⟩ := delivered
    exact .claimed msg _ rfl written.symm
  | runDistribution msg =>
    simp only [deliver, State.runDistribution, State.distributeDrops, Result.bind_ok] at delivered
    obtain ⟨-, -, -, -, ran⟩ := delivered
    have found := fun record selected => (@selected_pending state record msg.distributionName
      msg.authorizedRunner msg.distributionType sound.filed selected).1
    exact .ran msg rfl (distribute_rounds sound found (selected_distinct sound.filed) ran)

/-- Every effect keeps the account sound. -/
theorem effect_sound {delivery : Delivery env} (sound : Sound env state)
    (effect : Effect env state next delivery) : Sound env next := by
  cases effect with
  | created msg output _ _ created => exact created_sound sound created
  | claimed msg claims _ written =>
    subst written
    exact ⟨sound.filed, sound.covered⟩
  | ran msg _ rounds => exact rounds_sound sound rounds

/-- A message that is delivered keeps the account sound. -/
theorem deliver_sound {delivery : Delivery env} (sound : Sound env state)
    (delivered : deliver env state delivery = .ok next) : Sound env next :=
  effect_sound sound (deliver_effect sound delivered)

/-- The state of a chain without distributions. -/
def initial (bank : Ledger) : State := ⟨.empty, .empty, .empty, .empty, .empty, bank⟩

/-- With no record the account is sound. -/
theorem initial_sound (env : Environment) (bank : Ledger) : Sound env (initial bank) :=
  ⟨Store.All.empty, fun _ => Nat.zero_le _⟩

/-- Along every run from no record on, the account is sound. -/
theorem reachable_sound (env : Environment) (bank : Ledger) (deliveries : List (Delivery env)) :
    Sound env (run (deliver env) (initial bank) deliveries) :=
  @run_invariant _ _ _ (deliver env) (fun _ _ => True) (Sound env)
    (fun _ _ _ sound _ delivered => deliver_sound sound delivered) _ (initial_sound env bank) _
    (meets_of_forall (fun _ _ => trivial) _ _)

/-- Whatever is delivered to a chain without distributions, the module account holds at least the
amounts of all pending and failed records. -/
theorem account_covers_records (env : Environment) (bank : Ledger)
    (deliveries : List (Delivery env)) (denom : Denom) :
    let state := run (deliver env) (initial bank) deliveries
    (state.pending.total fun _ record => record.coins.amountOf denom) +
        (state.failed.total fun _ record => record.coins.amountOf denom) ≤
      state.bank.balance env.moduleAccount denom :=
  (reachable_sound env bank deliveries).covered denom

end Akhira.Verif.Dispensation
