import Akhira.Base.Run
import Akhira.Verif.OracleTally

/-!
# Prophecies as lists of ballots

A stored prophecy is a list of ballots, one for each validator that has claimed: its two
maps list the voters of each content and the content of each voter. Completion then
reads the tallies of these ballots.
-/
namespace Akhira.Verif.Oracle

open Akhira.Base Akhira.Sdk Akhira.Oracle

variable {env : Environment} {codec : ValCodec} {context : Context} {state next : State}
  {prophecy : Prophecy} {ballots : List (ValAddress × String)}

/-- The maps of a prophecy hold the ballots, of one validator each. -/
structure Ballots (codec : ValCodec) (prophecy : Prophecy)
    (ballots : List (ValAddress × String)) : Prop where
  voters : (ballots.map Prod.fst).Nodup
  listed : ∀ content ∈ ballots.map Prod.snd, prophecy.claimValidators.get content =
    some ((ballotsFor ballots content).map fun ballot => some ballot.1)
  unlisted : ∀ content ∉ ballots.map Prod.snd, prophecy.claimValidators.get content = none
  contents : ∀ address content,
    prophecy.validatorClaims.get (codec.text address) = some content ↔ (address, content) ∈ ballots
  nonempty : ∀ ballot ∈ ballots, ballot.2 ≠ ""
  weighs : ∀ power : ValAddress → Nat,
    prophecy.claimValidators.total (fun _ addresses => (addresses.reduceOption.map power).sum) =
      castWeight power ballots

/-- A claim adds the power of its validator to what is listed under all contents. -/
theorem total_addClaim (power : ValAddress → Nat) (prophecy : Prophecy) (address : ValAddress)
    (content : String) :
    (prophecy.addClaim codec address content).claimValidators.total
        (fun _ addresses => (addresses.reduceOption.map power).sum) =
      prophecy.claimValidators.total (fun _ addresses => (addresses.reduceOption.map power).sum) +
        power address := by
  have changed := prophecy.claimValidators.total_change
    (fun _ addresses => (addresses.reduceOption.map power).sum) content
    (prophecy.listedUnder content ++ [some address])
  have held : ((prophecy.claimValidators.get content).map fun addresses =>
      (addresses.reduceOption.map power).sum).getD 0 =
        ((prophecy.listedUnder content).reduceOption.map power).sum := by
    unfold Prophecy.listedUnder
    cases prophecy.claimValidators.get content <;> rfl
  have written : ((prophecy.listedUnder content ++ [some address]).reduceOption.map power).sum =
      ((prophecy.listedUnder content).reduceOption.map power).sum + power address := by
    rw [List.reduceOption_append, List.map_append, List.sum_append]
    rfl
  rw [held, written, ← Nat.add_assoc, Nat.add_right_comm] at changed
  exact Nat.add_right_cancel changed

namespace Ballots

/-- A new prophecy has no ballot. -/
theorem start (id : String) : Ballots codec (newProphecy id) [] where
  voters := List.nodup_nil
  listed _ absent := by cases absent
  unlisted _ _ := rfl
  contents _ _ := by
    simp [newProphecy]
  nonempty _ absent := by cases absent
  weighs _ := rfl

/-- Under a content stand those who voted for it, in the order of their votes. -/
theorem listedUnder (recorded : Ballots codec prophecy ballots) (content : String) :
    prophecy.listedUnder content = (ballotsFor ballots content).map fun ballot => some ballot.1 := by
  by_cases cast : content ∈ ballots.map Prod.snd
  · rw [Prophecy.listedUnder, recorded.listed content cast]
    rfl
  · rw [Prophecy.listedUnder, recorded.unlisted content cast, ballotsFor_eq_nil cast]
    rfl

/-- The validators of a content are those who voted for it. -/
theorem validatorsOf (recorded : Ballots codec prophecy ballots) (content : String) :
    prophecy.validatorsOf content = (ballotsFor ballots content).map Prod.fst := by
  rw [Prophecy.validatorsOf, recorded.listedUnder, List.reduceOption, List.filterMap_map]
  exact congrFun List.filterMap_eq_map _

/-- The power listed under a content is its tally. -/
theorem tally_eq (recorded : Ballots codec prophecy ballots) (staking : Staking)
    (content : String) :
    listedPower staking (prophecy.validatorsOf content) =
      tally (powerOf staking) ballots content := by
  rw [recorded.validatorsOf, listedPower, List.map_map]
  rfl

/-- No validator is listed twice under one content. -/
theorem distinct (recorded : Ballots codec prophecy ballots) (content : String) :
    (prophecy.validatorsOf content).Nodup := by
  rw [recorded.validatorsOf]
  exact recorded.voters.sublist (List.filter_sublist.map _)

/-- A validator without a content has not voted. -/
theorem not_voted {address : ValAddress} (recorded : Ballots codec prophecy ballots)
    (free : prophecy.contentOf (codec.text address) = "") :
    address ∉ ballots.map Prod.fst := by
  intro voted
  obtain ⟨⟨voter, content⟩, cast, rfl⟩ := List.mem_map.mp voted
  have held := (recorded.contents voter content).mpr cast
  rw [Prophecy.contentOf, held] at free
  exact recorded.nonempty _ cast free

/-- `AddClaim` adds a ballot. -/
theorem addClaim {address : ValAddress} {content : String}
    (recorded : Ballots codec prophecy ballots) (fresh : address ∉ ballots.map Prod.fst)
    (content_ne : content ≠ "") :
    Ballots codec (prophecy.addClaim codec address content) (ballots ++ [(address, content)]) where
  voters := by
    rw [List.map_append, List.nodup_append]
    refine ⟨recorded.voters, List.nodup_singleton _, ?_⟩
    intro voter voted other added
    rw [List.map_singleton, List.mem_singleton] at added
    intro same
    rw [same, added] at voted
    exact fresh voted
  listed other cast := by
    rw [ballotsFor_concat]
    by_cases same : content = other
    · rw [if_pos same, List.map_append, ← recorded.listedUnder, ← same]
      exact Store.get_set_same ..
    · have earlier : other ∈ ballots.map Prod.snd := by
        rw [List.map_append, List.mem_append] at cast
        exact cast.resolve_right fun added => same (List.mem_singleton.mp added).symm
      rw [if_neg same, List.append_nil, ← recorded.listed other earlier]
      exact Store.get_set_other _ _ fun clash => same clash.symm
  unlisted other absent := by
    rw [List.map_append, List.mem_append, not_or] at absent
    have different : other ≠ content := fun clash => absent.2 (List.mem_singleton.mpr clash)
    rw [← recorded.unlisted other absent.1]
    exact Store.get_set_other _ _ different
  contents other held := by
    rw [List.mem_append, List.mem_singleton, Prod.mk.injEq]
    by_cases same : other = address
    · have unvoted : (address, held) ∉ ballots :=
        fun cast => fresh (List.mem_map.mpr ⟨_, cast, rfl⟩)
      have written : (prophecy.addClaim codec address content).validatorClaims.get
          (codec.text address) = some content := Store.get_set_same ..
      rw [same, written, Option.some.injEq]
      exact ⟨fun is => .inr ⟨rfl, is.symm⟩, fun cast => (cast.resolve_left unvoted).2.symm⟩
    · have different : codec.text other ≠ codec.text address :=
        fun clash => same (codec.text_injective clash)
      have kept : (prophecy.addClaim codec address content).validatorClaims.get
          (codec.text other) = prophecy.validatorClaims.get (codec.text other) :=
        Store.get_set_other _ _ different
      rw [kept, recorded.contents]
      exact ⟨.inl, fun cast => cast.resolve_right fun both => same both.1⟩
  nonempty ballot cast := by
    rcases List.mem_append.mp cast with before | added
    · exact recorded.nonempty ballot before
    · rw [List.mem_singleton.mp added]
      exact content_ne
  weighs power := by
    have added : castWeight power (ballots ++ [(address, content)]) =
        castWeight power ballots + power address := castWeight_append power ballots _
    rw [added, ← recorded.weighs power]
    exact total_addClaim power prophecy address content

/-- Only the status matters to who voted what. -/
theorem with_status (recorded : Ballots codec prophecy ballots) (status : Status) :
    Ballots codec { prophecy with status } ballots :=
  ⟨recorded.voters, recorded.listed, recorded.unlisted, recorded.contents, recorded.nonempty,
    recorded.weighs⟩

end Ballots

/-- The outcome of `processCompletion` as a status. -/
def completedStatus (env : Environment) (total cast power : Int) (content : String)
    (status : Status) : Status :=
  if env.consensusNeeded.reachedBy power total then ⟨.success, content⟩
  else if env.consensusNeeded.outOfReachOf (power + (total - cast)) total then
    ⟨.failed, status.finalClaim⟩
  else status

/-- The completion in two steps: the highest claim is found, and its power compared. -/
theorem processCompletion_eq (whiteList : List ValAddress) (prophecy : Prophecy) :
    processCompletion env context whiteList prophecy =
      let found := prophecy.findHighestClaim env.codec context.staking context.order whiteList
      { prophecy with
        status := completedStatus env found.2 found.1.totalClaims found.1.power found.1.claim
          prophecy.status } := by
  unfold processCompletion completedStatus
  dsimp only
  split
  · rfl
  · split <;> rfl

/-- What the loop adds up over all contents is the weight of the ballots. -/
theorem Ballots.total_claims (recorded : Ballots codec prophecy ballots) (staking : Staking)
    (order : MapOrder) :
    ((order.enumerate prophecy.claimValidators.entries).map fun entry =>
      (listedPower staking entry.2.reduceOption : Int)).sum = castWeight (powerOf staking) ballots := by
  have visited := ((order.visits prophecy.claimValidators.entries).map fun entry =>
    (listedPower staking entry.2.reduceOption : Int)).sum_eq
  have weighs := recorded.weighs (powerOf staking)
  rw [visited, ← weighs, Store.total, Nat.cast_list_sum, List.map_map]
  rfl

/-- Completion gives the status of a content with the highest tally. -/
theorem processCompletion_status (recorded : Ballots env.codec prophecy ballots)
    (cast : ballots ≠ []) (whiteList : List ValAddress) :
    ∃ content ∈ ballots.map Prod.snd,
      (∀ other, tally (powerOf context.staking) ballots other ≤
        tally (powerOf context.staking) ballots content) ∧
      (processCompletion env context whiteList prophecy).status =
        completedStatus env (eligiblePower context.staking whiteList)
          (castWeight (powerOf context.staking) ballots)
          (tally (powerOf context.staking) ballots content) content prophecy.status := by
  have found := @findHighestClaim_found env.codec context.staking context.order prophecy whiteList
  have entry_of : ∀ entry ∈ context.order.enumerate prophecy.claimValidators.entries,
      entry.1 ∈ ballots.map Prod.snd ∧ listedPower context.staking entry.2.reduceOption =
        tally (powerOf context.staking) ballots entry.1 := by
    intro entry visited
    have stored := prophecy.claimValidators.get_eq_some.mpr
      ((context.order.visits _).mem_iff.mp visited)
    have listed : entry.1 ∈ ballots.map Prod.snd := by
      by_contra absent
      rw [recorded.unlisted _ absent] at stored
      cases stored
    rw [← recorded.tally_eq, Prophecy.validatorsOf, Prophecy.listedUnder, stored]
    exact ⟨listed, rfl⟩
  have visited_of : ∀ content ∈ ballots.map Prod.snd,
      ∃ entry ∈ context.order.enumerate prophecy.claimValidators.entries, entry.1 = content := by
    intro content listed
    have stored := prophecy.claimValidators.get_eq_some.mp (recorded.listed content listed)
    exact ⟨_, (context.order.visits _).mem_iff.mpr stored, rfl⟩
  rcases found.claim with ⟨-, nothing⟩ | ⟨entry, visited, -, claim, power⟩
  · -- some content was visited, and its power is not below zero
    obtain ⟨ballot, present⟩ := List.exists_mem_of_ne_nil ballots cast
    obtain ⟨entry, visited, -⟩ := visited_of ballot.2 (List.mem_map_of_mem present)
    have least := found.highest entry visited
    rw [nothing] at least
    change (listedPower context.staking entry.2.reduceOption : Int) ≤ -1 at least
    omega
  · obtain ⟨listed, tallied⟩ := entry_of entry visited
    refine ⟨entry.1, listed, fun other => ?_, ?_⟩
    · by_cases voted : other ∈ ballots.map Prod.snd
      · obtain ⟨entry', visited', rfl⟩ := visited_of other voted
        have below := found.highest entry' visited'
        rw [power, (entry_of entry' visited').2, tallied] at below
        exact_mod_cast below
      · rw [tally_eq_zero _ voted]
        exact Nat.zero_le _
    · rw [processCompletion_eq]
      dsimp only
      rw [claim, power, tallied, found.total, recorded.total_claims, findHighestClaim_total,
        Int.zero_add]

/-- What a processed claim did. -/
structure Processed (env : Environment) (context : Context) (state : State) (claim : Claim)
    (address : ValAddress) (before : Prophecy) (result : State × Status) : Prop where
  signer : claim.validatorAddress = env.codec.text address
  whiteListed : address ∈ state.whiteList
  active : checkActiveValidator context.staking address = true
  id_ne : claim.id ≠ ""
  content_ne : claim.content ≠ ""
  found : before = state.prophecyOrNew env.codec claim.id
  pending : before.status.text = .pending
  fresh : before.contentOf (env.codec.text address) = ""
  written : result =
    let after := processCompletion env context state.whiteList
      (before.addClaim env.codec address claim.content)
    (state.setProphecy env.codec after, after.status)

/-- A claim is processed exactly when its checks pass. -/
theorem processClaim_ok {claim : Claim} {result : State × Status} :
    processClaim env context state claim = .ok result ↔
      ∃ address before, Processed env context state claim address before result := by
  simp only [processClaim, State.ensureAddressIsInWhitelist, Result.bind_ok, Result.pure_ok,
    Outcome.require_ok, Outcome.present_ok]
  constructor
  · rintro ⟨-, ⟨address, whiteListed, signer⟩, decoded, read, -, active, -, id_ne, -, content_ne, -,
      pending, -, fresh, written⟩
    rw [← signer, env.codec.read_text, Option.some.injEq] at read
    rw [← signer] at fresh
    subst read
    exact ⟨address, _, signer.symm, whiteListed, active, id_ne, content_ne, rfl, pending, fresh,
      written.symm⟩
  · rintro ⟨address, before, ⟨signer, whiteListed, active, id_ne, content_ne, rfl, pending, fresh,
      rfl⟩⟩
    rw [← signer] at fresh
    refine ⟨(), ⟨address, whiteListed, signer.symm⟩, address, ?_, (), active, (), id_ne, (),
      content_ne, (), pending, (), fresh, rfl⟩
    rw [signer, env.codec.read_text]

section Storage

/-- A prophecy's id is told by its key. -/
theorem prophecyKey_injective {left right : String} (same : prophecyKey left = prophecyKey right) :
    left = right :=
  (String.append_right_inj _).mp same

/-- A prophecy is read back as it was stored. -/
theorem getProphecy_set_same (state : State) (prophecy : Prophecy) :
    (state.setProphecy codec prophecy).getProphecy codec prophecy.id = some prophecy := by
  unfold State.getProphecy State.setProphecy
  rw [Store.get_set_same]
  exact deserializeFromDB_serializeForDB codec prophecy

/-- A stored prophecy is the one that is found. -/
theorem prophecyOrNew_set_same (state : State) (prophecy : Prophecy) :
    (state.setProphecy codec prophecy).prophecyOrNew codec prophecy.id = prophecy := by
  rw [State.prophecyOrNew, getProphecy_set_same]
  rfl

/-- Storing one prophecy leaves the others. -/
theorem getProphecy_set_other (state : State) (prophecy : Prophecy) {id : String}
    (different : id ≠ prophecy.id) :
    (state.setProphecy codec prophecy).getProphecy codec id = state.getProphecy codec id := by
  unfold State.getProphecy State.setProphecy
  rw [Store.get_set_other _ _ fun clash => different (prophecyKey_injective clash)]

/-- What is found of other prophecies stays. -/
theorem prophecyOrNew_set_other (state : State) (prophecy : Prophecy) {id : String}
    (different : id ≠ prophecy.id) :
    (state.setProphecy codec prophecy).prophecyOrNew codec id = state.prophecyOrNew codec id := by
  rw [State.prophecyOrNew, getProphecy_set_other state prophecy different]
  rfl

end Storage

/-- Every stored prophecy is a list of ballots under its own id. -/
def Recorded (codec : ValCodec) (state : State) : Prop :=
  ∀ id prophecy, state.getProphecy codec id = some prophecy →
    prophecy.id = id ∧ ∃ ballots, Ballots codec prophecy ballots

/-- No prophecy is wrongly recorded where there is none. -/
theorem Recorded.empty (noProphecies : state.prophecies = Store.empty) : Recorded codec state := by
  intro id prophecy found
  rw [State.getProphecy, noProphecies] at found
  cases found

/-- The prophecy a claim is added to is a list of ballots. -/
theorem Recorded.before (recorded : Recorded codec state) (id : String) :
    (state.prophecyOrNew codec id).id = id ∧
      ∃ ballots, Ballots codec (state.prophecyOrNew codec id) ballots := by
  unfold State.prophecyOrNew
  cases found : state.getProphecy codec id with
  | some prophecy => exact recorded id prophecy found
  | none => exact ⟨rfl, [], Ballots.start id⟩

/-- The prophecy a processed claim leaves: one ballot more, completed. -/
structure Voted (env : Environment) (context : Context) (state : State) (claim : Claim)
    (address : ValAddress) (ballots : List (ValAddress × String)) (after : Prophecy)
    (result : State × Status) : Prop where
  before : Ballots env.codec
    (state.prophecyOrNew env.codec claim.id) ballots
  added : Ballots env.codec
    ((state.prophecyOrNew env.codec claim.id).addClaim env.codec
      address claim.content) (ballots ++ [(address, claim.content)])
  recorded : Ballots env.codec after (ballots ++ [(address, claim.content)])
  id_eq : after.id = claim.id
  completed : after = processCompletion env context state.whiteList
    ((state.prophecyOrNew env.codec claim.id).addClaim env.codec
      address claim.content)
  written : result = (state.setProphecy env.codec after, after.status)

/-- A processed claim adds one ballot to those of its prophecy. -/
theorem Processed.voted {claim : Claim} {address : ValAddress} {before : Prophecy}
    {result : State × Status} (processed : Processed env context state claim address before result)
    (recorded : Recorded env.codec state) :
    ∃ ballots after, Voted env context state claim address ballots after result := by
  obtain ⟨id_eq, ballots, held⟩ := recorded.before claim.id
  have found := processed.found
  subst found
  have added := held.addClaim (held.not_voted processed.fresh) processed.content_ne
  refine ⟨ballots, _, held, added, ?_, ?_, rfl, processed.written⟩
  · rw [processCompletion_eq]
    exact added.with_status _
  · rw [processCompletion_eq]
    exact id_eq

/-- A processed claim finishes or continues its own pending prophecy and leaves the others. -/
structure Advanced (codec : ValCodec) (state next : State) (id : String) (status : Status) :
    Prop where
  whiteList : next.whiteList = state.whiteList
  pending : (state.prophecyOrNew codec id).status.text = .pending
  status_eq : (next.prophecyOrNew codec id).status = status
  others : ∀ other, other ≠ id →
    next.prophecyOrNew codec other = state.prophecyOrNew codec other

/-- An accepted claim advances its prophecy, and no other. -/
theorem processClaim_advanced {claim : Claim} {result : State × Status}
    (recorded : Recorded env.codec state)
    (accepted : processClaim env context state claim = .ok result) :
    Advanced env.codec state result.1 claim.id result.2 := by
  obtain ⟨address, before, processed⟩ := processClaim_ok.mp accepted
  obtain ⟨ballots, after, voted⟩ := processed.voted recorded
  have pending := processed.pending
  rw [processed.found] at pending
  rw [voted.written, ← voted.id_eq]
  rw [← voted.id_eq] at pending
  exact ⟨rfl, pending, congrArg Prophecy.status (prophecyOrNew_set_same state after),
    fun other different => prophecyOrNew_set_other state after different⟩

/-- A change of the white list leaves the prophecies. -/
theorem processUpdateWhiteListValidator_ok {sender : AccAddress} {validator : ValAddress}
    {operationtype : String}
    (updated : state.processUpdateWhiteListValidator sender validator operationtype = .ok next) :
    next.prophecies = state.prophecies := by
  rw [State.processUpdateWhiteListValidator, Result.bind_ok] at updated
  obtain ⟨-, -, updated⟩ := updated
  split at updated
  · cases updated
    rfl
  · split at updated
    · cases updated
      rfl
    · cases updated

/-- What is found depends on the stored prophecies only. -/
theorem prophecyOrNew_congr (same : next.prophecies = state.prophecies) (id : String) :
    next.prophecyOrNew codec id = state.prophecyOrNew codec id := by
  unfold State.prophecyOrNew State.getProphecy
  rw [same]

/-- An accepted claim keeps the prophecies recorded. -/
theorem Recorded.claimed {claim : Claim} {result : State × Status}
    (recorded : Recorded env.codec state)
    (accepted : processClaim env context state claim = .ok result) :
    Recorded env.codec result.1 := by
  obtain ⟨address, before, processed⟩ := processClaim_ok.mp accepted
  obtain ⟨ballots, after, voted⟩ := processed.voted recorded
  intro id prophecy found
  rw [voted.written] at found
  by_cases own : id = after.id
  · rw [own, getProphecy_set_same, Option.some.injEq] at found
    subst found
    exact ⟨own.symm, _, voted.recorded⟩
  · rw [getProphecy_set_other _ _ own] at found
    exact recorded id prophecy found

/-- What is recorded depends on the stored prophecies only. -/
theorem Recorded.congr (recorded : Recorded codec state)
    (same : next.prophecies = state.prophecies) : Recorded codec next := by
  intro id prophecy found
  rw [State.getProphecy, same] at found
  exact recorded id prophecy found

/-- Every content that has been claimed for a stored prophecy has a property. -/
def AllContents (codec : ValCodec) (property : String → Prop) (state : State) : Prop :=
  ∀ id content, content ∈ (state.prophecyOrNew codec id).claimValidators.entries.map Prod.fst →
    property content

/-- Every property holds of the contents where there are none. -/
theorem AllContents.empty {property : String → Prop}
    (noProphecies : state.prophecies = Store.empty) : AllContents codec property state := by
  intro id content listed
  rw [State.prophecyOrNew, State.getProphecy, noProphecies] at listed
  cases listed

/-- What holds of the contents depends on the stored prophecies only. -/
theorem AllContents.congr {property : String → Prop} (all : AllContents codec property state)
    (same : next.prophecies = state.prophecies) : AllContents codec property next := by
  intro id
  rw [prophecyOrNew_congr same]
  exact all id

/-- A claim with the property keeps it, and a success is of a content with the property. -/
theorem AllContents.claimed {property : String → Prop} {claim : Claim} {result : State × Status}
    (all : AllContents env.codec property state) (recorded : Recorded env.codec state)
    (own : property claim.content)
    (accepted : processClaim env context state claim = .ok result) :
    AllContents env.codec property result.1 ∧
      (result.2.text = .success → property result.2.finalClaim) := by
  obtain ⟨address, before, processed⟩ := processClaim_ok.mp accepted
  obtain ⟨ballots, after, voted⟩ := processed.voted recorded
  have cast : ∀ content ∈ (ballots ++ [(address, claim.content)]).map Prod.snd,
      property content := by
    intro content listed
    rw [List.map_append, List.mem_append] at listed
    rcases listed with earlier | last
    · exact all claim.id content (List.mem_map.mpr
        ⟨_, Store.get_eq_some _ |>.mp (voted.before.listed content earlier), rfl⟩)
    · rw [List.mem_singleton.mp last]
      exact own
  rw [voted.written]
  constructor
  · intro id content listed
    by_cases same : id = after.id
    · rw [same, prophecyOrNew_set_same] at listed
      obtain ⟨entry, stored, rfl⟩ := List.mem_map.mp listed
      apply cast
      by_contra absent
      have missing := voted.recorded.unlisted entry.1 absent
      rw [Store.get_eq_some _ |>.mpr stored] at missing
      cases missing
    · rw [prophecyOrNew_set_other _ _ same] at listed
      exact all id content listed
  · intro success
    obtain ⟨content, listed, -, status⟩ := processCompletion_status voted.added
      (List.append_ne_nil_of_right_ne_nil _ (List.cons_ne_nil _ _)) state.whiteList
    rw [← voted.completed] at status
    change after.status.text = .success at success
    change property after.status.finalClaim
    have pending := processed.pending
    rw [processed.found] at pending
    rw [status] at success ⊢
    unfold completedStatus at success ⊢
    split at success
    · rw [if_pos ‹_›]
      exact cast content listed
    · split at success
      · cases success
      · exact absurd (pending.symm.trans success) (by decide)

/-- Every message keeps the stored prophecies lists of ballots. -/
theorem recorded_step {delivery : Delivery} (recorded : Recorded env.codec state)
    (delivered : deliver env state delivery = .ok next) : Recorded env.codec next := by
  unfold deliver at delivered
  split at delivered
  · next claim kind =>
    simp only [Result.bind_ok, Result.pure_ok] at delivered
    obtain ⟨result, accepted, rfl⟩ := delivered
    exact recorded.claimed accepted
  · exact recorded.congr (processUpdateWhiteListValidator_ok delivered)

end Akhira.Verif.Oracle
