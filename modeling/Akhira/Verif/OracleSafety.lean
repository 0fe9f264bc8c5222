import Akhira.Verif.OracleProphecy

/-!
# What the power behind a success is

The power of a content counts every recorded claimant that is bonded, while the power it
is compared with counts white-listed validators. The two fit together when the bonded
claimants are still white-listed. Otherwise a content can succeed on the power of
validators that have left the white list, and several contents can succeed at once, of
which each node then takes the first it enumerates.
-/
namespace Akhira.Verif.Oracle

open Akhira.Base Akhira.Sdk Akhira.Oracle

variable {env : Environment} {context : Context} {state next : State}

/-- The bonded claimants of a prophecy are white-listed. -/
def ClaimantsWhiteListed (codec : ValCodec) (staking : Staking) (state : State) (id : String) :
    Prop :=
  ∀ prophecy ∈ (state.getProphecy codec id).toList,
    ∀ entry ∈ prophecy.claimValidators.entries, ∀ address ∈ entry.2.reduceOption,
      ∀ validator ∈ staking.bondedValidators,
        validator.operator = address → address ∈ state.whiteList

/-- Whether the claimants are white-listed is decided over the recorded ones. -/
instance (codec : ValCodec) (staking : Staking) (state : State) (id : String) :
    Decidable (ClaimantsWhiteListed codec staking state id) :=
  inferInstanceAs (Decidable (∀ _ ∈ _, _))

/-- After a claim, the claimants with power are white-listed. -/
theorem Voted.whiteListed {claim : Claim} {address : ValAddress}
    {ballots : List (ValAddress × String)} {after : Prophecy} {result : State × Status}
    (voted : Voted env context state claim address ballots after result)
    (own : address ∈ state.whiteList)
    (others : ClaimantsWhiteListed env.codec context.staking state claim.id) (content : String) :
    ∀ claimant ∈ after.validatorsOf content,
      powerOf context.staking claimant ≠ 0 → claimant ∈ state.whiteList := by
  intro claimant listed power
  obtain ⟨validator, bonded, operator⟩ := mem_operators_of_power power
  rw [voted.recorded.validatorsOf, ballotsFor_concat, List.map_append, List.mem_append] at listed
  rcases listed with earlier | added
  · obtain ⟨ballot, cast, rfl⟩ := List.mem_map.mp earlier
    rw [ballotsFor, List.mem_filter, decide_eq_true_eq] at cast
    have stored := voted.before.listed ballot.2 (List.mem_map_of_mem cast.1)
    unfold State.prophecyOrNew at stored
    cases found : state.getProphecy env.codec claim.id with
    | none =>
      rw [found] at stored
      cases stored
    | some prophecy =>
      rw [found] at stored
      refine others prophecy (by rw [found]; exact List.mem_singleton_self _) _
        (prophecy.claimValidators.get_eq_some.mp stored) ballot.1 ?_ validator bonded operator
      rw [List.reduceOption_mem_iff]
      apply List.mem_map.mpr ⟨ballot, ?_, rfl⟩
      rw [ballotsFor, List.mem_filter, decide_eq_true_eq]
      exact ⟨cast.1, rfl⟩
  · split at added
    · rw [List.map_singleton, List.mem_singleton] at added
      rw [added]
      exact own
    · cases added

/-- A pending prophecy that is completed with success has reached the share. -/
theorem reached_of_success {total cast power : Int} {content final : String} {status : Status}
    (pending : status.text = .pending)
    (success : completedStatus env total cast power content status = ⟨.success, final⟩) :
    content = final ∧ env.consensusNeeded.reachedBy power total = true := by
  unfold completedStatus at success
  split at success
  · next reached =>
    cases success
    exact ⟨rfl, reached⟩
  · split at success
    · cases success
    · rw [success] at pending
      cases pending

/-- A share that is reached, as an inequality between numbers. -/
theorem le_of_reachedBy {needed : Consensus} {power total : Nat}
    (reached : needed.reachedBy power total = true) :
    needed.numerator * total ≤ power * needed.denominator := by
  unfold Consensus.reachedBy at reached
  split at reached
  · next zero =>
    have nothing : total = 0 := by exact_mod_cast zero
    rw [nothing, Nat.mul_zero]
    exact Nat.zero_le _
  · have share := of_decide_eq_true reached
    exact_mod_cast share

/-- A claim that makes its prophecy succeed on white-listed claimants only is backed. -/
theorem Processed.backed {claim : Claim} {address : ValAddress} {before : Prophecy}
    {result : State × Status} {content : String}
    (processed : Processed env context state claim address before result)
    (recorded : Recorded env.codec state)
    (whiteListed : ClaimantsWhiteListed env.codec context.staking state claim.id)
    (success : (result.1.prophecyOrNew env.codec claim.id).status = ⟨.success, content⟩) :
    env.consensusNeeded.numerator * eligiblePower context.staking state.whiteList ≤
      agreedPower context.staking state.whiteList
        ((result.1.prophecyOrNew env.codec claim.id).validatorsOf content) *
          env.consensusNeeded.denominator := by
  obtain ⟨ballots, after, voted⟩ := processed.voted recorded
  have pending := processed.pending
  have left : result.1.prophecyOrNew env.codec claim.id = after := by
    rw [voted.written, ← voted.id_eq]
    exact prophecyOrNew_set_same _ _
  obtain ⟨winner, -, -, status⟩ :=
    processCompletion_status voted.added (by simp) state.whiteList
  rw [processed.found] at pending
  rw [left] at success ⊢
  rw [← voted.completed, success] at status
  obtain ⟨rfl, reached⟩ := reached_of_success pending status.symm
  have held := le_of_reachedBy reached
  rw [← voted.recorded.tally_eq] at held
  have agreed := listedPower_le_agreed (voted.recorded.distinct winner)
    (voted.whiteListed processed.whiteListed whiteListed winner)
  exact held.trans (Nat.mul_le_mul_right _ agreed)

/-- In every run from a store without prophecies, when a message makes a prophecy succeed whose
bonded claimants were white-listed, the white-listed bonded validators that have claimed its
content hold the required share of the power. -/
theorem success_backed (env : Environment) (start : State)
    (noProphecies : start.prophecies = Store.empty) (deliveries : List Delivery)
    (delivery : Delivery) (id content : String)
    (whiteListed : ClaimantsWhiteListed env.codec delivery.context.staking
      (run (deliver env) start deliveries) id)
    (before : ((run (deliver env) start deliveries).prophecyOrNew env.codec id).status.text ≠
      .success)
    (after : ((run (deliver env) start (deliveries ++ [delivery])).prophecyOrNew env.codec
      id).status = ⟨.success, content⟩) :
    env.consensusNeeded.numerator * eligiblePower delivery.context.staking
        (run (deliver env) start (deliveries ++ [delivery])).whiteList ≤
      agreedPower delivery.context.staking
        (run (deliver env) start (deliveries ++ [delivery])).whiteList
        (((run (deliver env) start (deliveries ++ [delivery])).prophecyOrNew env.codec
          id).validatorsOf content) * env.consensusNeeded.denominator := by
  have recorded : Recorded env.codec (run (deliver env) start deliveries) := by
    have kept : ∀ state delivery next, Recorded env.codec state → True →
        deliver env state delivery = .ok next → Recorded env.codec next :=
      fun _ _ _ holds _ => recorded_step holds
    exact run_invariant kept (Recorded.empty noProphecies)
      (meets_of_forall (fun _ _ => trivial) start deliveries)
  have stepped : run (deliver env) start (deliveries ++ [delivery]) =
      attempt (deliver env) (run (deliver env) start deliveries) delivery := run_append ..
  rw [stepped] at after ⊢
  generalize run (deliver env) start deliveries = state at *
  rcases @attempt_cases _ _ _ (deliver env) state delivery with same | ⟨next, delivered, same⟩
  · rw [same] at after
    rw [after] at before
    exact absurd rfl before
  rw [same] at after ⊢
  unfold deliver at delivered
  split at delivered
  · next claim kind =>
    simp only [Result.bind_ok, Result.pure_ok] at delivered
    obtain ⟨result, accepted, rfl⟩ := delivered
    have advanced := processClaim_advanced recorded accepted
    by_cases same_id : id = claim.id
    · subst same_id
      obtain ⟨address, prophecy, processed⟩ := processClaim_ok.mp accepted
      rw [advanced.whiteList]
      exact processed.backed recorded whiteListed after
    · rw [advanced.others id same_id] at after
      rw [after] at before
      exact absurd rfl before
  · next sender validator operationtype kind =>
    have kept := processUpdateWhiteListValidator_ok delivered
    rw [prophecyOrNew_congr kept] at after
    rw [after] at before
    exact absurd rfl before

section Sample

/-- The validator address of twenty equal bytes. -/
def operator (byte : UInt8) : ValAddress := ⟨List.replicate 20 byte, by simp⟩

/-- The texts of the first four of them. -/
def operatorTexts : List (ValAddress × String) :=
  [(operator 1, "akvaloper1qyqszqgpqyqszqgpqyqszqgpqyqszqgpledgsm"),
   (operator 2, "akvaloper1qgpqyqszqgpqyqszqgpqyqszqgpqyqszwatdmd"),
   (operator 3, "akvaloper1qvpsxqcrqvpsxqcrqvpsxqcrqvpsxqcr0d2v3v"),
   (operator 4, "akvaloper1qszqgpqyqszqgpqyqszqgpqyqszqgpqy0adfks")]

/-- The same texts in capitals, which are read too. -/
def operatorCapitals : List (ValAddress × String) :=
  [(operator 1, "AKVALOPER1QYQSZQGPQYQSZQGPQYQSZQGPQYQSZQGPLEDGSM"),
   (operator 2, "AKVALOPER1QGPQYQSZQGPQYQSZQGPQYQSZQGPQYQSZWATDMD"),
   (operator 3, "AKVALOPER1QVPSXQCRQVPSXQCRQVPSXQCRQVPSXQCR0D2V3V"),
   (operator 4, "AKVALOPER1QSZQGPQYQSZQGPQYQSZQGPQYQSZQGPQY0ADFKS")]

-- Addresses outside the table are written byte by byte after a mark no bech32 text has.

/-- A text for every address that is not one of the sample's: its bytes behind a mark. -/
def markedText (address : ValAddress) : String :=
  String.ofList ('#' :: address.bytes.map fun byte => Char.ofNat byte.toNat)

/-- The address behind the mark. -/
def readMarked (text : String) : Option ValAddress :=
  match text.toList with
  | '#' :: chars =>
    let bytes := chars.map fun char => UInt8.ofNat char.toNat
    if fits : 0 < bytes.length ∧ bytes.length ≤ 255 then some ⟨bytes, fits⟩ else none
  | _ => none

/-- A marked address is read back. -/
theorem readMarked_markedText (address : ValAddress) :
    readMarked (markedText address) = some address := by
  have bytes : (address.bytes.map fun byte => Char.ofNat byte.toNat).map
      (fun char => UInt8.ofNat char.toNat) = address.bytes := by
    rw [List.map_map]
    refine List.map_id'' (fun byte => ?_) _
    have small : byte.toNat < 256 := byte.toNat_lt
    have valid : byte.toNat.isValidChar := Or.inl (by omega)
    rw [Function.comp_apply, Char.toNat_ofNat, if_pos valid, UInt8.ofNat_toNat]
  unfold readMarked markedText
  simp only [String.toList_ofList]
  simp only [bytes, address.fits, and_self, dite_true]

/-- The address of a sample validator, or else the marked one. -/
def operatorText (address : ValAddress) : String :=
  match operatorTexts.find? fun entry => entry.1 = address with
  | some entry => entry.2
  | none => markedText address

/-- A sample validator from its text in either case, or else the marked address. -/
def readOperator (text : String) : Option ValAddress :=
  match (operatorTexts ++ operatorCapitals).find? fun entry => entry.2 = text with
  | some entry => some entry.1
  | none => readMarked text

/-- Every address is read back from its text. -/
theorem readOperator_operatorText (address : ValAddress) :
    readOperator (operatorText address) = some address := by
  unfold operatorText
  split
  · next entry found =>
    have listed := List.mem_of_find?_eq_some found
    have own : entry.1 = address := by simpa using List.find?_some found
    have read : ∀ entry ∈ operatorTexts, readOperator entry.2 = some entry.1 := by
      decide +kernel
    rw [read entry listed, own]
  · have unlisted : ((operatorTexts ++ operatorCapitals).find? fun entry =>
        entry.2 = markedText address) = none := by
      have unmarked : ∀ entry ∈ operatorTexts ++ operatorCapitals,
          entry.2.toList.head? ≠ some '#' := by
        decide +kernel
      have marked : (markedText address).toList.head? = some '#' := by simp [markedText]
      rw [List.find?_eq_none]
      rintro entry listed same
      exact unmarked entry listed (of_decide_eq_true same ▸ marked)
    rw [readOperator, unlisted]
    exact readMarked_markedText address

/-- No validator is read from an empty text. -/
theorem readOperator_empty : readOperator "" = none :=
  Option.isNone_iff_eq_none.mp (by decide +kernel)

/-- The codec of these texts. -/
def operatorCodec : ValCodec :=
  ⟨operatorText, readOperator, readOperator_operatorText, readOperator_empty⟩

/-- The environment of the app. -/
def appEnvironment : Environment := ⟨operatorCodec, defaultConsensusNeeded⟩

/-- Bonded validators with the given powers. -/
def bondedWith (powers : List (UInt8 × Nat)) : List Validator :=
  powers.map fun power => ⟨operator power.1, power.2 * powerReduction, true⟩

/-- The validators 1, 2 and 3 with half, three and two tenths of the power. -/
def unevenStaking : Staking where
  getValidator address := (bondedWith [(1, 50), (2, 30), (3, 20)]).find? fun validator =>
    validator.operator = address
  bondedValidators := bondedWith [(1, 50), (2, 30), (3, 20)]
  distinct := by decide +kernel
  listed := by decide +kernel

/-- Maps are walked in the order of their keys. -/
def ascending : MapOrder := ⟨id, fun entries => .refl entries⟩

/-- Maps are walked against the order of their keys. -/
def descending : MapOrder := ⟨List.reverse, fun entries => entries.reverse_perm⟩

/-- The account that administers the oracle. -/
def adminAddress : AccAddress := List.replicate 20 9

/-- An oracle with a white list and no prophecy. -/
def oracleWith (whiteList : List ValAddress) : State := ⟨whiteList, adminAddress, Store.empty⟩

/-- A validator claims a content. -/
def claimBy (context : Context) (byte : UInt8) (id content : String) : Delivery :=
  ⟨context, .claim ⟨id, operatorText (operator byte), content⟩⟩

/-- The administrator takes a validator off the white list. -/
def unlist (context : Context) (byte : UInt8) : Delivery :=
  ⟨context, .updateWhiteListValidator adminAddress (operator byte) "remove"⟩

end Sample

/-- Two claims on one prophecy succeed with the power they need. -/
theorem two_claims_backed :
    let context : Context := ⟨unevenStaking, ascending⟩
    let start := oracleWith [operator 1, operator 2, operator 3]
    let after := run (deliver appEnvironment) start
      [claimBy context 1 "1" "lock", claimBy context 2 "1" "lock"]
    (after.prophecyOrNew operatorCodec "1").status = ⟨.success, "lock"⟩ ∧
      7 * eligiblePower unevenStaking after.whiteList ≤
        agreedPower unevenStaking after.whiteList
          ((after.prophecyOrNew operatorCodec "1").validatorsOf "lock") * 10 :=
  ⟨by decide +kernel,
    success_backed appEnvironment (oracleWith [operator 1, operator 2, operator 3]) rfl
      [claimBy ⟨unevenStaking, ascending⟩ 1 "1" "lock"]
      (claimBy ⟨unevenStaking, ascending⟩ 2 "1" "lock") "1" "lock"
      (by decide +kernel) (by decide +kernel) (by decide +kernel)⟩

/-- A claimant that has left the white list still counts for its content and no longer for the
power of the white list. -/
theorem unlisted_claimant_counts :
    let context : Context := ⟨unevenStaking, ascending⟩
    let start := oracleWith [operator 1, operator 2, operator 3]
    let after := run (deliver appEnvironment) start
      [claimBy context 1 "1" "lock", unlist context 1, claimBy context 2 "1" "lock"]
    (after.prophecyOrNew operatorCodec "1").status = ⟨.success, "lock"⟩ ∧
      eligiblePower unevenStaking after.whiteList = 50 ∧
      agreedPower unevenStaking after.whiteList
        ((after.prophecyOrNew operatorCodec "1").validatorsOf "lock") = 30 ∧
      ¬ 7 * 50 ≤ 30 * 10 := by
  decide +kernel

section Order

/-- Walking the same entries in another order finds the same powers. -/
theorem Found.unique {power : List (Option ValAddress) → Int} {start left right : Highest}
    {first second : List (String × List (Option ValAddress))} (same : first.Perm second)
    (foundLeft : Found power start first left) (foundRight : Found power start second right) :
    left.power = right.power ∧ left.totalClaims = right.totalClaims := by
  have below : ∀ {left right : Highest} {first second : List (String × List (Option ValAddress))},
      first.Perm second → Found power start first left → Found power start second right →
        left.power ≤ right.power := by
    intro left right first second same foundLeft foundRight
    rcases foundLeft.claim with ⟨-, untouched⟩ | ⟨entry, visited, -, -, held⟩
    · exact untouched ▸ foundRight.grown
    · exact held ▸ foundRight.highest entry (same.mem_iff.mp visited)
  refine ⟨Int.le_antisymm (below same foundLeft foundRight)
    (below same.symm foundRight foundLeft), ?_⟩
  rw [foundLeft.total, foundRight.total, (same.map _).sum_eq]

variable {staking : Staking} {whiteList : List ValAddress} {prophecy : Prophecy}

end Order

end Akhira.Verif.Oracle
