import Akhira.Verif.OracleSafety

/-!
# The two maps of a prophecy agree

A validator is listed under a content just when the content is its own, and it is listed there once.
A claim is refused unless its address is spelled as the white list writes it, so the check for a
second claim, which reads the spelling of the claim, finds the first one.
-/
namespace Akhira.Verif.Oracle

open Akhira.Base Akhira.Sdk Akhira.Oracle

variable {codec : ValCodec} {prophecy : Prophecy} {ballots : List (ValAddress × String)}

/-- The validators that `FindHighestClaim` visits, content by content. -/
def visited (order : MapOrder) (prophecy : Prophecy) : List (Option ValAddress) :=
  (order.enumerate prophecy.claimValidators.entries).flatMap Prod.snd

/-- The maps of a prophecy list a validator once, under its own content. -/
structure Agrees (codec : ValCodec) (prophecy : Prophecy) : Prop where
  listed : ∀ address content, (prophecy.validatorsOf content).count address =
    if prophecy.validatorClaims.get (codec.text address) = some content then 1 else 0
  /-- The power of a validator is counted once, whichever order the contents are visited in. -/
  counted : ∀ (staking : Staking) (order : MapOrder) (whiteList : List ValAddress),
    (visited order prophecy).Nodup ∧
      (prophecy.findHighestClaim codec staking order whiteList).1.totalClaims =
        ((visited order prophecy).map (claimantPower codec
          (validatorsByAddress codec staking.bondedValidators))).sum

/-- The power of all lists is the sum of the powers of each. -/
theorem listedPower_flatMap (staking : Staking)
    (entries : List (String × List (Option ValAddress))) :
    (entries.map fun entry => (listedPower staking entry.2.reduceOption : Int)).sum =
      listedPower staking (entries.flatMap Prod.snd).reduceOption := by
  induction entries with
  | nil => rfl
  | cons entry entries ih =>
    rw [List.map_cons, List.sum_cons, ih, List.flatMap_cons, listedPower, listedPower, listedPower,
      List.reduceOption_append, List.map_append, List.sum_append, Nat.cast_add]

namespace Ballots

/-- A validator is listed under the content of its ballot. -/
theorem mem_validatorsOf (recorded : Ballots codec prophecy ballots) {address : ValAddress}
    {content : String} :
    address ∈ prophecy.validatorsOf content ↔ (address, content) ∈ ballots := by
  rw [recorded.validatorsOf, List.mem_map]
  constructor
  · rintro ⟨ballot, cast, rfl⟩
    obtain ⟨held, chosen⟩ := List.mem_filter.mp cast
    rw [decide_eq_true_eq] at chosen
    rwa [← chosen]
  · intro cast
    exact ⟨_, List.mem_filter.mpr ⟨cast, decide_eq_true rfl⟩, rfl⟩

/-- A validator has one ballot. -/
theorem content_unique (recorded : Ballots codec prophecy ballots) {address : ValAddress}
    {left right : String} (first : (address, left) ∈ ballots) (second : (address, right) ∈ ballots) :
    left = right := by
  have held := (recorded.contents address left).mpr first
  rw [(recorded.contents address right).mpr second] at held
  exact (Option.some.inj held).symm

/-- No validator is visited twice. -/
theorem visited_nodup (recorded : Ballots codec prophecy ballots) (order : MapOrder) :
    (visited order prophecy).Nodup := by
  have own : ∀ entry ∈ prophecy.claimValidators.entries,
      entry.2 = (prophecy.validatorsOf entry.1).map some := by
    intro entry stored
    have held : entry.2 = prophecy.listedUnder entry.1 := by
      rw [Prophecy.listedUnder, (prophecy.claimValidators.get_eq_some).mpr stored]
      rfl
    rw [held, recorded.listedUnder, recorded.validatorsOf, List.map_map]
    rfl
  rw [visited, ((order.visits _).flatMap_right _).nodup_iff, List.nodup_flatMap]
  refine ⟨fun entry stored => ?_, ?_⟩
  · rw [own entry stored]
    exact (recorded.distinct entry.1).map (Option.some_injective _)
  · -- a validator in two lists would have two ballots
    refine prophecy.claimValidators.sorted.imp_of_mem ?_
    intro left right leftStored rightStored before listed first second
    rw [own left leftStored, List.mem_map] at first
    rw [own right rightStored, List.mem_map] at second
    obtain ⟨address, first, rfl⟩ := first
    obtain ⟨_, second, same⟩ := second
    rw [Option.some.inj same, recorded.mem_validatorsOf] at second
    rw [recorded.mem_validatorsOf] at first
    exact before.ne (recorded.content_unique first second)

/-- The lists of a recorded prophecy agree with one another. -/
theorem agrees (recorded : Ballots codec prophecy ballots) : Agrees codec prophecy where
  listed address content := by
    by_cases cast : (address, content) ∈ ballots
    · rw [if_pos ((recorded.contents address content).mpr cast)]
      exact List.count_eq_one_of_mem (recorded.distinct content)
        (recorded.mem_validatorsOf.mpr cast)
    · rw [if_neg (mt (recorded.contents address content).mp cast)]
      exact List.count_eq_zero_of_not_mem (mt recorded.mem_validatorsOf.mp cast)
  counted staking order whiteList := by
    refine ⟨recorded.visited_nodup order, ?_⟩
    have total := (@findHighestClaim_found codec staking order prophecy whiteList).total
    rw [claimPower_eq, total, Int.zero_add, listedPower_flatMap]
    rfl

end Ballots

/-- In every prophecy that any claims, in any spelling of their validators, and changes of the white
list have led to, the maps agree. -/
theorem stored_maps_agree (env : Environment) (state : State)
    (noProphecies : state.prophecies = Store.empty) (deliveries : List Delivery) (id : String)
    (prophecy : Prophecy)
    (stored : (run (deliver env) state deliveries).getProphecy env.codec id = some prophecy) :
    Agrees env.codec prophecy := by
  have recorded : Recorded env.codec (run (deliver env) state deliveries) :=
    @run_invariant _ _ _ (deliver env) (fun _ _ => True) (Recorded env.codec)
      (fun _ _ _ before _ delivered => recorded_step before delivered) _
      (Recorded.empty noProphecies) _ (meets_of_forall (fun _ _ => trivial) _ _)
  obtain ⟨-, ballots, held⟩ := recorded id prophecy stored
  exact held.agrees

section Sample

/-- Two validators claim, the first one a second time in capital letters. -/
def spelledClaims : List Delivery :=
  let context : Context := ⟨unevenStaking, ascending⟩
  [claimBy context 2 "7" "paid",
    ⟨context, .claim ⟨"7", (operatorText (operator 2)).toUpper, "kept"⟩⟩,
    claimBy context 3 "7" "kept"]

/-- Two spellings of one validator leave one vote in lists that agree. -/
theorem spelled_claims_agree :
    ∃ prophecy, (run (deliver appEnvironment) (oracleWith [operator 1, operator 2, operator 3])
        spelledClaims).getProphecy operatorCodec "7" = some prophecy ∧
      prophecy.claimValidators.entries = [("kept", [some (operator 3)]), ("paid", [some (operator 2)])] ∧
      Agrees operatorCodec prophecy := by
  have listed : ((run (deliver appEnvironment)
      (oracleWith [operator 1, operator 2, operator 3]) spelledClaims).getProphecy operatorCodec
        "7").map (fun prophecy => prophecy.claimValidators.entries) =
      some [("kept", [some (operator 3)]), ("paid", [some (operator 2)])] := by
    decide +kernel
  obtain ⟨prophecy, stored, entries⟩ := Option.map_eq_some_iff.mp listed
  exact ⟨prophecy, stored, entries, stored_maps_agree appEnvironment
    (oracleWith [operator 1, operator 2, operator 3]) rfl spelledClaims "7" prophecy stored⟩

end Sample

end Akhira.Verif.Oracle
