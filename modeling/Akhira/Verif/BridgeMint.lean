import Akhira.Base.Run
import Akhira.Verif.BridgeHandlers
import Akhira.Verif.OracleSafety

/-!
# Minting for a deposit

A prophecy that has left the pending status is never touched again, so the message that
makes it succeed is the only one that can mint for it.
-/
namespace Akhira.Verif.EthBridge

open Akhira.Base Akhira.Sdk Akhira.EthBridge

variable {env : Environment} {context : Context} {state next : State}

/-- The prophecy of an id. -/
def prophecyOf (env : Environment) (state : State) (id : String) : Oracle.Prophecy :=
  state.oracle.prophecyOrNew env.oracle.codec id

/-- The stored prophecies are lists of ballots under their own ids. -/
abbrev Sound (env : Environment) (state : State) : Prop :=
  Oracle.Recorded env.oracle.codec state.oracle

/-- A message that is not a claim leaves the prophecies and raises no supply. -/
theorem Effect.quiet {msg : Msg} (effect : Effect env context state next msg)
    (other : ∀ claim, msg ≠ .createEthBridgeClaim claim) :
    next.oracle.prophecies = state.oracle.prophecies ∧
      ∀ denom, next.bank.supply denom ≤ state.bank.supply denom := by
  cases effect with
  | claim claim oracleClaim status claimed => exact absurd rfl (other claim)
  | lock msg sender unpegged withdrawn =>
    refine ⟨by rw [withdrawn.rest], fun denom => ?_⟩
    have lowered := withdrawn.supply denom
    omega
  | burn msg sender pegged withdrawn =>
    refine ⟨by rw [withdrawn.rest], fun denom => ?_⟩
    have lowered := withdrawn.supply denom
    omega
  | whiteList msg prophecies rest => exact ⟨prophecies, fun denom => by rw [rest]⟩
  | cethReceiver msg rest =>
    rw [rest]
    exact ⟨rfl, fun denom => Nat.le_refl _⟩
  | rescue msg receiver unblocked supply balance rest =>
    exact ⟨by rw [rest], fun denom => by rw [supply]⟩
  | blacklist msg rest =>
    rw [rest]
    exact ⟨rfl, fun denom => Nat.le_refl _⟩

/-- A claim advances the one prophecy it is about. -/
theorem Claimed.advanced {claim : EthBridgeClaim} {oracleClaim : Oracle.Claim}
    {status : Oracle.Status} (sound : Sound env state)
    (claimed : Claimed env context state next claim oracleClaim status) :
    Oracle.Advanced env.oracle.codec state.oracle next.oracle claim.oracleID status := by
  rw [← claimed.id_eq]
  exact Oracle.processClaim_advanced sound claimed.processed

/-- A message that succeeds keeps the state sound. -/
theorem sound_step {delivery : Delivery} (sound : Sound env state)
    (delivered : deliver env state delivery = .ok next) : Sound env next := by
  have effect := deliver_effect delivered
  by_cases claims : ∃ claim, delivery.msg = .createEthBridgeClaim claim
  · obtain ⟨claim, is_claim⟩ := claims
    rw [is_claim] at effect
    cases effect with
    | claim _ oracleClaim status claimed => exact sound.claimed claimed.processed
  · have others : ∀ claim, delivery.msg ≠ .createEthBridgeClaim claim :=
      fun claim is_claim => claims ⟨claim, is_claim⟩
    exact sound.congr (effect.quiet others).1

/-- A message keeps the state sound, also when it fails. -/
theorem sound_attempt (state : State) (delivery : Delivery) (sound : Sound env state) :
    Sound env (attempt (deliver env) state delivery) := by
  rcases @attempt_cases _ _ _ (deliver env) state delivery with same | ⟨next, delivered, same⟩
  · rw [same]
    exact sound
  · rw [same]
    exact sound_step sound delivered

/-- A prophecy that is no longer pending stays as it is. -/
theorem finished_step {delivery : Delivery} {id : String} (sound : Sound env state)
    (finished : (prophecyOf env state id).status.text ≠ .pending)
    (delivered : deliver env state delivery = .ok next) :
    prophecyOf env next id = prophecyOf env state id := by
  have effect := deliver_effect delivered
  by_cases claims : ∃ claim, delivery.msg = .createEthBridgeClaim claim
  · obtain ⟨claim, is_claim⟩ := claims
    rw [is_claim] at effect
    cases effect with
    | claim _ oracleClaim status claimed =>
      have advanced := claimed.advanced sound
      apply advanced.others
      intro own
      rw [own] at finished
      exact finished advanced.pending
  · have others : ∀ claim, delivery.msg ≠ .createEthBridgeClaim claim :=
      fun claim is_claim => claims ⟨claim, is_claim⟩
    exact Oracle.prophecyOrNew_congr (effect.quiet others).1 id

/-- A prophecy that is not pending any more never changes. -/
theorem finished_attempt {delivery : Delivery} {id : String} (sound : Sound env state)
    (finished : (prophecyOf env state id).status.text ≠ .pending) :
    prophecyOf env (attempt (deliver env) state delivery) id = prophecyOf env state id := by
  rcases @attempt_cases _ _ _ (deliver env) state delivery with same | ⟨next, delivered, same⟩
  · rw [same]
  · rw [same]
    exact finished_step sound finished delivered

/-- A finished prophecy is the same at the end of every run. -/
theorem finished_run {id : String} (sound : Sound env state)
    (finished : (prophecyOf env state id).status.text ≠ .pending) (deliveries : List Delivery) :
    prophecyOf env (run (deliver env) state deliveries) id = prophecyOf env state id := by
  induction deliveries generalizing state with
  | nil => rfl
  | cons delivery rest ih =>
    have kept := @finished_attempt env state delivery id sound finished
    have later := ih (sound_attempt state delivery sound) (by rw [kept]; exact finished)
    exact later.trans kept

/-- A delivery turns the prophecy of an id into a success. -/
def Succeeds (env : Environment) (id : String) (transition : Transition State Delivery) : Prop :=
  (prophecyOf env transition.before id).status.text ≠ .success ∧
    (prophecyOf env transition.after id).status.text = .success

/-- A delivery of a claim for an id raises a supply. -/
def MintsFor (id : String) (transition : Transition State Delivery) : Prop :=
  (∃ claim, transition.message.msg = .createEthBridgeClaim claim ∧ claim.oracleID = id) ∧
    ∃ denom, transition.before.bank.supply denom < transition.after.bank.supply denom

/-- The coins of a success are those its final claim names. -/
def PaysFinalClaim (env : Environment) (id : String) (transition : Transition State Delivery) :
    Prop :=
  ∃ content denom,
    env.contents.unmarshal (prophecyOf env transition.after id).status.finalClaim = some content ∧
      content.denom = some denom ∧ 0 ≤ content.amount.val ∧
      Paid transition.before.bank transition.after.bank content.cosmosReceiver denom
        content.amount.val.toNat

section Transitions

variable {transition : Transition State Delivery}

/-- A claim turns only its own prophecy, and pays when it does. -/
theorem Claimed.succeeds {claim : EthBridgeClaim} {oracleClaim : Oracle.Claim}
    {status : Oracle.Status} {id : String} (sound : Sound env transition.before)
    (claimed : Claimed env context transition.before transition.after claim oracleClaim status)
    (succeeds : Succeeds env id transition) :
    claim.oracleID = id ∧ PaysFinalClaim env id transition := by
  have advanced := claimed.advanced sound
  have own : id = claim.oracleID := by
    by_contra other
    have same : prophecyOf env transition.after id = prophecyOf env transition.before id :=
      advanced.others id other
    rw [Succeeds, same] at succeeds
    exact succeeds.1 succeeds.2
  subst own
  have status_eq : (prophecyOf env transition.after claim.oracleID).status = status :=
    advanced.status_eq
  have success := succeeds.2
  rw [status_eq] at success
  obtain ⟨content, denom, minted⟩ := claimed.paid success
  refine ⟨rfl, content, denom, ?_, minted.named, minted.nonnegative, minted.paid⟩
  rw [status_eq]
  exact minted.decoded

/-- A claim that raises a supply turns its prophecy into a success. -/
theorem Claimed.mints {claim : EthBridgeClaim} {oracleClaim : Oracle.Claim}
    {status : Oracle.Status} {denom : Denom} (sound : Sound env transition.before)
    (claimed : Claimed env context transition.before transition.after claim oracleClaim status)
    (raised : transition.before.bank.supply denom < transition.after.bank.supply denom) :
    Succeeds env claim.oracleID transition := by
  have advanced := claimed.advanced sound
  have success : status.text = .success := by
    by_contra unsuccessful
    rw [claimed.unpaid unsuccessful] at raised
    exact Nat.lt_irrefl _ raised
  have before : (prophecyOf env transition.before claim.oracleID).status.text = .pending :=
    advanced.pending
  have after : (prophecyOf env transition.after claim.oracleID).status = status :=
    advanced.status_eq
  exact ⟨by rw [before]; decide, by rw [after, success]⟩

/-- What one delivery from a sound state does to a prophecy and the supplies. -/
theorem transition_effect (sound : Sound env transition.before)
    (stepped : transition.after = attempt (deliver env) transition.before transition.message) :
    (∀ id, Succeeds env id transition → PaysFinalClaim env id transition) ∧
      (∀ id, MintsFor id transition → Succeeds env id transition) ∧
      ∀ denom, transition.before.bank.supply denom < transition.after.bank.supply denom →
        ∃ id, MintsFor id transition := by
  rcases @attempt_cases _ _ _ (deliver env) transition.before transition.message with
    same | ⟨next, delivered, same⟩
  · rw [same] at stepped
    refine ⟨fun id succeeds => ?_, fun id mints => ?_, fun denom raised => ?_⟩
    · rw [Succeeds, stepped] at succeeds
      exact absurd succeeds.2 succeeds.1
    · obtain ⟨-, denom, raised⟩ := mints
      rw [stepped] at raised
      exact absurd raised (Nat.lt_irrefl _)
    · rw [stepped] at raised
      exact absurd raised (Nat.lt_irrefl _)
  · rw [same] at stepped
    have effect := deliver_effect delivered
    rw [← stepped] at effect
    by_cases claims : ∃ claim, transition.message.msg = .createEthBridgeClaim claim
    · obtain ⟨claim, is_claim⟩ := claims
      rw [is_claim] at effect
      cases effect with
      | claim _ oracleClaim status claimed =>
        refine ⟨fun id succeeds => (claimed.succeeds sound succeeds).2, fun id mints => ?_,
          fun denom raised => ⟨claim.oracleID, ⟨claim, is_claim, rfl⟩, denom, raised⟩⟩
        obtain ⟨⟨other, is_other, rfl⟩, denom, raised⟩ := mints
        rw [is_claim, Msg.createEthBridgeClaim.injEq] at is_other
        rw [← is_other]
        exact claimed.mints sound raised
    · have others : ∀ claim, transition.message.msg ≠ .createEthBridgeClaim claim :=
        fun claim is_claim => claims ⟨claim, is_claim⟩
      obtain ⟨prophecies, supply⟩ := effect.quiet others
      refine ⟨fun id succeeds => ?_, fun id mints => ?_, fun denom raised => ?_⟩
      · have kept : prophecyOf env transition.after id = prophecyOf env transition.before id :=
          Oracle.prophecyOrNew_congr prophecies id
        rw [Succeeds, kept] at succeeds
        exact absurd succeeds.2 succeeds.1
      · obtain ⟨⟨claim, is_claim, -⟩, -⟩ := mints
        exact absurd is_claim (others claim)
      · exact absurd raised (Nat.not_lt.mpr (supply denom))

end Transitions

/-- In every run of bridge messages from a store without prophecies: a prophecy that has left the
pending status never changes; every raise of a supply is for one id, in the message that turns the
prophecy of that id into a success; that message pays what the final claim names; and no id is
minted for twice. -/
theorem minted_at_most_once (env : Environment) (start : State)
    (noProphecies : start.oracle.prophecies = Store.empty) (deliveries : List Delivery) :
    (∀ earlier later id, deliveries = earlier ++ later →
      (prophecyOf env (run (deliver env) start earlier) id).status.text ≠ .pending →
      prophecyOf env (run (deliver env) start deliveries) id =
        prophecyOf env (run (deliver env) start earlier) id) ∧
    (∀ transition ∈ transitions (deliver env) start deliveries,
      (∀ denom, transition.before.bank.supply denom < transition.after.bank.supply denom →
        ∃ id, MintsFor id transition) ∧
      (∀ id, MintsFor id transition → Succeeds env id transition) ∧
      ∀ id, Succeeds env id transition → PaysFinalClaim env id transition) ∧
    ∀ id, (transitions (deliver env) start deliveries).Pairwise fun earlier later =>
      ¬ (MintsFor id earlier ∧ MintsFor id later) := by
  have sound : Sound env start := Oracle.Recorded.empty noProphecies
  refine ⟨?_, ?_, fun id => ?_⟩
  · rintro earlier later id rfl finished
    have reached : Sound env (run (deliver env) start earlier) :=
      attempt_invariant (fun state delivery holds _ => sound_attempt state delivery holds) sound
        (meets_of_forall (fun _ _ => trivial) start earlier)
    rw [run_append]
    exact finished_run reached finished later
  · intro transition member
    obtain ⟨before, -, stepped⟩ := transitions_meets (fun state delivery holds _ =>
      sound_attempt state delivery holds) sound (meets_of_forall (fun _ _ => trivial) start deliveries)
      transition member
    obtain ⟨pays, mints, every⟩ := transition_effect before stepped
    exact ⟨every, mints, pays⟩
  · -- a success is final, and only the delivery that reaches it mints
    refine @happens_at_most_once _ _ _ (deliver env) (Sound env)
      (fun state => (prophecyOf env state id).status.text = .success) (MintsFor id)
      sound_attempt ?_ ?_ start sound deliveries
    · intro state delivery holds success
      rw [finished_attempt holds (by rw [success]; decide)]
      exact success
    · intro transition before stepped mints
      exact (transition_effect before stepped).2.1 id mints

section Sample

/-- The account that receives ether in the sample. -/
def aliceAddress : AccAddress := List.replicate 20 1

/-- The account's address as it is written. -/
def aliceText : String := "ak1qyqszqgpqyqszqgpqyqszqgpqyqszqgpz09ut2"

/-- The address of the bridge's module account. -/
def bridgeAddress : AccAddress :=
  [252, 90, 149, 166, 165, 47, 42, 134, 55, 60, 224, 155, 245, 5, 12, 170, 94, 102, 174, 124]

/-- A chain that reads one text as the account. -/
def chainReading (known : String) : Chain where
  accAddressFromBech32 text := if text = known then some aliceAddress else none
  accAddressText address := if address = aliceAddress then known else "ak1"
  moduleAddress _ := bridgeAddress
  blockedAddr address := address = bridgeAddress

/-- The sample chain reads the account's address. -/
def bridgeChain : Chain := chainReading aliceText

/-- The null address, which stands for ether. -/
def zeroAddressText : String := "0x0000000000000000000000000000000000000000"

/-- One ether in wei fits an `Int`. -/
theorem wei_bounded : ((10 : Int) ^ 18).natAbs < 2 ^ 256 := by decide

/-- One ether. -/
def weiAmount : SInt := ⟨10 ^ 18, wei_bounded⟩

/-- The fee of a lock fits an `Int`. -/
theorem lockGasCost_bounded : (lockGasCost : Int).natAbs < 2 ^ 256 := by decide

/-- One ether for the account. -/
def etherContent : OracleClaimContent := ⟨aliceAddress, weiAmount, "eth", 0, .lock⟩

/-- The content of the claim as it is stored. -/
def etherText : String :=
  "\x7b\"cosmos_receiver\":\"ak1qyqszqgpqyqszqgpqyqszqgpqyqszqgpz09ut2\"," ++
  "\"amount\":\"1000000000000000000\",\"symbol\":\"eth\"," ++
  "\"token_contract_address\":\"0x0000000000000000000000000000000000000000\"," ++
  "\"claim_type\":2\x7d"

/-- Codecs that know this one content. -/
def etherContents : ContentCodec where
  marshal content := if content = etherContent then etherText else "\x7b\x7d"
  unmarshal text := if text = etherText then some etherContent else none

/-- The environment of the sample. -/
def bridgeEnvironment : Environment := ⟨bridgeChain, Oracle.appEnvironment, etherContents⟩

/-- Nothing is locked in any account, and nobody administers the registry. -/
def bridgeContext : Context where
  oracle := ⟨Oracle.unevenStaking, Oracle.ascending⟩
  locked _ _ := 0
  registryAdmin _ := false

/-- Three validators on the white list, and nothing else. -/
def bridgeState : State where
  oracle := Oracle.oracleWith [Oracle.operator 1, Oracle.operator 2, Oracle.operator 3]
  bank := ⟨⟨fun _ _ => 0⟩, fun _ => 0⟩
  peggyTokens := []
  cethReceiverAccount := ""
  blacklist := []
  accounts _ := none

/-- The deposit of one ether as a validator reports it. -/
def etherClaimBy (byte : UInt8) : EthBridgeClaim where
  ethereumChainId := 1
  bridgeContractAddress := zeroAddressText
  nonce := 7
  symbol := "eth"
  tokenContractAddress := zeroAddressText
  ethereumSender := "0x52908400098527886E0F7030069857D2E4169EE7"
  cosmosReceiver := aliceText
  validatorAddress := Oracle.operatorText (Oracle.operator byte)
  amount := weiAmount
  claimType := .lock

/-- The report of one ether by a validator. -/
def reportEther (byte : UInt8) : Delivery :=
  ⟨bridgeContext, .createEthBridgeClaim (etherClaimBy byte)⟩

end Sample

/-- Two of three reports make the deposit succeed, and the third is refused. -/
theorem ether_minted_once :
    let id := "170x52908400098527886E0F7030069857D2E4169EE7"
    let deliveries := [reportEther 1, reportEther 2, reportEther 3]
    (run (deliver bridgeEnvironment) bridgeState deliveries).bank.supply "ceth" = 10 ^ 18 ∧
      (transitions (deliver bridgeEnvironment) bridgeState deliveries).Pairwise
        fun earlier later => ¬ (MintsFor id earlier ∧ MintsFor id later) :=
  ⟨by decide +kernel,
    (minted_at_most_once bridgeEnvironment bridgeState rfl
      [reportEther 1, reportEther 2, reportEther 3]).2.2
        "170x52908400098527886E0F7030069857D2E4169EE7"⟩

end Akhira.Verif.EthBridge
