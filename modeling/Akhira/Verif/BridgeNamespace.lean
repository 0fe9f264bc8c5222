import Akhira.Verif.BridgeSupply
import Akhira.Verif.ContentJson

/-!
# Pegged and native denominations

What a lock prophecy mints is `c` followed by the symbol of an Ethereum asset. The list of pegged
tokens is asked by locks and burns, but not when a burn prophecy mints, and a denomination is not
on it before its first mint. Denominations keep apart when the messages keep to a division of them:
locks and burn claims name native ones, and lock claims name assets whose pegged denomination is
not native.
-/
namespace Akhira.Verif.EthBridge

open Akhira.Base Akhira.Sdk Akhira.EthBridge

variable {env : Environment} {context : Context} {state next : State} {native : Denom → Bool}

/-- A delivery makes a prophecy succeed whose content has a type and mints a denomination. -/
def mintsAs (env : Environment) (kind : ClaimType) (denom : Denom)
    (transition : Transition State Delivery) : Bool :=
  match transition.message.msg with
  | .createEthBridgeClaim claim =>
    decide (Succeeds env claim.oracleID transition) &&
      (env.contents.unmarshal
        (prophecyOf env transition.after claim.oracleID).status.finalClaim).any fun content =>
          content.claimType = kind && content.denom = some denom
  | _ => false

/-- A delivery is a successful lock of a denomination. -/
def locks (env : Environment) (denom : Denom) (transition : Transition State Delivery) : Bool :=
  match transition.message.msg with
  | .lock msg => (deliver env transition.before transition.message).isOk && msg.symbol = denom
  | _ => false

/-- A content of a type keeps to the division when its symbol does. -/
def keepsApart (native : Denom → Bool) : ClaimType → String → Bool
  | .lock, symbol => !native (peggedCoinPrefix ++ symbol)
  | .burn, symbol => native symbol
  | _, _ => true

/-- A message keeps to the division. A lock of a pegged token is refused, so it may name any. -/
def keepsNamespace (native : Denom → Bool) (state : State) (delivery : Delivery) : Bool :=
  match delivery.msg with
  | .lock msg => native msg.symbol || state.existsPeggyToken msg.symbol
  | .createEthBridgeClaim claim => keepsApart native claim.claimType claim.symbol
  | _ => true

/-- A text that is read as a content keeps to the division. -/
def TextKeeps (env : Environment) (native : Denom → Bool) (text : String) : Prop :=
  ∀ content, env.contents.unmarshal text = some content →
    keepsApart native content.claimType content.symbol = true

/-- The prophecies are well formed, and what is claimed in them keeps to the division. -/
structure Divided (env : Environment) (native : Denom → Bool) (state : State) : Prop where
  sound : Sound env state
  contents : Oracle.AllContents env.oracle.codec (TextKeeps env native) state.oracle

/-- A claim that keeps to the division leaves the prophecies divided, and what it pays out keeps to
it. -/
theorem Claimed.divided {claim : EthBridgeClaim} {oracleClaim : Oracle.Claim}
    {status : Oracle.Status} (reads : ReadsBack env.contents) (divided : Divided env native state)
    (keeps : keepsApart native claim.claimType claim.symbol = true)
    (claimed : Claimed env context state next claim oracleClaim status) :
    Divided env native next ∧ (status.text = .success → TextKeeps env native status.finalClaim) := by
  have own : TextKeeps env native oracleClaim.content := by
    intro content read
    obtain ⟨receiver, written⟩ := claimed.content_eq
    rw [written] at read
    rw [reads _ content read]
    exact keeps
  obtain ⟨contents, final⟩ := divided.contents.claimed divided.sound own claimed.processed
  exact ⟨⟨divided.sound.claimed claimed.processed, contents⟩, final⟩

/-- A message that keeps to the division leaves the prophecies divided, also when it fails. -/
theorem divided_attempt {delivery : Delivery} (reads : ReadsBack env.contents)
    (divided : Divided env native state) (keeps : keepsNamespace native state delivery = true) :
    Divided env native (attempt (deliver env) state delivery) := by
  rcases @attempt_cases _ _ _ (deliver env) state delivery with same | ⟨next, delivered, same⟩
  · rw [same]
    exact divided
  · rw [same]
    have effect := deliver_effect delivered
    by_cases claims : ∃ claim, delivery.msg = .createEthBridgeClaim claim
    · obtain ⟨claim, is_claim⟩ := claims
      unfold keepsNamespace at keeps
      rw [is_claim] at effect keeps
      cases effect with
      | claim _ oracleClaim status claimed => exact (claimed.divided reads divided keeps).1
    · have others : ∀ claim, delivery.msg ≠ .createEthBridgeClaim claim :=
        fun claim is_claim => claims ⟨claim, is_claim⟩
      have prophecies := (effect.quiet others).1
      exact ⟨divided.sound.congr prophecies, divided.contents.congr prophecies⟩

section Transitions

variable {transition : Transition State Delivery} {denom : Denom}

/-- A content that keeps to the division is minted on its side of it. -/
theorem keepsApart_denom {content : OracleClaimContent}
    (keeps : keepsApart native content.claimType content.symbol = true)
    (minted : content.denom = some denom) :
    (content.claimType = .lock → native denom = false) ∧
      (content.claimType = .burn → native denom = true) := by
  unfold OracleClaimContent.denom at minted
  constructor
  · intro lock
    rw [lock] at keeps minted
    rw [← Option.some.inj minted]
    exact Bool.not_eq_true' _ |>.mp keeps
  · intro burn
    rw [burn] at keeps minted
    rw [← Option.some.inj minted]
    exact keeps

/-- A prophecy mints on the side of the division that its type belongs to. -/
theorem mintsAs_side {kind : ClaimType} (reads : ReadsBack env.contents)
    (divided : Divided env native transition.before)
    (keeps : keepsNamespace native transition.before transition.message = true)
    (stepped : transition.after = attempt (deliver env) transition.before transition.message)
    (mints : mintsAs env kind denom transition = true) :
    (kind = .lock → native denom = false) ∧ (kind = .burn → native denom = true) := by
  unfold mintsAs at mints
  split at mints
  · next claim is_claim =>
    simp only [Bool.and_eq_true, decide_eq_true_eq, Option.any_eq_true] at mints
    obtain ⟨succeeds, content, read, sameKind, minted⟩ := mints
    rcases @attempt_cases _ _ _ (deliver env) transition.before transition.message with
      same | ⟨next, delivered, same⟩
    · rw [same] at stepped
      rw [Succeeds, stepped] at succeeds
      exact absurd succeeds.2 succeeds.1
    · rw [same] at stepped
      have effect := deliver_effect delivered
      rw [← stepped, is_claim] at effect
      unfold keepsNamespace at keeps
      rw [is_claim] at keeps
      cases effect with
      | claim _ oracleClaim status claimed =>
        have status_eq : (prophecyOf env transition.after claim.oracleID).status = status :=
          (claimed.advanced divided.sound).status_eq
        have success := succeeds.2
        rw [status_eq] at success read
        have kept := (claimed.divided reads divided keeps).2 success content read
        rw [← sameKind]
        exact keepsApart_denom kept minted
  · cases mints

/-- A successful lock is not of a pegged token, so it is of a native one. -/
theorem locks_native
    (keeps : keepsNamespace native transition.before transition.message = true)
    (locked : locks env denom transition = true) : native denom = true := by
  unfold locks at locked
  split at locked
  · next msg is_lock =>
    simp only [Bool.and_eq_true, decide_eq_true_eq] at locked
    obtain ⟨accepted, rfl⟩ := locked
    unfold keepsNamespace at keeps
    rw [is_lock] at keeps
    dsimp only at keeps
    cases delivered : deliver env transition.before transition.message with
    | error fault =>
      rw [delivered] at accepted
      cases accepted
    | ok next =>
      have effect := deliver_effect delivered
      rw [is_lock] at effect
      cases effect with
      | lock _ sender unpegged withdrawn =>
        rw [unpegged, Bool.or_false] at keeps
        exact keeps
  · cases locked

end Transitions

/-- When the messages of a run keep to a division of the denominations, none is both minted by a
lock prophecy and locked or minted by a burn prophecy. -/
theorem namespaces_keep_apart (env : Environment) (reads : ReadsBack env.contents)
    (native : Denom → Bool) (start : State) (noProphecies : start.oracle.prophecies = Store.empty)
    (deliveries : List Delivery)
    (keeps : Meets (deliver env) (fun state delivery => keepsNamespace native state delivery = true)
      start deliveries) (denom : Denom) :
    ¬ ((∃ transition ∈ transitions (deliver env) start deliveries,
        mintsAs env .lock denom transition = true) ∧
      ∃ transition ∈ transitions (deliver env) start deliveries,
        locks env denom transition = true ∨ mintsAs env .burn denom transition = true) := by
  have divided : Divided env native start :=
    ⟨Oracle.Recorded.empty noProphecies, Oracle.AllContents.empty noProphecies⟩
  have every := transitions_meets (fun _ _ holds allowed => divided_attempt reads holds allowed)
    divided keeps
  rintro ⟨⟨pegging, pegged, mints⟩, ⟨other, reached, used⟩⟩
  obtain ⟨before, allowed, stepped⟩ := every pegging pegged
  have foreign := (mintsAs_side reads before allowed stepped mints).1 rfl
  obtain ⟨before, allowed, stepped⟩ := every other reached
  have own : native denom = true := by
    rcases used with locked | minted
    · exact locks_native allowed locked
    · exact (mintsAs_side reads before allowed stepped minted).2 rfl
  rw [foreign] at own
  cases own

section Sample

/-- The contract of the token on Ethereum. -/
def daiAddressText : String := "0x6B175474E89094C44Da98b954EedeAC495271d0F"

/-- The environment with the codecs of the bytes of contents. -/
def daiEnvironment : Environment :=
  ⟨bridgeChain, Oracle.appEnvironment, jsonContents (jsonOf bridgeChain)⟩

/-- One validator decides, and one account owns every denomination. -/
def ownerState : State :=
  { soloState with
    bank := ⟨⟨fun address _ => if address = aliceAddress then 10 ^ 20 else 0⟩, fun _ => 10 ^ 20⟩ }

/-- The validator reports a deposit or a burn. -/
def report (nonce : Int64) (symbol : String) (claimType : ClaimType) : Delivery :=
  ⟨bridgeContext, .createEthBridgeClaim { etherClaimBy 1 with
    nonce := nonce, symbol := symbol, tokenContractAddress := daiAddressText,
    claimType := claimType }⟩

/-- The account locks coins of a symbol. -/
def lockCoins (symbol : String) : Delivery :=
  ⟨bridgeContext, .lock ⟨aliceText, weiAmount, symbol, 1,
    "0x52908400098527886E0F7030069857D2E4169EE7", ⟨lockGasCost, lockGasCost_bounded⟩⟩⟩

/-- Native denominations do not begin with the prefix of pegged ones. -/
def withoutPrefix (denom : Denom) : Bool := !peggedCoinPrefix.toList.isPrefixOf denom.toList

end Sample

/-- Locking the native coin and minting for a deposit of the token keep apart. -/
theorem dai_kept_apart :
    let steps := transitions (deliver daiEnvironment) ownerState
      [lockCoins "rowan", report 7 "dai" .lock]
    ¬ ((∃ transition ∈ steps, mintsAs daiEnvironment .lock "cdai" transition = true) ∧
        ∃ transition ∈ steps, locks daiEnvironment "cdai" transition = true ∨
          mintsAs daiEnvironment .burn "cdai" transition = true) :=
  namespaces_keep_apart daiEnvironment
    (jsonContents_readsBack (jsonOf bridgeChain)
      (chainReading_writesOwn (by decide +kernel) (by decide +kernel))) withoutPrefix ownerState rfl _
    (by decide +kernel) "cdai"

/-- A native coin named like the pegged token is locked before the first deposit of the token
succeeds, and it is minted for a burn after a deposit has pegged it. -/
theorem dai_mixed :
    let lockedFirst := transitions (deliver daiEnvironment) ownerState
      [lockCoins "cdai", report 7 "dai" .lock]
    let burnedLater := transitions (deliver daiEnvironment) ownerState
      [report 7 "dai" .lock, report 8 "cdai" .burn]
    (lockedFirst.map (locks daiEnvironment "cdai") = [true, false] ∧
        lockedFirst.map (mintsAs daiEnvironment .lock "cdai") = [false, true]) ∧
      burnedLater.map (mintsAs daiEnvironment .lock "cdai") = [true, false] ∧
      burnedLater.map (mintsAs daiEnvironment .burn "cdai") = [false, true] := by
  decide +kernel

end Akhira.Verif.EthBridge
