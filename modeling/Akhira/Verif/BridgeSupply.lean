import Akhira.Verif.BridgeMint

/-!
# Supply accounting of the bridge

A supply rises by what a prophecy mints in the delivery that makes it succeed and falls by the
amount of each lock and burn. The module account keeps nothing but fees, which are in `ceth`.
-/
namespace Akhira.Verif.EthBridge

open Akhira.Base Akhira.Sdk Akhira.EthBridge

variable {env : Environment} {context : Context} {state next : State} {denom : Denom}

/-- Whether a prophecy succeeds in a transition is decided by its status before and after. -/
instance (env : Environment) (id : String) (transition : Transition State Delivery) :
    Decidable (Succeeds env id transition) := inferInstanceAs (Decidable (_ ∧ _))

/-- The amount of a denomination that a content is minted for. -/
def contentAmount (denom : Denom) (content : OracleClaimContent) : Int :=
  if content.denom = some denom then content.amount.val else 0

/-- What the prophecy that succeeds in a delivery mints. -/
def mintedBy (env : Environment) (denom : Denom) (transition : Transition State Delivery) : Int :=
  match transition.message.msg with
  | .createEthBridgeClaim claim =>
    if Succeeds env claim.oracleID transition then
      ((env.contents.unmarshal
        (prophecyOf env transition.after claim.oracleID).status.finalClaim).map
          (contentAmount denom)).getD 0
    else 0
  | _ => 0

/-- The amount that a successful lock or burn names. -/
def withdrawnBy (env : Environment) (denom : Denom) (transition : Transition State Delivery) :
    Int :=
  match transition.message.msg with
  | .lock msg | .burn ⟨msg⟩ =>
    if (deliver env transition.before transition.message).isOk ∧ msg.symbol = denom then
      msg.amount.val
    else 0
  | _ => 0

section Deliveries

variable {delivery : Delivery}

/-- Only claims mint. -/
theorem mintedBy_other (other : ∀ claim, delivery.msg ≠ .createEthBridgeClaim claim) :
    mintedBy env denom ⟨state, delivery, next⟩ = 0 := by
  unfold mintedBy
  dsimp only
  split
  · exact absurd ‹_› (other _)
  · rfl

/-- Only locks and burns withdraw. -/
theorem withdrawnBy_other (noLock : ∀ msg, delivery.msg ≠ .lock msg)
    (noBurn : ∀ msg, delivery.msg ≠ .burn msg) :
    withdrawnBy env denom ⟨state, delivery, next⟩ = 0 := by
  unfold withdrawnBy
  dsimp only
  split
  · exact absurd ‹_› (noLock _)
  · exact absurd ‹_› (noBurn _)
  · rfl

/-- Nothing is minted where the state is the same. -/
theorem mintedBy_same : mintedBy env denom ⟨state, delivery, state⟩ = 0 := by
  unfold mintedBy
  dsimp only
  split
  · rw [if_neg fun succeeds => succeeds.1 succeeds.2]
  · rfl

/-- Nothing is withdrawn by a message that fails. -/
theorem withdrawnBy_error {fault : Fault} (failed : deliver env state delivery = .error fault) :
    withdrawnBy env denom ⟨state, delivery, next⟩ = 0 := by
  have refused : ¬ (deliver env state delivery).isOk := by
    rw [failed]
    exact Bool.false_ne_true
  unfold withdrawnBy
  dsimp only
  split
  · rw [if_neg fun both => refused both.1]
  · rw [if_neg fun both => refused both.1]
  · rfl

/-- A claim raises a supply by what the prophecy it turns mints. -/
theorem claimed_supply {claim : EthBridgeClaim} {oracleClaim : Oracle.Claim}
    {status : Oracle.Status} (sound : Sound env state)
    (is : delivery.msg = .createEthBridgeClaim claim)
    (claimed : Claimed env context state next claim oracleClaim status) :
    (next.bank.supply denom : Int) =
      state.bank.supply denom + mintedBy env denom ⟨state, delivery, next⟩ := by
  have advanced := claimed.advanced sound
  have before : (prophecyOf env state claim.oracleID).status.text = .pending := advanced.pending
  have after : (prophecyOf env next claim.oracleID).status = status := advanced.status_eq
  unfold mintedBy
  rw [is]
  dsimp only
  by_cases success : status.text = .success
  · have succeeds : Succeeds env claim.oracleID ⟨state, delivery, next⟩ :=
      ⟨by rw [before]; decide, by rw [after, success]⟩
    obtain ⟨content, minted, effect⟩ := claimed.paid success
    have raised : next.bank.supply denom = state.bank.supply denom + _ := effect.paid.supply denom
    have nonnegative := effect.nonnegative
    rw [if_pos succeeds, after, effect.decoded, Option.map_some, Option.getD_some, contentAmount,
      effect.named, raised]
    unfold only
    split_ifs with same named named
    · omega
    · exact absurd (congrArg some same) named
    · exact absurd (Option.some.inj named) same
    · rfl
  · have stays : ¬ Succeeds env claim.oracleID ⟨state, delivery, next⟩ := by
      intro succeeds
      have reached := succeeds.2
      rw [after] at reached
      exact success reached
    rw [if_neg stays, claimed.unpaid success, add_zero]

/-- A withdrawal lowers a supply by its amount. -/
theorem withdrawn_supply {msg : MsgLock} {sender : AccAddress}
    (is : delivery.msg = .lock msg ∨ delivery.msg = .burn ⟨msg⟩)
    (delivered : deliver env state delivery = .ok next)
    (withdrawn : Withdrawn env state next sender msg) :
    (next.bank.supply denom : Int) + withdrawnBy env denom ⟨state, delivery, next⟩ =
      state.bank.supply denom := by
  have lowered := withdrawn.supply denom
  have positive := withdrawn.positive
  have accepted : (deliver env state delivery).isOk = true := by
    rw [delivered]
    rfl
  have amount : withdrawnBy env denom ⟨state, delivery, next⟩ =
      if msg.symbol = denom then msg.amount.val else 0 := by
    unfold withdrawnBy
    dsimp only
    rcases is with is | is
    · rw [accepted, is]
      simp only [true_and]
    · rw [accepted, is]
      simp only [true_and]
  unfold only at lowered
  rw [amount]
  split_ifs at lowered ⊢
  · omega
  · omega

/-- One delivery moves a supply by what it mints and withdraws. -/
theorem supply_attempt (sound : Sound env state) :
    ((attempt (deliver env) state delivery).bank.supply denom : Int) +
        withdrawnBy env denom ⟨state, delivery, attempt (deliver env) state delivery⟩ =
      state.bank.supply denom +
        mintedBy env denom ⟨state, delivery, attempt (deliver env) state delivery⟩ := by
  cases delivered : deliver env state delivery with
  | error fault =>
    rw [attempt_error delivered, withdrawnBy_error delivered, mintedBy_same]
  | ok next =>
    rw [attempt_ok delivered]
    have effect := deliver_effect delivered
    have quiet : (∀ claim, delivery.msg ≠ .createEthBridgeClaim claim) →
        (∀ msg, delivery.msg ≠ .lock msg) → (∀ msg, delivery.msg ≠ .burn msg) →
        next.bank.supply = state.bank.supply →
        (next.bank.supply denom : Int) + withdrawnBy env denom ⟨state, delivery, next⟩ =
          state.bank.supply denom + mintedBy env denom ⟨state, delivery, next⟩ := by
      intro noClaim noLock noBurn same
      rw [mintedBy_other noClaim, withdrawnBy_other noLock noBurn, same]
    generalize is : delivery.msg = msg at effect
    cases effect with
    | claim claim oracleClaim status claimed =>
      rw [withdrawnBy_other (by rw [is]; nofun) (by rw [is]; nofun), add_zero]
      exact claimed_supply sound is claimed
    | lock msg sender unpegged withdrawn =>
      rw [mintedBy_other (by rw [is]; nofun), add_zero]
      exact withdrawn_supply (.inl is) delivered withdrawn
    | burn msg sender pegged withdrawn =>
      rw [mintedBy_other (by rw [is]; nofun), add_zero]
      exact withdrawn_supply (.inr is) delivered withdrawn
    | whiteList msg prophecies rest =>
      exact quiet (by rw [is]; nofun) (by rw [is]; nofun) (by rw [is]; nofun) (by rw [rest])
    | cethReceiver msg rest =>
      exact quiet (by rw [is]; nofun) (by rw [is]; nofun) (by rw [is]; nofun) (by rw [rest])
    | rescue msg receiver unblocked supply balance rest =>
      exact quiet (by rw [is]; nofun) (by rw [is]; nofun) (by rw [is]; nofun) supply
    | blacklist msg rest =>
      exact quiet (by rw [is]; nofun) (by rw [is]; nofun) (by rw [is]; nofun) (by rw [rest])

end Deliveries

/-- What the module account holds. -/
def moduleHolds (env : Environment) (state : State) (denom : Denom) : Nat :=
  state.bank.ledger.balance (env.chain.moduleAddress moduleName) denom

/-- An unblocked receiver is not the module account. -/
theorem ne_of_unblocked {receiver : AccAddress}
    (blocked : env.chain.blockedAddr (env.chain.moduleAddress moduleName) = true)
    (unblocked : env.chain.blockedAddr receiver = false) :
    env.chain.moduleAddress moduleName ≠ receiver := by
  intro same
  rw [same, unblocked] at blocked
  cases blocked

/-- No message adds anything but `ceth` to the module account. -/
theorem moduleHolds_step {delivery : Delivery}
    (blocked : env.chain.blockedAddr (env.chain.moduleAddress moduleName) = true)
    (other : denom ≠ cethSymbol) (delivered : deliver env state delivery = .ok next) :
    moduleHolds env next denom ≤ moduleHolds env state denom := by
  have fee : ∀ amount, only cethSymbol amount denom = 0 := only_other (Ne.symm other)
  have withdrawal : ∀ {sender msg}, Withdrawn env state next sender msg →
      moduleHolds env next denom ≤ moduleHolds env state denom := by
    intro sender msg withdrawn
    have moved := withdrawn.balance (env.chain.moduleAddress moduleName) denom
    have noFee : Ledger.share (feeTarget env state) (env.chain.moduleAddress moduleName)
        (only cethSymbol msg.cethAmount.val.toNat denom) = 0 := by
      rw [fee, Ledger.share]
      split <;> rfl
    unfold moduleHolds
    omega
  have effect := deliver_effect delivered
  generalize delivery.msg = msg at effect
  cases effect with
  | claim claim oracleClaim status claimed =>
    by_cases success : status.text = .success
    · obtain ⟨content, minted, effect⟩ := claimed.paid success
      have credited := effect.paid.balance (env.chain.moduleAddress moduleName) denom
      rw [Ledger.share_other (ne_of_unblocked blocked effect.unblocked), Nat.add_zero] at credited
      exact credited.le
    · rw [claimed.unpaid success]
      exact Nat.le_refl _
  | lock msg sender unpegged withdrawn => exact withdrawal withdrawn
  | burn msg sender pegged withdrawn => exact withdrawal withdrawn
  | whiteList msg prophecies rest =>
    rw [rest]
    exact Nat.le_refl _
  | cethReceiver msg rest =>
    rw [rest]
    exact Nat.le_refl _
  | rescue msg receiver unblocked supply balance rest =>
    have moved := balance (env.chain.moduleAddress moduleName) denom
    rw [Ledger.share_other (ne_of_unblocked blocked unblocked)] at moved
    unfold moduleHolds
    omega
  | blacklist msg rest =>
    rw [rest]
    exact Nat.le_refl _

/-- From an empty module account whose address is blocked, every run of bridge messages moves each
supply by exactly what succeeding prophecies mint and locks and burns withdraw, and leaves nothing
but `ceth` in the module account. -/
theorem supply_accounts (env : Environment)
    (blocked : env.chain.blockedAddr (env.chain.moduleAddress moduleName) = true)
    (start : State) (sound : Sound env start) (empty : ∀ denom, moduleHolds env start denom = 0)
    (deliveries : List Delivery) (denom : Denom) :
    ((run (deliver env) start deliveries).bank.supply denom : Int) +
        ((transitions (deliver env) start deliveries).map (withdrawnBy env denom)).sum =
      start.bank.supply denom +
        ((transitions (deliver env) start deliveries).map (mintedBy env denom)).sum ∧
    (denom ≠ cethSymbol → moduleHolds env (run (deliver env) start deliveries) denom = 0) := by
  constructor
  · exact @run_eq _ _ _ (deliver env) (fun _ _ => True) (Sound env)
      (fun state => (state.bank.supply denom : Int)) (mintedBy env denom) (withdrawnBy env denom)
      (fun state delivery holds _ => sound_attempt state delivery holds)
      (fun _ _ holds _ => supply_attempt holds) start sound deliveries
      (meets_of_forall (fun _ _ => trivial) start deliveries)
  · intro other
    exact @run_invariant _ _ _ (deliver env) (fun _ _ => True)
      (fun state => moduleHolds env state denom = 0)
      (fun _ _ _ nothing _ delivered =>
        Nat.eq_zero_of_le_zero (nothing ▸ moduleHolds_step blocked other delivered))
      start (empty denom) deliveries (meets_of_forall (fun _ _ => trivial) start deliveries)

/-- One white-listed validator decides alone, and every account exists. -/
def soloState : State :=
  { bridgeState with
    oracle := Oracle.oracleWith [Oracle.operator 1]
    accounts := fun _ => some 0 }

/-- A burn of the pegged ether, with the least fee. -/
def burnEther : Delivery :=
  ⟨bridgeContext, .burn ⟨⟨aliceText, ⟨10 ^ 17, by decide⟩, "ceth", 1,
    "0x52908400098527886E0F7030069857D2E4169EE7", ⟨burnGasCost, by decide⟩⟩⟩⟩

/-- A deposit of one ether is minted and a tenth of it burned. -/
theorem ether_accounted :
    let steps := transitions (deliver bridgeEnvironment) soloState [reportEther 1, burnEther]
    let reached := run (deliver bridgeEnvironment) soloState [reportEther 1, burnEther]
    (reached.bank.supply "ceth" : Int) + (steps.map (withdrawnBy bridgeEnvironment "ceth")).sum =
        soloState.bank.supply "ceth" + (steps.map (mintedBy bridgeEnvironment "ceth")).sum ∧
      reached.bank.supply "ceth" = 9 * 10 ^ 17 :=
  ⟨(supply_accounts bridgeEnvironment (by decide) soloState (Oracle.Recorded.empty rfl)
      (fun _ => rfl) [reportEther 1, burnEther] "ceth").1, by decide +kernel⟩

end Akhira.Verif.EthBridge
