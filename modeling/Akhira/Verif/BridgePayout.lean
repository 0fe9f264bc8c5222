import Akhira.Base.Run
import Akhira.Verif.BridgeContract

/-!
# At most one payout for a prophecy

The contract does not store that a prophecy has been paid: it refuses a further claim
because the signed power still reaches the threshold. A larger total power moves the
threshold past the signed power and the prophecy is paid again. As long as no change of
the validator set does this to a paid prophecy, every prophecy is paid at most once.
-/
namespace Akhira.Verif.Contracts

open Akhira.Base Akhira.Contracts

variable {keccak256 : Bytes → Word}

/-- Every paid prophecy would still reach the threshold of a total power. -/
def CoversPaid (bridge : CosmosBridge) (total : Nat) : Prop :=
  ∀ prophecyID ∈ completedIDs bridge.events,
    total * bridge.consensusThreshold.toNat ≤ (bridge.oracleClaimValidators prophecyID).toNat * 100

/-- The paid prophecies are listed. -/
instance (bridge : CosmosBridge) (total : Nat) : Decidable (CoversPaid bridge total) :=
  List.decidableBAll _ (completedIDs bridge.events)

/-- The total power a call asks for; the other calls do not raise it. -/
def requestedTotal (valset : Valset) : Action → Option Nat
  | .addValidator _ power => some (valset.totalPower.toNat + power.toNat)
  | .updateValidatorPower validator power =>
    some (valset.totalPower.toNat - (valset.getValidatorPower validator).toNat + power.toNat)
  | .updateValset _ powers => some (powers.map BitVec.toNat).sum
  | _ => none

/-- A call does not raise the total power past what the paid prophecies cover. -/
def KeepsPaid (system : BridgeSystem) (call : Call) : Prop :=
  ∀ total ∈ (requestedTotal system.bridge.toValset call.action).toList,
    CoversPaid system.bridge total

/-- The arguments and the paid prophecies decide it. -/
instance (system : BridgeSystem) (call : Call) : Decidable (KeepsPaid system call) :=
  inferInstanceAs (Decidable (∀ _ ∈ _, _))

/-- What one payout for each prophecy rests on. -/
structure PaidOnce (bridge : CosmosBridge) : Prop where
  /-- The contract is set up. -/
  setUp : bridge.isInitialized = true
  /-- The paid prophecies reach the threshold. -/
  covered : CoversPaid bridge bridge.totalPower.toNat
  /-- None is paid twice. -/
  once : ∀ prophecyID, completions prophecyID bridge.events ≤ 1

/-- A prophecy is paid when it has been completed at least once. -/
theorem mem_completedIDs {prophecyID : Word} {events : List BridgeEvent} :
    prophecyID ∈ completedIDs events ↔ 0 < completions prophecyID events :=
  List.count_pos_iff.symm

/-- A smaller total power is covered too. -/
theorem CoversPaid.anti {bridge : CosmosBridge} {total smaller : Nat}
    (covered : CoversPaid bridge total) (less : smaller ≤ total) : CoversPaid bridge smaller := by
  intro prophecyID paid
  have reached := covered prophecyID paid
  have scaled := Nat.mul_le_mul_right bridge.consensusThreshold.toNat less
  omega

/-- A quiet call keeps what a total power covers. -/
theorem CoversPaid.quiet {bridge next : CosmosBridge} {total : Nat}
    (covered : CoversPaid bridge total) (quiet : Quiet bridge next) : CoversPaid next total := by
  intro prophecyID paid
  rw [mem_completedIDs, quiet.quiet, ← mem_completedIDs] at paid
  rw [quiet.signed, quiet.threshold]
  exact covered prophecyID paid

/-- A change of the validator set that is covered leaves a total power that is covered. -/
theorem covered_change {system : BridgeSystem} {next : Valset} {call : Call}
    (covered : CoversPaid system.bridge system.bridge.totalPower.toNat)
    (keeps : KeepsPaid system call)
    (effect : ValsetEffect system.bridge.toValset next call.action) :
    CoversPaid system.bridge next.totalPower.toNat := by
  unfold KeepsPaid at keeps
  generalize call.action = action at keeps effect
  cases effect with
  | kept same =>
    rw [same.total]
    exact covered
  | added grown => exact (keeps _ List.mem_cons_self).anti grown.total.le
  | updated active total version validators powers =>
    exact (keeps _ List.mem_cons_self).anti (by omega)
  | removed active total version validators powers => exact covered.anti (by omega)
  | replaced replaced => exact (keeps _ List.mem_cons_self).anti replaced.total
  | recovered total version validators powers =>
    rw [total]
    exact covered

/-- A claim on a paid prophecy is refused, so an accepted claim pays for the first time. -/
theorem PaidOnce.unpaid {bridge next : CosmosBridge} {sender : Address} {prophecyID : Word}
    (paid : PaidOnce bridge) (claimed : Claimed bridge next sender prophecyID) :
    completions prophecyID bridge.events = 0 := by
  by_contra completed
  have reached := paid.covered prophecyID (mem_completedIDs.mpr (Nat.pos_of_ne_zero completed))
  have pending := claimed.pending
  omega

/-- A claim keeps one payout for each prophecy. -/
theorem PaidOnce.claimed {bridge next : CosmosBridge} {sender : Address} {prophecyID : Word}
    (paid : PaidOnce bridge) (claimed : Claimed bridge next sender prophecyID) :
    PaidOnce next := by
  have unpaid := paid.unpaid claimed
  refine ⟨claimed.isInitialized.trans paid.setUp, fun other completed => ?_, fun other => ?_⟩
  · rw [mem_completedIDs, claimed.completed] at completed
    by_cases same : prophecyID = other
    · -- the prophecy of the claim is paid now, because the threshold is reached
      subst same
      rw [unpaid] at completed
      split at completed
      · next reached => exact reached.2
      · omega
    · rw [if_neg (fun both => same both.1), Nat.add_zero] at completed
      have reached := paid.covered other (mem_completedIDs.mpr completed)
      rw [claimed.others other (Ne.symm same), claimed.threshold, claimed.sameSet.total]
      exact reached
  · rw [claimed.completed]
    by_cases same : prophecyID = other
    · rw [← same, unpaid]
      split <;> omega
    · rw [if_neg (fun both => same both.1)]
      exact paid.once other

/-- Every call that keeps the paid prophecies covered keeps one payout for each. -/
theorem paidOnce_step {system next : BridgeSystem} {call : Call} (paid : PaidOnce system.bridge)
    (keeps : KeepsPaid system call) (executed : execute keccak256 system call = .ok next) :
    PaidOnce next.bridge := by
  cases execute_effect paid.setUp executed with
  | quiet quiet effect =>
    have covered := covered_change paid.covered keeps effect
    refine ⟨quiet.isInitialized.trans paid.setUp, covered.quiet quiet, fun prophecyID => ?_⟩
    rw [quiet.quiet]
    exact paid.once prophecyID
  | claimed kind claimed => exact paid.claimed claimed

/-- In every run of a contract that is set up and has paid nothing, whose calls keep the paid
prophecies covered, every prophecy is completed at most once. -/
theorem completed_at_most_once (keccak256 : Bytes → Word) (start : BridgeSystem)
    (setUp : start.bridge.isInitialized = true) (nothingPaid : completedIDs start.bridge.events = [])
    (calls : List Call) (keeps : Meets (execute keccak256) KeepsPaid start calls)
    (prophecyID : Word) :
    completions prophecyID (run (execute keccak256) start calls).bridge.events ≤ 1 := by
  have paid : PaidOnce start.bridge := by
    refine ⟨setUp, fun other completed => ?_, fun other => ?_⟩
    · rw [nothingPaid] at completed
      cases completed
    · unfold completions
      rw [nothingPaid]
      exact Nat.zero_le 1
  have reached := run_invariant (fun _ _ _ holds allowed => paidOnce_step holds allowed) paid keeps
  exact reached.once prophecyID

/-- The account that runs the bridge. -/
def operatorAddress : Address := 0xaaaaaaaaaaaaaaaaaaaaaaaaaaaaaaaaaaaaaaaa

/-- The address of the bridge contract. -/
def bridgeAddress : Address := 0xbbbbbbbbbbbbbbbbbbbbbbbbbbbbbbbbbbbbbbbb

/-- The address of the bank contract. -/
def bankAddress : Address := 0xcccccccccccccccccccccccccccccccccccccccc

/-- A withdrawal of one ether. -/
def etherClaim : ProphecyClaim where
  claimType := .burn
  cosmosSender := ascii "ak1qyqszqgpqyqszqgpqyqszqgpqyqszqgpz09ut2"
  cosmosSenderSequence := 1
  ethereumReceiver := 0x2222222222222222222222222222222222222222
  symbol := ascii "eth"
  amount := 1000000000000000000

/-- The hashes the contracts take here; other byte strings are not hashed. -/
def etherHash (bytes : Bytes) : Word :=
  if bytes = [] then
    0xc5d2460186f7233c927e7db2dcc703c0e500b653ca82273b7bfad8045d85a470
  else if bytes = ascii "eth" then
    0x4f5b812789fc606be1b3b16908db13fc7a9adf7ca72641f84d75b47069d3d7f0
  else if bytes = etherClaim.pack then
    0x800bdf1630e35f271cc30d9b0ba77b229da53c73f4e56bca1cb092711418e994
  else BitVec.ofNat 256 (fromBytes bytes)

/-- Other contracts answer every call, and nobody is on a blocklist. -/
def willingWorld : World where
  newBridgeToken := 0xdddddddddddddddddddddddddddddddddddddddd
  symbol _ := some (ascii "TKN")
  mint _ _ _ := true
  burnFrom _ _ _ := true
  safeTransferFrom _ _ _ := true
  safeTransfer _ _ _ := true
  sendEther _ _ := true
  isBlocklisted _ := false

/-- The two contracts as deployed, with the bank set up for the bridge. -/
def deployedSystem : BridgeSystem where
  bridge := CosmosBridge.deployed bridgeAddress
  bank :=
    { self := bankAddress
      operator := operatorAddress
      owner := operatorAddress
      cosmosBridge := bridgeAddress
      pausers := fun account => account = operatorAddress
      paused := false
      hasBlocklist := false
      bridgeTokenCount := 0
      controlledBridgeTokens := fun _ => 0
      lowerToUpperTokens := fun symbol =>
        if symbol = ascii "eaku" ∨ symbol = ascii "eth" then symbol else []
      lockBurnNonce := 0
      lockedTokenList := fun _ => 0
      cosmosTokenWhiteList := fun token => token = 0
      ethereumTokenWhiteList := fun token => token = 0
      events := [] }

/-- A call in that world. -/
def callBy (sender : Address) (action : Action) : Call := ⟨sender, willingWorld, action⟩

/-- The bridge set up with a threshold of 70 percent and the validators 1, 2 and so on. -/
def setUpWith (powers : List Word) : List Call :=
  [callBy operatorAddress (.initializeBridge operatorAddress 70
      ((List.range powers.length).map fun index => BitVec.ofNat 160 (index + 1)) powers),
    callBy operatorAddress (.setBridgeBank bankAddress)]

/-- The bridge with two validators of powers 70 and 30. -/
def twoValidators : BridgeSystem := run (execute etherHash) deployedSystem (setUpWith [70, 30])

/-- The first validator completes the withdrawal; a validator with no power is added and removed
and both others claim again. -/
def coveredCalls : List Call :=
  [callBy 1 (.newProphecyClaim etherClaim), callBy operatorAddress (.addValidator 3 0),
    callBy 2 (.newProphecyClaim etherClaim), callBy operatorAddress (.removeValidator 3),
    callBy 1 (.newProphecyClaim etherClaim)]

/-- The withdrawal is paid once, as the total power never grows past its signed power. -/
theorem ether_completed_once :
    completions (getProphecyID etherHash etherClaim)
      (run (execute etherHash) twoValidators coveredCalls).bridge.events ≤ 1 :=
  completed_at_most_once etherHash twoValidators (by decide +kernel) (by decide +kernel)
    coveredCalls (by decide +kernel) (getProphecyID etherHash etherClaim)

/-- The first validator completes the withdrawal, a third one is added and the second claims. -/
def raisedCalls : List Call :=
  [callBy 1 (.newProphecyClaim etherClaim), callBy operatorAddress (.addValidator 3 10),
    callBy 2 (.newProphecyClaim etherClaim)]

/-- The larger total power makes the paid withdrawal pending, and it is paid again. -/
theorem ether_completed_twice :
    twoValidators.bridge.isInitialized = true ∧ completedIDs twoValidators.bridge.events = [] ∧
      completions (getProphecyID etherHash etherClaim)
        (run (execute etherHash) twoValidators raisedCalls).bridge.events = 2 := by
  decide +kernel

end Akhira.Verif.Contracts
