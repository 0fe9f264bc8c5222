import Akhira.Verif.NetworkDeposits
import Akhira.Verif.NetworkWithdrawals
import Akhira.Verif.RelayerCoverage

/-!
# The peg

Over any interleaving of calls on Ethereum and transactions of the chain: the chain credits only
deposits that the bank has logged, the bank unlocks only what has been withdrawn on the chain, and
so a pegged denomination and what the bank has unlocked for it never exceed the deposits.
-/
namespace Akhira.Verif.Network

open Akhira.Base Akhira.Sdk Akhira.Contracts Akhira.EthBridge Akhira.Relayer Akhira.Network
open Akhira.Verif.Contracts Akhira.Verif.EthBridge

/-- What the two chains and the relayers are run with, and who is honest. -/
structure Operation where
  keccak256 : Bytes → Word
  env : Environment
  /-- The relayers to the chain, but for the validator. -/
  sub : EthereumSub
  /-- The relayers to Ethereum. -/
  relayer : Parser
  /-- The honest validators of the chain. -/
  validators : Oracle.ValAddress → Bool
  /-- The honest validators of the contract. -/
  signers : Address → Bool

/-- The amount of a denomination that the bank has logged as deposited. -/
def deposits (sub : EthereumSub) (denom : Denom) (chains : Chains) : Nat :=
  (chains.ethereum.bank.events.map (depositValue sub denom)).sum

/-- The amount of a denomination that has been withdrawn on the chain. -/
def withdrawals (denom : Denom) (chains : Chains) : Nat :=
  (chains.receipts.map (withdrawnValue denom)).sum

namespace Operation

variable {operation : Operation} {denom : Denom} {start chains : Chains}

/-- The next state of the two chains. -/
def step (operation : Operation) : Chains → Step → Revertible Chains :=
  Network.step operation.keccak256 operation.env

/-- A transaction with honest claims of honest validators. -/
def AdmitsDeposit (operation : Operation) (denom : Denom) (chains : Chains) : Step → Prop
  | .call _ => True
  | .tx tx => AdmitsTx operation.env operation.sub operation.validators
      chains.ethereum.bank.events denom chains.cosmos tx

/-- A call with an honest claim if its sender is honest. -/
def AdmitsWithdrawal (operation : Operation) (chains : Chains) : Step → Prop
  | .call call => AdmitsCall operation.keccak256 operation.relayer operation.signers
      chains.receipts call
  | .tx _ => True

/-- Whether a step is admitted is decided by the call. -/
instance (operation : Operation) (chains : Chains) :
    ∀ step, Decidable (operation.AdmitsWithdrawal chains step)
  | .call call => inferInstanceAs (Decidable (AdmitsCall operation.keccak256 operation.relayer
      operation.signers chains.receipts call))
  | .tx _ => inferInstanceAs (Decidable True)

/-- Nothing has been claimed on the chain and nothing withdrawn. -/
structure Unused (chains : Chains) : Prop where
  noProphecies : chains.cosmos.oracle.prophecies = Store.empty
  noReceipts : chains.receipts = []

/-- The credits on the chain are right, since a start. -/
structure Credits (operation : Operation) (denom : Denom) (start chains : Chains) : Prop where
  good : Good operation.env operation.sub operation.validators chains.ethereum.bank.events
    start.cosmos.peggyTokens chains.cosmos
  accounted : Accounted operation.env denom start.cosmos.peggyTokens start.cosmos chains.cosmos
    chains.receipts

/-- Before the first deposit nothing is credited. -/
theorem Unused.credits (unused : Unused start) : operation.Credits denom start start := by
  refine ⟨⟨⟨Oracle.Recorded.empty unused.noProphecies, ?_, fun id validator content _ held => ?_,
    fun id final success => ?_⟩, fun token pegged => .inl pegged⟩, ?_⟩
  · rw [unused.noProphecies]
    exact Store.All.empty
  · rw [prophecyOf, Oracle.State.prophecyOrNew, Oracle.State.getProphecy,
      unused.noProphecies] at held
    cases held
  · rw [prophecyOf, Oracle.State.prophecyOrNew, Oracle.State.getProphecy,
      unused.noProphecies] at success
    cases success
  · rw [unused.noReceipts]
    exact .nothing

/-- Every admitted step keeps the credits right. -/
theorem Credits.attempt (lawful : Lawful operation.env operation.sub)
    (credits : operation.Credits denom start chains) {step : Step}
    (admits : operation.AdmitsDeposit denom chains step) :
    operation.Credits denom start (attempt operation.step chains step) := by
  cases step with
  | call call =>
    rcases @attempt_cases _ _ _ operation.step chains (.call call) with same | ⟨next, done, same⟩
    · rw [same]
      exact credits
    · rw [same]
      simp only [Operation.step, Network.step, Result.bind_ok, Result.pure_ok] at done
      obtain ⟨ethereum, executed, rfl⟩ := done
      exact ⟨⟨credits.good.toTruthful.mono (execute_events executed), credits.good.pegs⟩,
        credits.accounted⟩
  | tx tx =>
    obtain ⟨good, accounted⟩ := deliverTx_good lawful credits.good admits
    exact ⟨good, credits.accounted.trans accounted⟩

/-- Every admitted step keeps what is paid vouched for. -/
theorem vouched_attempt
    (vouched : Vouched operation.keccak256 operation.relayer operation.signers chains.ethereum
      chains.receipts) {step : Step} (admits : operation.AdmitsWithdrawal chains step) :
    Vouched operation.keccak256 operation.relayer operation.signers
      (attempt operation.step chains step).ethereum
      (attempt operation.step chains step).receipts := by
  cases step with
  | call call =>
    rcases @attempt_cases _ _ _ operation.step chains (.call call) with same | ⟨next, done, same⟩
    · rw [same]
      exact vouched
    · rw [same]
      simp only [Operation.step, Network.step, Result.bind_ok, Result.pure_ok] at done
      obtain ⟨ethereum, executed, rfl⟩ := done
      exact vouched.call admits executed
  | tx tx => exact vouched.mono

/-- Along every run of admitted claims the payouts are vouched for. -/
theorem run_vouched (fresh : Fresh start.ethereum) (noReceipts : start.receipts = [])
    (guarded : Guarded operation.signers start.ethereum.bridge) {steps : List Step}
    (meets : Meets operation.step operation.AdmitsWithdrawal start steps) :
    Vouched operation.keccak256 operation.relayer operation.signers
      (run operation.step start steps).ethereum (run operation.step start steps).receipts := by
  have begun : Vouched operation.keccak256 operation.relayer operation.signers start.ethereum
      start.receipts := by
    rw [noReceipts]
    exact fresh.vouched guarded
  exact @attempt_invariant _ _ _ operation.step operation.AdmitsWithdrawal
    (fun chains => Vouched operation.keccak256 operation.relayer operation.signers chains.ethereum
      chains.receipts) (fun _ _ vouched admits => vouched_attempt vouched admits) _ begun _ meets

end Operation

section Pairing

variable {env : Environment} {relayer : Parser} {receipt : Receipt}

end Pairing

section Sample

/-- The account with the prefix that the bank asks for. -/
def sifText : String := "sif1qyqszqgpqyqszqgpqyqszqgpqyqszqgphwwgzh"

/-- The depositor's address as it is written. -/
def depositorText : String := "0x52908400098527886E0F7030069857D2E4169EE7"

/-- The account that deposits ether. -/
def depositorAddress : Address := 0x52908400098527886E0F7030069857D2E4169EE7

/-- The first deposit, of one ether. -/
def etherArguments : LogArguments where
  sender := depositorAddress
  recipient := ascii sifText
  token := 0
  symbol := ascii "eth"
  value := 1000000000000000000
  nonce := 1

/-- The relayer that the validators run, with the event ids of the bank's interface. -/
def etherSub : EthereumSub where
  texts :=
    { chain := chainReading sifText
      validators := Oracle.operatorCodec
      hex := fun address => String.ofList (addressText addressHash address)
      mapLower := fun _ => "" }
  translator := plainRelayer.translator
  abi := Relayer.bankABI [etherArguments]
  valAddr := Oracle.operator 1
  bridgeBankAddress := bankAddress
  clientChainID := 1

/-- One ether is locked. -/
def lockEther : Step :=
  .call (callBy depositorAddress (.bank (.lock 1000000000000000000 (ascii sifText) 0
    1000000000000000000)))

/-- The report of the deposit by a validator. -/
def etherReport (byte : UInt8) : EthBridgeClaim where
  ethereumChainId := 1
  bridgeContractAddress := "0xCcCCccccCCCCcCCCCCCcCcCccCcCCCcCcccccccC"
  nonce := 1
  symbol := "eth"
  tokenContractAddress := zeroAddressText
  ethereumSender := depositorText
  cosmosReceiver := sifText
  validatorAddress := Oracle.operatorText (Oracle.operator byte)
  amount := weiAmount
  claimType := .lock

/-- A transaction with one claim. -/
def claimTx (claim : EthBridgeClaim) : Step :=
  .tx ⟨bridgeContext, [.bridge (.createEthBridgeClaim claim)]⟩

/-- The third validator reports a deposit that nobody has made, and the others the one that is
made. -/
def depositSteps : List Step :=
  [lockEther, claimTx { etherReport 3 with nonce := 2 }, claimTx (etherReport 1),
    claimTx (etherReport 2)]

/-- A tenth of an ether fits an `Int`. -/
theorem tenth_bounded : ((10 : Int) ^ 17).natAbs < 2 ^ 256 := by decide

/-- The withdrawal of a tenth of the ether. -/
def etherBurn : MsgBurn :=
  ⟨⟨sifText, ⟨10 ^ 17, tenth_bounded⟩, "ceth", 1, depositorText,
    ⟨lockGasCost, lockGasCost_bounded⟩⟩⟩

/-- The withdrawal of five rowan. -/
def fiveLock : MsgLock :=
  { rowanLock fiveRowan with
    cosmosSender := sifText
    cethAmount := ⟨lockGasCost, lockGasCost_bounded⟩ }

/-- The claims of the withdrawals, in the second transaction of the account. -/
def etherBurnClaim : ProphecyClaim :=
  (relayed plainRelayer (.msgBurn, etherBurn.toMsgLock) 2).prophecyClaim

/-- The claim of the locked rowan. -/
def fiveLockClaim : ProphecyClaim := (relayed plainRelayer (.msgLock, fiveLock) 2).prophecyClaim

/-- A signer claims a withdrawal. -/
def claimCall (signer : Address) (claim : ProphecyClaim) : Step :=
  .call (callBy signer (.newProphecyClaim claim))

/-- The third signer claims a withdrawal that nobody has made, and the others the two that are
made. -/
def withdrawalSteps : List Step :=
  [.call (callBy operatorAddress (.setBridgeBank bankAddress)),
    .tx ⟨bridgeContext, [.bridge (.burn etherBurn), .bridge (.lock fiveLock)]⟩,
    claimCall 3 etherClaim, claimCall 1 etherBurnClaim, claimCall 1 fiveLockClaim,
    claimCall 2 fiveLockClaim, claimCall 2 etherBurnClaim]

/-- The hashes that the contracts take. -/
def networkHash (bytes : Bytes) : Word :=
  if bytes = etherBurnClaim.pack then
    0x8e4c8e99accc9c9265f2deb52b34250146ea5960364f7225056aa0901fd91b04
  else if bytes = fiveLockClaim.pack then
    0x186c199f138361865c3304548ad58acd80e8e6c93491d310932f114c022b0a61
  else etherHash bytes

/-- All but the third validators of both sides are honest. -/
def etherOperation : Operation where
  keccak256 := networkHash
  env := ⟨chainReading sifText, Oracle.appEnvironment, jsonContents (jsonOf (chainReading sifText))⟩
  sub := etherSub
  relayer := plainRelayer
  validators validator := validator ≠ Oracle.operator 3
  signers signer := signer ≠ 3

/-- The account owns ten rowan. -/
def etherChains : Chains where
  ethereum := threeValidators
  cosmos :=
    { bridgeState with
      bank := ⟨⟨fun address denom => if address = aliceAddress ∧ denom = "rowan" then 10 else 0⟩,
        fun denom => if denom = "rowan" then 10 else 0⟩
      accounts := fun _ => some 0 }
  receipts := []

/-- The white list after some steps. -/
def whiteListAfter (steps : List Step) : List Oracle.ValAddress :=
  (run etherOperation.step etherChains steps).cosmos.oracle.whiteList

/-- What the bank has logged after some steps. -/
def bankEventsAfter (steps : List Step) : List BankEvent :=
  (run etherOperation.step etherChains steps).ethereum.bank.events

/-- The log of the deposit. -/
def etherLogged : BankEvent :=
  .logLock depositorAddress (ascii sifText) 0 (ascii "eth") 1000000000000000000 1

/-- The symbols of the sample are spelled in lower case. -/
theorem threeValidators_spelled : Spelled threeValidators.bank := by
  have kept : ∀ key ∈ [ascii "eaku", ascii "eth"], Contracts.toLower key = key := by decide +kernel
  intro key recorded
  change Contracts.toLower (if key = ascii "eaku" ∨ key = ascii "eth" then key else []) = key
  change (if key = ascii "eaku" ∨ key = ascii "eth" then key else []) ≠ [] at recorded
  split at recorded
  · next known =>
    rw [if_pos known]
    exact kept key (by simpa using known)
  · exact absurd rfl recorded

/-- In the sample nothing is claimed, signed or paid yet. -/
theorem threeValidators_fresh : Fresh threeValidators where
  setUp := rfl
  unclaimed _ _ := rfl
  unsigned _ := rfl
  unpaid := by decide +kernel
  locked _ := rfl
  spelled := threeValidators_spelled

/-- The third signer has 30 of 100, and 70 are needed. -/
theorem threeValidators_guarded : Guarded etherOperation.signers threeValidators.bridge := by
  have third : ∀ signer, (threeValidators.bridge.toValset.isActiveValidator signer &&
      !etherOperation.signers signer) = true → signer ∈ ({3} : Finset Address) := by
    intro signer member
    rw [Bool.and_eq_true, Bool.not_eq_true'] at member
    rw [Finset.mem_singleton]
    by_contra other
    have trusted : etherOperation.signers signer = true := decide_eq_true other
    rw [trusted] at member
    cases member.2
  have power : contribution (fun signer => threeValidators.bridge.toValset.isActiveValidator signer &&
      !etherOperation.signers signer) (powerOf threeValidators.bridge.toValset) 3 = 30 := by
    decide +kernel
  have only : dishonestWeight etherOperation.signers threeValidators.bridge.toValset = 30 :=
    ((weight_eq_sum {3} third).trans (Finset.sum_singleton _ _)).trans power
  unfold Guarded
  rw [only]
  decide +kernel

/-- What the run shows when it is evaluated: the white lists and the log before the reports, the
accounts of the deposit, and the withdrawals that are paid. -/
theorem run_evaluated :
    let reached := run etherOperation.step etherChains (depositSteps ++ withdrawalSteps)
    (([whiteListAfter (depositSteps.take 1), whiteListAfter (depositSteps.take 2),
          whiteListAfter (depositSteps.take 3)] =
        List.replicate 3 [Oracle.operator 1, Oracle.operator 2, Oracle.operator 3]) ∧
      etherLogged ∈ bankEventsAfter (depositSteps.take 2) ∧
      etherLogged ∈ bankEventsAfter (depositSteps.take 3)) ∧
    Meets etherOperation.step etherOperation.AdmitsWithdrawal etherChains
      (depositSteps ++ withdrawalSteps) ∧
    (reached.cosmos.bank.supply "ceth" = 9 * 10 ^ 17 ∧
      withdrawals "ceth" reached = 10 ^ 17 ∧
      deposits etherOperation.sub "ceth" reached = 10 ^ 18) ∧
    unlocked (utf8 "eth") reached.ethereum.bank.events = 10 ^ 17 ∧
    [etherClaim, etherBurnClaim, fiveLockClaim].map (fun claim =>
      completions (getProphecyID networkHash claim) reached.ethereum.bridge.events) =
        [0, 1, 1] := by
  decide +kernel

end Sample

/-- In every run of the two chains in which honest validators claim executed withdrawals, the others
have too little power, the validator set stays, and nobody claims anything else under the id of an
executed withdrawal, a prophecy is completed at most once and only for an executed withdrawal, and no
more is unlocked than executed withdrawals claim. -/
theorem payouts_are_withdrawals (operation : Operation) (start : Chains)
    (fresh : Fresh start.ethereum) (noReceipts : start.receipts = [])
    (guarded : Guarded operation.signers start.ethereum.bridge) (steps : List Step)
    (meets : Meets operation.step operation.AdmitsWithdrawal start steps) :
    let reached := run operation.step start steps
    (∀ id, completions id reached.ethereum.bridge.events ≤ 1 ∧
      (0 < completions id reached.ethereum.bridge.events →
        ∃ claim ∈ executedClaims operation.relayer reached.receipts,
          getProphecyID operation.keccak256 claim = id)) ∧
    ∀ symbol, unlocked symbol reached.ethereum.bank.events ≤
      ((executedClaims operation.relayer reached.receipts).map (claimValue symbol)).sum := by
  have vouched := Operation.run_vouched fresh noReceipts guarded meets
  refine ⟨fun id => ⟨vouched.paidOnce.once id, fun completed => ?_⟩, vouched.unlocked_le⟩
  obtain ⟨paid, counts, listed, -⟩ := vouched.paid
  rw [counts, List.count_pos_iff] at completed
  obtain ⟨claim, member, rfl⟩ := List.mem_map.mp completed
  exact ⟨claim, listed claim member, rfl⟩

/-- The two withdrawals are paid once, and what the third signer claims is not. -/
theorem rowan_paid :
    let reached := run etherOperation.step etherChains (depositSteps ++ withdrawalSteps)
    let paid := executedClaims plainRelayer reached.receipts
    [etherClaim, etherBurnClaim, fiveLockClaim].map (fun claim =>
        completions (getProphecyID networkHash claim) reached.ethereum.bridge.events) =
          [0, 1, 1] ∧
      (∃ claim ∈ paid, getProphecyID networkHash claim = getProphecyID networkHash fiveLockClaim) ∧
      unlocked (utf8 "eth") reached.ethereum.bank.events = 10 ^ 17 ∧
      unlocked (utf8 "eth") reached.ethereum.bank.events ≤
        (paid.map (claimValue (utf8 "eth"))).sum := by
  have payouts := payouts_are_withdrawals etherOperation etherChains threeValidators_fresh rfl
    threeValidators_guarded (depositSteps ++ withdrawalSteps) run_evaluated.2.1
  have completed : completions (getProphecyID networkHash fiveLockClaim)
      (run etherOperation.step etherChains
        (depositSteps ++ withdrawalSteps)).ethereum.bridge.events = 1 := by
    have counted := run_evaluated.2.2.2.2
    simp only [List.map_cons, List.map_nil, List.cons.injEq] at counted
    exact counted.2.2.1
  exact ⟨run_evaluated.2.2.2.2, (payouts.1 _).2 (completed ▸ Nat.one_pos), run_evaluated.2.2.2.1,
    payouts.2 _⟩

end Akhira.Verif.Network
