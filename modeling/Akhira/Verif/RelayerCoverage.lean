import Akhira.Base.Abi
import Akhira.Relayer.Ethereum
import Akhira.Verif.BridgeMint

/-!
# What the Ethereum relayer covers

The stored block goes back with a lower head and forward past a failed broadcast, so the loop can
repeat events and lose them. The heads for which it does neither are found here exactly: then the
messages of all broadcasts are, in order, the claims of all blocks that lie behind.
-/
namespace Akhira.Verif.Relayer

open Akhira.Base Akhira.Sdk Akhira.Contracts Akhira.EthBridge Akhira.Relayer
open Outcome
open Akhira.Verif.EthBridge (aliceText bridgeChain zeroAddressText)

/-- The call panics. -/
def panics {α : Type} (call : Outcome α) : Bool :=
  match call with
  | .error (.panic _) => true
  | _ => false

/-- What a call gives when it gives something. -/
def given {α : Type} (call : Outcome (Option α)) : Option α :=
  match call with
  | .ok value => value
  | .error _ => none

section Collect

variable {α β : Type} {call : α → Outcome (Option β)} {items : List α} {values : List β}

/-- The loop collects what its calls give, unless one of them panics. -/
theorem collect_ok : collect call items = .ok values ↔
    values = items.filterMap (fun item => given (call item)) ∧
      ∀ item ∈ items, panics (call item) = false := by
  induction items generalizing values with
  | nil =>
    rw [collect, Result.pure_ok]
    exact ⟨fun none_left => ⟨none_left.symm, nofun⟩, fun both => both.1.symm⟩
  | cons item rest ih =>
    rw [collect, List.forall_mem_cons, List.filterMap_cons]
    match call item with
    | .ok (some value) =>
      simp only [Result.bind_ok, Result.pure_ok, ih, given, panics, true_and]
      constructor
      · rintro ⟨_, ⟨rfl, safe⟩, rfl⟩
        exact ⟨rfl, safe⟩
      · rintro ⟨rfl, safe⟩
        exact ⟨_, ⟨rfl, safe⟩, rfl⟩
    | .ok none => exact ih.trans (and_congr_right fun _ => (and_iff_right rfl).symm)
    | .error (.error _) => exact ih.trans (and_congr_right fun _ => (and_iff_right rfl).symm)
    | .error (.panic _) => simp [panics]

end Collect

variable {sub : EthereumSub} {history : Nat → List Log} {progress : Progress} {head : Head}
  {start : Nat} {ethLogs : List Log}

/-- The claim of a log that is converted. -/
def claimOf (sub : EthereumSub) (cLog : Log) : Option EthBridgeClaim :=
  (given (sub.logToEvent cLog)).bind fun event => given (sub.eventToClaim event)

/-- The claims of the logs that are converted, from one block up to another. -/
def claimsBetween (sub : EthereumSub) (history : Nat → List Log) : Nat → Nat → List EthBridgeClaim :=
  between fun block => (history block).filterMap (claimOf sub)

/-- A log that ends the process: it has no topic. -/
def stops (cLog : Log) : Bool := cLog.topics.isEmpty

/-- The flag of a panic says whether a call panics. -/
theorem panics_eq_false {α : Type} {call : Outcome α} :
    panics call = false ↔ NeverPanics call := by
  rw [neverPanics_iff]
  match call with
  | .ok _ => exact ⟨fun _ => rfl, fun _ => rfl⟩
  | .error (.error _) => exact ⟨fun _ => rfl, fun _ => rfl⟩
  | .error (.panic _) => exact ⟨nofun, nofun⟩

/-- Only a log without topics panics. -/
theorem logToEvent_panics (cLog : Log) : panics (sub.logToEvent cLog) = stops cLog := by
  unfold EthereumSub.logToEvent stops
  split
  · next none_left => rw [none_left]; rfl
  · next topic rest topics =>
    rw [topics, List.isEmpty_cons, panics_eq_false]
    split
    · exact .pure
    · exact neverPanics_bind_pure.mpr neverPanics_present

/-- A word is an amount. -/
theorem neverPanics_amount (value : Word) : NeverPanics (SInt.ofInt value.toNat) := by
  have small := value.isLt
  have fits : (value.toNat : Int).natAbs < 2 ^ 256 := by omega
  rw [SInt.ofInt, SInt.ofText, dif_pos fits]
  exact .ok

/-- The claim of an event is made or refused. -/
theorem eventToClaim_neverPanics (event : EthereumEvent) : NeverPanics (sub.eventToClaim event) := by
  refine neverPanics_bind_pure.mpr ?_
  unfold ethereumEventToEthBridgeClaim
  refine neverPanics_bind.mpr ⟨neverPanics_bind.mpr ⟨neverPanics_present, fun _ _ =>
    neverPanics_present⟩, fun recipient _ => ?_⟩
  refine neverPanics_bind.mpr ⟨neverPanics_require, fun _ _ => ?_⟩
  refine neverPanics_bind.mpr ⟨?_, fun symbol _ => neverPanics_bind_pure.mpr (neverPanics_amount _)⟩
  unfold claimSymbol
  split
  · exact neverPanics_bind_pure.mpr neverPanics_require
  · exact .pure
  · exact .pure

/-- What an accepted broadcast brings. -/
def broadcastOf (head : Head) (claims : List EthBridgeClaim) : List EthBridgeClaim :=
  if head.keyFound = true ∧ head.accepted = true then messagesOf claims else []

/-- The claims of the events are those of the logs. -/
theorem filterMap_claimOf :
    (ethLogs.filterMap fun cLog => given (sub.logToEvent cLog)).filterMap
      (fun event => given (sub.eventToClaim event)) = ethLogs.filterMap (claimOf sub) :=
  List.filterMap_filterMap

/-- Logs that do not end the process are relayed: an accepted broadcast has the messages of all
their claims. -/
theorem relayLogs_ok {sent : Option (List EthBridgeClaim)} (relayed : sub.relayLogs head ethLogs = .ok sent) :
    sent.toList.flatten = broadcastOf head (ethLogs.filterMap (claimOf sub)) := by
  simp only [EthereumSub.relayLogs, Result.bind_ok] at relayed
  obtain ⟨events, collected, handled⟩ := relayed
  obtain ⟨rfl, -⟩ := collect_ok.mp collected
  set events := ethLogs.filterMap fun cLog => given (sub.logToEvent cLog) with events_eq
  by_cases nothing : events = []
  · rw [if_neg (by simpa using nothing), Result.pure_ok] at handled
    have noClaims : ethLogs.filterMap (claimOf sub) = [] := by
      rw [← filterMap_claimOf, ← events_eq, nothing]
      rfl
    rw [← handled, noClaims, broadcastOf]
    split <;> rfl
  · rw [if_pos nothing, EthereumSub.handleEthereumEvent] at handled
    by_cases key : head.keyFound = true
    · rw [if_pos key] at handled
      simp only [Result.bind_ok, Result.pure_ok] at handled
      obtain ⟨claims, converted, rfl⟩ := handled
      obtain ⟨rfl, -⟩ := collect_ok.mp converted
      rw [filterMap_claimOf, broadcastOf]
      by_cases accepted : head.accepted = true
      · rw [if_pos ⟨nothing, accepted⟩, if_pos ⟨key, accepted⟩]
        simp
      · rw [if_neg fun both => accepted both.2, if_neg fun both => accepted both.2]
        rfl
    · rw [if_neg key, Result.pure_ok] at handled
      rw [← handled, broadcastOf, if_neg fun both => key both.1]
      rfl

/-- The process ends for logs of which one ends it. -/
theorem relayLogs_isOk : (∃ sent, sub.relayLogs head ethLogs = .ok sent) ↔
    ∀ cLog ∈ ethLogs, stops cLog = false := by
  constructor
  · rintro ⟨sent, relayed⟩ cLog listed
    simp only [EthereumSub.relayLogs, Result.bind_ok] at relayed
    obtain ⟨events, collected, -⟩ := relayed
    rw [← @logToEvent_panics sub]
    exact (collect_ok.mp collected).2 cLog listed
  · intro safe
    have read : collect sub.logToEvent ethLogs =
        .ok (ethLogs.filterMap fun cLog => given (sub.logToEvent cLog)) :=
      collect_ok.mpr ⟨rfl, fun cLog listed => (logToEvent_panics cLog).trans (safe cLog listed)⟩
    have handled : ∃ sent, sub.handleEthereumEvent head
        (ethLogs.filterMap fun cLog => given (sub.logToEvent cLog)) = .ok sent := by
      unfold EthereumSub.handleEthereumEvent
      split
      · simp only [Result.bind_ok, Result.pure_ok]
        exact ⟨_, _, collect_ok.mpr ⟨rfl, fun event _ =>
          panics_eq_false.mpr (eventToClaim_neverPanics event)⟩, rfl⟩
      · exact ⟨none, rfl⟩
    obtain ⟨sent, handles⟩ := handled
    simp only [EthereumSub.relayLogs, Result.bind_ok]
    by_cases nothing : (ethLogs.filterMap fun cLog => given (sub.logToEvent cLog)) = []
    · exact ⟨none, _, read, if_neg (not_not.mpr nothing)⟩
    · exact ⟨sent, _, read, (if_pos nothing).trans handles⟩

/-- The loop is between two rounds, and has a block to go on from. -/
structure Settled (start : Nat) (progress : Progress) : Prop where
  loaded : progress.lastProcessedBlock = progress.stored
  positive : 0 < progress.stored
  passed : start ≤ progress.stored

/-- A restart finds the progress that was settled. -/
theorem Settled.load_eq (settled : Settled start progress) :
    Progress.load progress.stored progress.broadcasts = progress := by
  obtain ⟨lastProcessedBlock, stored, broadcasts⟩ := progress
  have loaded : lastProcessedBlock = stored := settled.loaded
  rw [loaded]
  rfl

/-- The messages of all broadcasts are the claims of the blocks up to the stored one, once each and
in order. -/
def Covers (sub : EthereumSub) (history : Nat → List Log) (start : Nat) (progress : Progress) :
    Prop :=
  progress.broadcasts.flatten = claimsBetween sub history start progress.stored

/-- A head for which the loop neither repeats nor loses an event: the block it ends with is not
before the last one stored, and when the logs are read the claims are accepted. -/
def Steady (sub : EthereumSub) (history : Nat → List Log) (progress : Progress) (head : Head) :
    Prop :=
  head.number < trailingBlocks ∨
    progress.stored ≤ head.number - trailingBlocks + 1 ∧
      (head.answered = false ∨
        (∃ cLog ∈ between history progress.stored (head.number - trailingBlocks + 1),
          stops cLog = true) ∨
        claimsBetween sub history progress.stored (head.number - trailingBlocks + 1) = [] ∨
        (head.keyFound = true ∧ head.accepted = true ∧
          ∀ claim ∈ claimsBetween sub history progress.stored (head.number - trailingBlocks + 1),
            claim.validateBasic.isOk = true))

/-- Whether a round is steady is decided by its parts. -/
instance : Decidable (Steady sub history progress head) := inferInstanceAs (Decidable (_ ∨ _))

/-- The block a round stores. -/
def reached (head : Head) : Nat := head.number - trailingBlocks + 1

/-- A round that stores its block. -/
structure Completed (sub : EthereumSub) (history : Nat → List Log) (progress : Progress) (head : Head)
    (after : Progress) : Prop where
  trails : trailingBlocks ≤ head.number
  loaded : after.lastProcessedBlock = reached head
  stored : after.stored = reached head
  sent : after.broadcasts.flatten = progress.broadcasts.flatten ++
    broadcastOf head (claimsBetween sub history progress.stored (reached head))
  read : reached head ≤ progress.stored ∨ head.answered = true ∧
    ∀ cLog ∈ between history progress.stored (reached head), stops cLog = false

/-- A round that changes nothing. -/
structure Idle (sub : EthereumSub) (history : Nat → List Log) (progress : Progress) (head : Head)
    (after : Progress) : Prop where
  same : after = progress
  because : head.number < trailingBlocks ∨ progress.stored ≤ reached head ∧
    (head.answered = false ∨
      ∃ cLog ∈ between history progress.stored (reached head), stops cLog = true)

/-- A round changes nothing or stores its block. -/
theorem round_cases (settled : Settled start progress) :
    Idle sub history progress head (attempt (Progress.stepHead sub history) progress head) ∨
      Completed sub history progress head
        (attempt (Progress.stepHead sub history) progress head) := by
  have nonzero : progress.lastProcessedBlock ≠ 0 := by
    have loaded := settled.loaded
    have positive := settled.positive
    omega
  by_cases early : head.number < trailingBlocks
  · left
    refine ⟨?_, .inl early⟩
    apply attempt_ok
    rw [Progress.stepHead, Progress.processHead, if_pos early]
    rfl
  have silent : filterLogs history head progress.stored (head.number - trailingBlocks) = none →
      progress.processHead sub history head =
        pure (Progress.load progress.stored progress.broadcasts) := by
    intro unanswered
    rw [Progress.processHead, if_neg early]
    dsimp only
    rw [if_neg nonzero, settled.loaded, unanswered]
    rfl
  have heard : ∀ ethLogs, filterLogs history head progress.stored
      (head.number - trailingBlocks) = some ethLogs → progress.processHead sub history head =
        sub.relayLogs head ethLogs >>= fun sent =>
          pure ⟨reached head, reached head, progress.broadcasts ++ sent.toList⟩ := by
    intro ethLogs answered
    rw [Progress.processHead, if_neg early]
    dsimp only
    rw [if_neg nonzero, settled.loaded, answered]
    rfl
  by_cases behind : head.number - trailingBlocks < progress.stored
  · -- nothing is asked for, and the block is stored
    right
    have processed := heard [] (by rw [filterLogs, if_pos behind])
    have stepped : Progress.stepHead sub history progress head =
        .ok ⟨reached head, reached head, progress.broadcasts ++ []⟩ := by
      rw [Progress.stepHead, processed]
      rfl
    have nothing : claimsBetween sub history progress.stored (reached head) = [] :=
      between_empty behind
    rw [attempt_ok stepped]
    refine ⟨by omega, rfl, rfl, ?_, .inl behind⟩
    rw [nothing, List.append_nil, broadcastOf]
    split <;> exact (List.append_nil _).symm
  by_cases answered : head.answered = true
  · have processed := heard (between history progress.stored (reached head))
      (by rw [filterLogs, if_neg behind, if_pos answered, reached])
    cases relayed : sub.relayLogs head (between history progress.stored (reached head)) with
    | ok sent =>
      right
      have stepped : Progress.stepHead sub history progress head =
          .ok ⟨reached head, reached head, progress.broadcasts ++ sent.toList⟩ := by
        rw [Progress.stepHead, processed, relayed]
        rfl
      rw [attempt_ok stepped]
      refine ⟨by omega, rfl, rfl, ?_, .inr ⟨answered, relayLogs_isOk.mp ⟨sent, relayed⟩⟩⟩
      rw [List.flatten_append, relayLogs_ok relayed, filterMap_between]
      rfl
    | error fault =>
      left
      have stepped : Progress.stepHead sub history progress head = .ok progress := by
        rw [Progress.stepHead, processed, relayed]
        exact congrArg Except.ok settled.load_eq
      refine ⟨attempt_ok stepped, .inr ⟨?_, .inr ?_⟩⟩
      · unfold reached
        omega
      · by_contra none_stops
        push Not at none_stops
        obtain ⟨sent, relays⟩ := relayLogs_isOk.mpr fun cLog listed =>
          Bool.eq_false_of_not_eq_true (none_stops cLog listed)
        rw [relayed] at relays
        cases relays
  · left
    have processed := silent (by rw [filterLogs, if_neg behind, if_neg answered])
    refine ⟨?_, .inr ⟨?_, .inl (Bool.eq_false_of_not_eq_true answered)⟩⟩
    · apply attempt_ok
      rw [Progress.stepHead, processed]
      exact congrArg Except.ok settled.load_eq
    · unfold reached
      omega

/-- An accepted broadcast brings all claims when it has a message for each of them. -/
theorem broadcastOf_eq {claims : List EthBridgeClaim} : broadcastOf head claims = claims ↔
    claims = [] ∨ head.keyFound = true ∧ head.accepted = true ∧
      ∀ claim ∈ claims, claim.validateBasic.isOk = true := by
  unfold broadcastOf
  split
  · next both =>
    rw [messagesOf, List.filter_eq_self]
    constructor
    · exact fun valid => .inr ⟨both.1, both.2, valid⟩
    · rintro (rfl | ⟨-, -, valid⟩)
      · exact nofun
      · exact valid
  · next failed =>
    constructor
    · exact fun none_left => .inl none_left.symm
    · rintro (rfl | ⟨key, accepted, -⟩)
      · rfl
      · exact absurd ⟨key, accepted⟩ failed

/-- One round neither goes back nor loses or repeats a claim just when its head is a steady one. -/
theorem round_exact (settled : Settled start progress) (covers : Covers sub history start progress) :
    (progress.stored ≤ (attempt (Progress.stepHead sub history) progress head).stored ∧
      Covers sub history start (attempt (Progress.stepHead sub history) progress head)) ↔
      Steady sub history progress head := by
  rcases @round_cases sub history progress head start settled with idle | completed
  · obtain ⟨same, because⟩ := idle
    rw [same]
    refine ⟨fun _ => ?_, fun _ => ⟨le_rfl, covers⟩⟩
    rcases because with early | ⟨ahead, failed | stopped⟩
    · exact .inl early
    · exact .inr ⟨ahead, .inl failed⟩
    · exact .inr ⟨ahead, .inr (.inl stopped)⟩
  · obtain ⟨trails, -, stored, sent, read⟩ := completed
    have exactly : ∀ ahead : progress.stored ≤ reached head,
        (Covers sub history start (attempt (Progress.stepHead sub history) progress head) ↔
          broadcastOf head (claimsBetween sub history progress.stored (reached head)) =
            claimsBetween sub history progress.stored (reached head)) := by
      intro ahead
      rw [Covers, sent, stored]
      exact delivered_iff covers settled.passed ahead
    rw [stored]
    constructor
    · rintro ⟨ahead, covered⟩
      exact .inr ⟨ahead, .inr (.inr (broadcastOf_eq.mp ((exactly ahead).mp covered)))⟩
    · rintro (early | ⟨ahead, steady⟩)
      · omega
      · refine ⟨ahead, (exactly ahead).mpr (broadcastOf_eq.mpr ?_)⟩
        rcases read with caught | ⟨answered, unstopped⟩
        · exact .inl (between_empty caught)
        · rcases steady with failed | ⟨cLog, listed, stopped⟩ | complete
          · rw [answered] at failed
            cases failed
          · rw [unstopped cLog listed] at stopped
            cases stopped
          · exact complete

/-- A steady round leaves the loop settled. -/
theorem Settled.round (settled : Settled start progress)
    (ahead : progress.stored ≤ (attempt (Progress.stepHead sub history) progress head).stored) :
    Settled start (attempt (Progress.stepHead sub history) progress head) := by
  rcases @round_cases sub history progress head start settled with idle | completed
  · rw [idle.same]
    exact settled
  · refine ⟨completed.loaded.trans completed.stored.symm, ?_, settled.passed.trans ahead⟩
    rw [completed.stored]
    exact Nat.succ_pos _

/-- From a stored block on, for every sequence of heads and all outcomes of their calls: the stored
block never goes back and every converted event of the blocks behind it has been broadcast once,
just when the heads are steady. -/
theorem covers_iff_steady (sub : EthereumSub) (history : Nat → List Log) (start : Nat)
    (positive : 0 < start) (heads : List Head) :
    (∀ transition ∈ transitions (Progress.stepHead sub history) (Progress.load start []) heads,
        transition.before.stored ≤ transition.after.stored ∧
          Covers sub history start transition.after) ↔
      Meets (Progress.stepHead sub history) (Steady sub history) (Progress.load start []) heads := by
  refine @transitions_iff_meets _ _ _ _ _ (fun progress =>
    Settled start progress ∧ Covers sub history start progress) _ ?_ ?_ _ ?_ heads
  · rintro progress head ⟨settled, covers⟩ steady
    obtain ⟨ahead, covered⟩ := (round_exact settled covers).mpr steady
    exact ⟨settled.round ahead, covered⟩
  · rintro progress head ⟨settled, covers⟩
    exact round_exact settled covers
  · exact ⟨⟨rfl, positive, le_rfl⟩, (between_empty le_rfl).symm⟩

section Sample

/-- The account that deposits. -/
def depositor : Address := 0x52908400098527886E0F7030069857D2E4169EE7#160

/-- The address of the bank. -/
def bankAddress : Address := 0x8617E340B3D01FA5F11F306F4090FD50E238070D#160

/-- A deposit of one ether. -/
def etherLock : LogArguments := ⟨depositor, utf8 aliceText, 0, ascii "ETH", 10 ^ 18, 7⟩

/-- A burn of a bridge token whose symbol is that of ether. -/
def etherNameBurn : LogArguments := ⟨depositor, utf8 aliceText, bankAddress, ascii "eth", 10 ^ 18, 8⟩

/-- The data of a log. -/
def dataOf (arguments : LogArguments) : Bytes :=
  Abi.encode [.static arguments.sender.toNat, .dynamic arguments.recipient,
    .static arguments.token.toNat, .dynamic arguments.symbol, .static arguments.value.toNat,
    .static arguments.nonce.toNat]

/-- The ids of the events. -/
def bankEventID : LogName → Word
  | .logBurn => 0xcff57df3b42f67919a9300d211bb7fe56104ca34949da91116a8f82ff51bb777#256
  | .logLock => 0x374449c83a37309524754bbdfc5b8306d3694b5d14609b8fbb1b50cc5c0319a7#256

/-- The interface of the bank, with the data of the logs that are read. -/
def bankABI (known : List LogArguments) : BridgeBankABI where
  eventID := bankEventID
  unpack _ data := known.find? fun arguments => dataOf arguments = data

/-- A log with its id and the encoding of its arguments. -/
def logOf (name : LogName) (arguments : LogArguments) : Log :=
  ⟨[bankEventID name], dataOf arguments⟩

/-- The texts of the sample addresses. -/
def bankTexts : Texts where
  chain := bridgeChain
  validators := Oracle.operatorCodec
  hex address :=
    if address = depositor then "0x52908400098527886E0F7030069857D2E4169EE7"
    else if address = bankAddress then "0x8617E340B3D01FA5F11F306F4090FD50E238070D"
    else zeroAddressText
  mapLower := goText

/-- A relayer for the sample bank. -/
def bankSub : EthereumSub where
  texts := bankTexts
  translator := ⟨fun _ => none, fun _ => none⟩
  abi := bankABI [etherLock, etherNameBurn]
  valAddr := Oracle.operator 1
  bridgeBankAddress := bankAddress
  clientChainID := 1

/-- One log, in block 100. -/
def oneLog (cLog : Log) (block : Nat) : List Log := if block = 100 then [cLog] else []

/-- A head for which every call succeeds. -/
def goodHead (number : Nat) : Head := ⟨number, true, true, true⟩

end Sample

/-- A head too early, one whose query fails, and two that find the deposit and nothing more. -/
theorem deposit_covered :
    let history := oneLog (logOf .logLock etherLock)
    let heads := [goodHead 45, ⟨160, false, true, true⟩, goodHead 158, goodHead 160]
    ∀ transition ∈ transitions (Progress.stepHead bankSub history) (Progress.load 90 []) heads,
      transition.before.stored ≤ transition.after.stored ∧
        Covers bankSub history 90 transition.after :=
  (covers_iff_steady bankSub (oneLog (logOf .logLock etherLock)) 90 (by decide)
    [goodHead 45, ⟨160, false, true, true⟩, goodHead 158, goodHead 160]).mpr (by decide +kernel)

/-- A deposit is lost with a failed broadcast and repeated after a lower head, which takes the stored
block back. A burn whose claim is refused by its own checks is never broadcast. -/
theorem deposit_lost_and_repeated :
    let lockHistory := oneLog (logOf .logLock etherLock)
    let burnHistory := oneLog (logOf .logBurn etherNameBurn)
    let lost := run (Progress.stepHead bankSub lockHistory) (Progress.load 90 [])
      [⟨160, true, true, false⟩]
    let repeated := transitions (Progress.stepHead bankSub lockHistory) (Progress.load 90 [])
      [goodHead 160, goodHead 140, goodHead 160]
    let refused := run (Progress.stepHead bankSub burnHistory) (Progress.load 90 []) [goodHead 160]
    (lost.stored = 111 ∧ lost.broadcasts = [] ∧
        (claimsBetween bankSub lockHistory 90 111).length = 1) ∧
      (repeated.map fun transition => transition.after.stored) = [111, 91, 111] ∧
      (repeated.map fun transition => transition.after.broadcasts.map List.length) =
        [[1], [1], [1, 1]] ∧
      (refused.stored = 111 ∧ refused.broadcasts = [[]] ∧
        (claimsBetween bankSub burnHistory 90 111).length = 1) := by
  decide +kernel

end Akhira.Verif.Relayer
