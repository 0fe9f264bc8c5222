import Akhira.Base.Text
import Akhira.Verif.DispensationSolvency

/-!
# What becomes of assigned coins

An output is merged into the pending record under its key. Keys tell name, type and recipient
apart, since address texts hold no separator, so the merged record is one of the same recipient in
the same distribution. A run moves a record to the completed or failed store, under the same key;
nothing is lost as long as that place is free.
-/
namespace Akhira.Verif.Dispensation

open Akhira.Base Akhira.Sdk Akhira.Dispensation

variable {env : Environment} {context : Context env} {state next : State}
  {record : DistributionRecord} {records : List DistributionRecord}

/-- No text that decodes as an address holds the separator of the keys; a bech32 text consists of
the prefix, a one and letters of the bech32 alphabet. -/
def PlainAddresses (env : Environment) : Prop :=
  ∀ text, (env.accAddressFromBech32 text).isSome = true → '_' ∉ text.toList

section Keys

/-- A record of a distribution that a valid message created. -/
structure Issued (env : Environment) (record : DistributionRecord) : Prop where
  named : ∃ height distributor, (env.accAddressFromBech32 distributor).isSome = true ∧
    record.distributionName = distributionNameOf height distributor
  recipient : (env.accAddressFromBech32 record.recipientAddress).isSome = true

/-- There is no underscore in the text of a natural number. -/
theorem underscore_not_mem_natText (value : Nat) : '_' ∉ (natText value).toList := by
  intro listed
  have digit := isDigit_of_mem_natText listed
  revert digit
  decide

/-- There is no underscore in the text of an integer. -/
theorem underscore_not_mem_intText (value : Int) : '_' ∉ (intText value).toList := by
  intro listed
  rcases mem_intText listed with same | digit
  · cases same
  · revert digit
    decide

/-- A type is told by its number. -/
theorem number_injective {left right : DistributionType} (same : left.number = right.number) :
    left = right := by
  cases left <;> cases right <;> first | rfl | cases same

/-- A key is the height, the distributor, the type and the recipient, with underscores between them.
-/
theorem key_toList (height : Int) (distributor recipient : String)
    (distributionType : DistributionType) :
    (getDistributionRecordKey (distributionNameOf height distributor) recipient
      distributionType).toList =
      (intText height).toList ++ '_' :: (distributor.toList ++ '_' ::
        ((natText distributionType.number).toList ++ '_' :: recipient.toList)) := by
  simp only [getDistributionRecordKey, distributionNameOf, String.toList_append, List.append_assoc]
  rfl

/-- Two issued records with one key belong to the same recipient of the same distribution. -/
theorem key_injective {left right : DistributionRecord} (plain : PlainAddresses env)
    (leftIssued : Issued env left) (rightIssued : Issued env right) (same : left.key = right.key) :
    left.distributionName = right.distributionName ∧
      left.distributionType = right.distributionType ∧
      left.recipientAddress = right.recipientAddress := by
  obtain ⟨leftHeight, leftDistributor, leftDecodes, leftNamed⟩ := leftIssued.named
  obtain ⟨rightHeight, rightDistributor, rightDecodes, rightNamed⟩ := rightIssued.named
  have letters := congrArg String.toList same
  unfold DistributionRecord.key at letters
  rw [leftNamed, rightNamed, key_toList, key_toList] at letters
  obtain ⟨heights, letters⟩ := separated_injective (underscore_not_mem_intText _)
    (underscore_not_mem_intText _) letters
  obtain ⟨distributors, letters⟩ := separated_injective (plain _ leftDecodes)
    (plain _ rightDecodes) letters
  obtain ⟨numbers, recipients⟩ := separated_injective (underscore_not_mem_natText _)
    (underscore_not_mem_natText _) letters
  refine ⟨?_, ?_, String.toList_inj.mp recipients⟩
  · rw [leftNamed, rightNamed, distributionNameOf, distributionNameOf, String.toList_inj.mp heights,
      String.toList_inj.mp distributors]
  · exact number_injective (natText_injective (String.toList_inj.mp numbers))

end Keys

/-- The pending records come from valid messages. -/
def AllIssued (env : Environment) (state : State) : Prop :=
  Store.All (fun _ record => Issued env record) state.pending

section Creating

variable {msg : MsgCreateDistribution} {output : List (Output Coins)}

/-- The record of an output comes from a valid message. -/
theorem Dropped.issued {pending : Store String DistributionRecord} {out : Output Coins}
    (created : Created env context state next msg output) (listed : out ∈ output)
    (dropped : Dropped (distributionNameOf context.blockHeight msg.distributor)
      msg.distributionType msg.authorizedRunner pending out record) : Issued env record :=
  ⟨⟨_, _, created.distributor, dropped.named⟩, dropped.recipient ▸ created.recipients out listed⟩

/-- After a new distribution the pending records come from valid messages. -/
theorem created_issued (issued : AllIssued env state)
    (created : Created env context state next msg output) : AllIssued env next :=
  created.drops.keeps (fun _ _ _ listed fit dropped =>
    fit.set (dropped.issued created listed)) issued

/-- The pending record an output of a message meets belongs to the same recipient of the same
distribution. -/
theorem met_same {out : Output Coins} (plain : PlainAddresses env) (sound : Sound env state)
    (issued : AllIssued env state) (created : Created env context state next msg output)
    (listed : out ∈ output)
    (met : state.pending.get (getDistributionRecordKey
      (distributionNameOf context.blockHeight msg.distributor) out.address msg.distributionType) =
        some record) :
    record.distributionName = distributionNameOf context.blockHeight msg.distributor ∧
      record.distributionType = msg.distributionType ∧ record.recipientAddress = out.address := by
  have own := (sound.filed _ _ met).key_eq
  let fresh : DistributionRecord := ⟨.pending, msg.distributionType,
    distributionNameOf context.blockHeight msg.distributor, out.address, out.coins,
    context.blockHeight, -1, msg.authorizedRunner⟩
  have freshIssued : Issued env fresh :=
    ⟨⟨_, _, created.distributor, rfl⟩, created.recipients out listed⟩
  exact key_injective plain (issued _ _ met) freshIssued own.symm

/-- Which records count, by the name, type, recipient and runner they carry. -/
abbrev Selector := String → DistributionType → String → String → Bool

/-- Whether a record counts. -/
def Selector.takes (chosen : Selector) (record : DistributionRecord) : Bool :=
  chosen record.distributionName record.distributionType record.recipientAddress
    record.authorizedRunner

/-- The amount of a record that counts. -/
def chosenAmount (chosen : Selector) (denom : Denom) (record : DistributionRecord) : Nat :=
  if chosen.takes record then recordAmount denom record else 0

/-- The amount of all records that count in a store. -/
def chosenTotal (chosen : Selector) (denom : Denom) (records : Store String DistributionRecord) :
    Nat :=
  records.total fun _ => chosenAmount chosen denom

/-- Every output meets only pending records that count as it does. -/
def Agrees (chosen : Selector) (name : String) (distributionType : DistributionType)
    (runner : String) (output : List (Output Coins)) (pending : Store String DistributionRecord) :
    Prop :=
  ∀ out ∈ output, ∀ old,
    pending.get (getDistributionRecordKey name out.address distributionType) = some old →
      chosen.takes old = chosen name distributionType out.address runner

/-- A record counts as its output does. -/
theorem Dropped.takes_eq {name runner : String} {distributionType : DistributionType}
    {pending : Store String DistributionRecord} {out : Output Coins} {chosen : Selector}
    (dropped : Dropped name distributionType runner pending out record) :
    chosen.takes record = chosen name distributionType out.address runner := by
  unfold Selector.takes
  rw [dropped.named, dropped.typed, dropped.recipient, dropped.runs]

/-- Under one name and type, equal keys mean equal recipients, so a drop leaves the other outputs
in agreement. -/
theorem Dropped.agrees {name runner : String} {distributionType : DistributionType}
    {pending : Store String DistributionRecord} {out : Output Coins} {chosen : Selector}
    (dropped : Dropped name distributionType runner pending out record)
    (agrees : Agrees chosen name distributionType runner output pending) :
    Agrees chosen name distributionType runner output (pending.set record.key record) := by
  intro other listed old found
  by_cases same : getDistributionRecordKey name other.address distributionType = record.key
  · rw [same, Store.get_set_same, Option.some.injEq] at found
    rw [dropped.key_eq] at same
    have recipients : other.address = out.address := by
      unfold getDistributionRecordKey at same
      exact (String.append_right_inj _).mp same
    rw [← found, dropped.takes_eq, recipients]
  · rw [Store.get_set_other _ _ same] at found
    exact agrees other listed old found

/-- A message whose outputs agree with the records they meet raises the pending records that count
by exactly its outputs that count. -/
theorem created_chosen {chosen : Selector} (created : Created env context state next msg output)
    (agrees : Agrees chosen (distributionNameOf context.blockHeight msg.distributor)
      msg.distributionType msg.authorizedRunner output state.pending) (denom : Denom) :
    chosenTotal chosen denom next.pending = chosenTotal chosen denom state.pending +
      (output.map fun out => if chosen (distributionNameOf context.blockHeight msg.distributor)
        msg.distributionType out.address msg.authorizedRunner then out.coins.amountOf denom
        else 0).sum := by
  refine created.drops.total (fun _ _ _ _ fit dropped => dropped.agrees fit) ?_ agrees
  intro pending out record listed fit dropped
  have amount := dropped.amount denom
  unfold chosenAmount
  rw [dropped.takes_eq]
  cases found : pending.get record.key with
  | none =>
    rw [found] at amount
    rw [amount]
    split <;> rfl
  | some old =>
    have alike := fit out listed old (dropped.key_eq ▸ found)
    rw [found] at amount
    simp only [Option.map_some, Option.getD_some] at amount ⊢
    rw [alike, amount]
    split <;> rfl

/-- The amount of a denomination in the coins of a message. -/
def rawAmount (denom : Denom) (coins : List RawCoin) : Int :=
  (coins.map fun coin => if coin.denom = denom then coin.amount.val else 0).sum

/-- The coins of an output have its amounts. -/
theorem rawAmount_coins {denom : Denom} {raw : List RawCoin} {coins : Coins}
    (converted : raw.mapM RawCoin.coin = some coins) :
    (coins.amountOf denom : Int) = rawAmount denom raw := by
  induction raw generalizing coins with
  | nil =>
    cases converted
    rfl
  | cons head tail ih =>
    simp only [List.mapM_cons, Option.bind_eq_bind, Option.bind_eq_some_iff, Option.pure_def,
      Option.some.injEq] at converted
    obtain ⟨coin, coined, rest, later, rfl⟩ := converted
    have own : coin.denom = head.denom ∧ (coin.amount : Int) = head.amount.val := by
      unfold RawCoin.coin Coin.newCoin at coined
      split at coined
      · split at coined
        · cases coined
          exact ⟨rfl, Int.toNat_of_nonneg ‹_›⟩
        · cases coined
      · cases coined
    have restAmount := ih later
    rw [Coins.amountOf_cons, own.1]
    unfold rawAmount at restAmount ⊢
    rw [List.map_cons, List.sum_cons]
    push_cast
    rw [restAmount, own.2]

/-- Coins that pass the checks have the amounts that were given. -/
theorem checkCoins_ok {denom : Denom} {raw : List RawCoin} {coins : Coins}
    (checked : checkCoins raw = some coins) : (coins.amountOf denom : Int) = rawAmount denom raw := by
  simp only [checkCoins, Option.bind_eq_bind, Option.bind_eq_some_iff] at checked
  obtain ⟨sorted, converted, kept⟩ := checked
  split at kept
  · cases kept
    rw [rawAmount_coins converted]
    exact ((List.perm_insertionSort _ raw).map _).sum_eq
  · cases kept

/-- What a message assigns to the addresses that count, in its own coins and in the coins the
handler sees. -/
theorem checkOutputs_amount {chain : Chain} {raw : List (Output (List RawCoin))}
    (checked : raw.mapM (checkOutput chain) = .ok output) (counts : String → Bool)
    (denom : Denom) :
    ((output.map fun out => if counts out.address then out.coins.amountOf denom else 0).sum : Nat) =
      (raw.map fun out => if counts out.address then rawAmount denom out.coins else 0).sum := by
  induction raw generalizing output with
  | nil =>
    cases checked
    rfl
  | cons head tail ih =>
    simp only [List.mapM_cons, checkOutput, Result.bind_ok, Outcome.present_ok,
      Result.pure_ok] at checked
    obtain ⟨_, ⟨-, -, coins, headChecked, rfl⟩, rest, tailChecked, rfl⟩ := checked
    have restAmount := ih tailChecked
    simp only [List.map_cons, List.sum_cons]
    push_cast at restAmount ⊢
    rw [restAmount, checkCoins_ok headChecked]

end Creating

section Running

/-- The amount of all records that count, in whichever store they are. -/
def recorded (chosen : Selector) (denom : Denom) (state : State) : Nat :=
  chosenTotal chosen denom state.pending + chosenTotal chosen denom state.completed +
    chosenTotal chosen denom state.failed

/-- Whether the place a record moves to is free. -/
def targetVacant (env : Environment) (state : State) (record : DistributionRecord) : Bool :=
  match env.accAddressFromBech32 record.recipientAddress with
  | none => true
  | some recipient =>
    if env.blockedAddr recipient then !state.failed.has record.key
    else !state.completed.has record.key

/-- A vacant key has no record. -/
theorem get_none_of_vacant {store : Store String DistributionRecord} {key : String}
    (vacant : (!store.has key) = true) : store.get key = none := by
  cases found : store.get key with
  | none => rfl
  | some value =>
    simp [Store.has, found] at vacant

/-- Moving a record keeps its coins. -/
theorem chosenAmount_moved (chosen : Selector) (denom : Denom) (height : Int)
    (status : DistributionStatus) :
    chosenAmount chosen denom (moved record height status) = chosenAmount chosen denom record := rfl

/-- A round that moves its record to a free place loses nothing. -/
theorem handled_recorded (chosen : Selector) (denom : Denom)
    (found : state.pending.get record.key = some record)
    (vacant : targetVacant env state record = true)
    (handled : Handled env context state record next) :
    recorded chosen denom next = recorded chosen denom state := by
  have released := state.pending.total_of_get (fun _ => chosenAmount chosen denom) found
  unfold targetVacant at vacant
  cases handled with
  | skipped => rfl
  | paid decoded unblocked pending completed failed =>
    rw [decoded] at vacant
    simp only [unblocked, Bool.false_eq_true, if_false] at vacant
    have written := state.completed.total_insert (fun _ => chosenAmount chosen denom)
      (moved record context.blockHeight .completed) (get_none_of_vacant vacant)
    rw [chosenAmount_moved] at written
    unfold recorded chosenTotal
    rw [pending, completed, failed]
    omega
  | refused decoded blocked pending completed failed =>
    rw [decoded] at vacant
    simp only [blocked, if_true] at vacant
    have written := state.failed.total_insert (fun _ => chosenAmount chosen denom)
      (moved record context.blockHeight .failed) (get_none_of_vacant vacant)
    rw [chosenAmount_moved] at written
    unfold recorded chosenTotal
    rw [pending, completed, failed]
    omega

/-- A round leaves the places of all other records as they are. -/
theorem Handled.targetVacant_other {other : DistributionRecord}
    (handled : Handled env context state record next) (different : other.key ≠ record.key)
    (vacant : targetVacant env state other = true) : targetVacant env next other = true := by
  have places : next.completed.get other.key = state.completed.get other.key ∧
      next.failed.get other.key = state.failed.get other.key := by
    cases handled with
    | skipped => exact ⟨rfl, rfl⟩
    | paid _ _ _ completed failed =>
      rw [completed, failed]
      exact ⟨Store.get_set_other _ _ different, rfl⟩
    | refused _ _ _ completed failed =>
      rw [completed, failed]
      exact ⟨rfl, Store.get_set_other _ _ different⟩
  unfold targetVacant Store.has at *
  rw [places.1, places.2]
  exact vacant

/-- A run into free places moves records, and nothing of what is recorded is lost. -/
theorem rounds_recorded (chosen : Selector) (denom : Denom)
    (distinct : records.Pairwise fun left right => left.key ≠ right.key)
    (vacant : ∀ record ∈ records, targetVacant env state record = true)
    (rounds : Rounds env context state records next) :
    recorded chosen denom next = recorded chosen denom state := by
  induction rounds with
  | done => rfl
  | round found handled _ ih =>
    rw [List.pairwise_cons] at distinct
    have first := handled_recorded chosen denom found (vacant _ List.mem_cons_self) handled
    have rest := ih distinct.2 fun other listed => handled.targetVacant_other
      (distinct.1 other listed).symm (vacant other (List.mem_cons_of_mem _ listed))
    rw [rest, first]

/-- After a round the pending records come from valid messages. -/
theorem handled_issued (issued : AllIssued env state)
    (handled : Handled env context state record next) : AllIssued env next := by
  cases handled with
  | skipped => exact issued
  | paid _ _ pending =>
    unfold AllIssued
    rw [pending]
    exact issued.delete _
  | refused _ _ pending =>
    unfold AllIssued
    rw [pending]
    exact issued.delete _

/-- After a run the pending records come from valid messages. -/
theorem rounds_issued (issued : AllIssued env state)
    (rounds : Rounds env context state records next) : AllIssued env next := by
  induction rounds with
  | done => exact issued
  | round _ handled _ ih => exact ih (handled_issued issued handled)

end Running

/-- After a message the pending records come from valid messages. -/
theorem effect_issued {delivery : Delivery env} (issued : AllIssued env state)
    (effect : Effect env state next delivery) : AllIssued env next := by
  cases effect with
  | created msg output _ _ created => exact created_issued issued created
  | claimed msg claims _ written =>
    subst written
    exact issued
  | ran msg _ rounds => exact rounds_issued issued rounds

/-- The pending records are sound and issued. -/
structure Orderly (env : Environment) (state : State) : Prop where
  sound : Sound env state
  issued : AllIssued env state

/-- A message keeps the records orderly, also when it fails. -/
theorem orderly_attempt {delivery : Delivery env} (orderly : Orderly env state) :
    Orderly env (attempt (deliver env) state delivery) := by
  rcases @attempt_cases _ _ _ (deliver env) state delivery with same | ⟨next, delivered, same⟩
  · rw [same]
    exact orderly
  · have effect := deliver_effect orderly.sound delivered
    rw [same]
    exact ⟨effect_sound orderly.sound effect, effect_issued orderly.issued effect⟩

/-- Before the first message the records are orderly. -/
theorem initial_orderly (env : Environment) (bank : Ledger) : Orderly env (initial bank) :=
  ⟨initial_sound env bank, Store.All.empty⟩

/-- What a delivered message assigns to the outputs that count. -/
def assigned (env : Environment) (chosen : Selector) (denom : Denom)
    (transition : Transition State (Delivery env)) : Int :=
  match transition.message.msg with
  | .createDistribution msg =>
    if (deliver env transition.before transition.message).isOk then
      let name := distributionNameOf transition.message.context.blockHeight msg.distributor
      (msg.output.map fun out =>
        if chosen name msg.distributionType out.address msg.authorizedRunner then
          rawAmount denom out.coins
        else 0).sum
    else 0
  | _ => 0

/-- The records of one recipient in the distributions of a name and type. -/
def ofRecipient (name : String) (distributionType : DistributionType) (recipient : String) :
    Selector :=
  fun recordName recordType address _ =>
    recordName = name && recordType = distributionType && address = recipient

/-- Every place that a run of a distribution moves a record to is free. -/
def targetsVacant (env : Environment) (state : State) (delivery : Delivery env) : Bool :=
  match delivery.msg with
  | .runDistribution msg =>
    (state.getLimitedRecordsForRunner msg.distributionName msg.authorizedRunner
      msg.distributionType .pending).all (targetVacant env state)
  | _ => true

/-- Nothing is assigned by a message that fails. -/
theorem assigned_error {delivery : Delivery env} {fault : Fault} {chosen : Selector} {denom : Denom}
    (failed : deliver env state delivery = .error fault) :
    assigned env chosen denom ⟨state, delivery, state⟩ = 0 := by
  unfold assigned
  dsimp only
  rw [failed]
  split <;> rfl

/-- Nothing is assigned by a message that creates no distribution. -/
theorem assigned_other {delivery : Delivery env} {chosen : Selector} {denom : Denom}
    (other : ∀ msg, delivery.msg ≠ .createDistribution msg) :
    assigned env chosen denom ⟨state, delivery, next⟩ = 0 := by
  unfold assigned
  dsimp only
  split
  · exact absurd ‹_› (other _)
  · rfl

/-- A created distribution assigns what its message says to the outputs that count. -/
theorem created_assigned {delivery : Delivery env} {msg : MsgCreateDistribution}
    {output : List (Output Coins)} {chosen : Selector} {denom : Denom}
    (is : delivery.msg = .createDistribution msg)
    (delivered : deliver env state delivery = .ok next)
    (checked : msg.validateBasic env.toChain = .ok output) :
    assigned env chosen denom ⟨state, delivery, next⟩ =
      ((output.map fun out => if chosen
        (distributionNameOf delivery.context.blockHeight msg.distributor) msg.distributionType
          out.address msg.authorizedRunner then out.coins.amountOf denom else 0).sum : Nat) := by
  simp only [MsgCreateDistribution.validateBasic, Result.bind_ok, Outcome.require_ok] at checked
  obtain ⟨-, -, -, -, -, -, -, -, outputs⟩ := checked
  have amounts := checkOutputs_amount outputs (fun address => chosen
    (distributionNameOf delivery.context.blockHeight msg.distributor) msg.distributionType
      address msg.authorizedRunner) denom
  unfold assigned
  rw [is]
  dsimp only
  rw [delivered, if_pos (by rfl)]
  exact amounts.symm

/-- Outputs for one recipient and name meet only records of that recipient and name. -/
theorem ofRecipient_agrees {msg : MsgCreateDistribution} {output : List (Output Coins)}
    {name recipient : String} {distributionType : DistributionType} (plain : PlainAddresses env)
    (orderly : Orderly env state) (created : Created env context state next msg output) :
    Agrees (ofRecipient name distributionType recipient)
      (distributionNameOf context.blockHeight msg.distributor) msg.distributionType
        msg.authorizedRunner output state.pending := by
  intro out listed old met
  obtain ⟨named, typed, recipients⟩ :=
    met_same plain orderly.sound orderly.issued created listed met
  unfold Selector.takes
  rw [named, typed, recipients]
  rfl

/-- One delivery moves the records of a recipient by what it assigns. -/
theorem recorded_attempt {delivery : Delivery env} (plain : PlainAddresses env)
    (orderly : Orderly env state) (vacant : targetsVacant env state delivery = true)
    (name : String) (distributionType : DistributionType) (recipient : String) (denom : Denom) :
    let chosen := ofRecipient name distributionType recipient
    (recorded chosen denom (attempt (deliver env) state delivery) : Int) =
      recorded chosen denom state +
        assigned env chosen denom ⟨state, delivery, attempt (deliver env) state delivery⟩ := by
  intro chosen
  cases delivered : deliver env state delivery with
  | error fault =>
    rw [attempt_error delivered, assigned_error delivered, add_zero]
  | ok next =>
    rw [attempt_ok delivered]
    cases deliver_effect orderly.sound delivered with
    | created msg output is checked created =>
      have raised := @created_chosen _ _ _ _ _ _ chosen created
        (ofRecipient_agrees plain orderly created) denom
      rw [created_assigned is delivered checked]
      unfold recorded
      rw [created.completed, created.failed]
      omega
    | claimed msg claims is written =>
      rw [assigned_other (fun _ => by rw [is]; nofun), written, add_zero]
      rfl
    | ran msg is rounds =>
      unfold targetsVacant at vacant
      rw [is] at vacant
      have same := rounds_recorded chosen denom (selected_distinct orderly.sound.filed)
        (List.all_eq_true.mp vacant) rounds
      rw [assigned_other (fun _ => by rw [is]; nofun), same, add_zero]

/-- As long as every run of a distribution moves records to free places, the pending, completed
and failed records of a recipient in the distributions of a name and type hold exactly what
successful messages of that name and type assigned to the recipient. -/
theorem records_hold_assigned (env : Environment) (plain : PlainAddresses env) (bank : Ledger)
    (deliveries : List (Delivery env))
    (vacant : Meets (deliver env) (fun state delivery => targetsVacant env state delivery = true)
      (initial bank) deliveries)
    (name : String) (distributionType : DistributionType) (recipient : String) (denom : Denom) :
    let chosen := ofRecipient name distributionType recipient
    (recorded chosen denom (run (deliver env) (initial bank) deliveries) : Int) =
      ((transitions (deliver env) (initial bank) deliveries).map
        (assigned env chosen denom)).sum := by
  have accounted := @run_eq _ _ _ (deliver env) _ (Orderly env)
    (fun state => (recorded (ofRecipient name distributionType recipient) denom state : Int))
    (assigned env (ofRecipient name distributionType recipient) denom)
    (fun _ => 0) (fun _ _ orderly _ => orderly_attempt orderly)
    (fun _ _ orderly free => (add_zero _).trans
      (recorded_attempt plain orderly free name distributionType recipient denom))
    _ (initial_orderly env bank) _ vacant
  have empty : recorded (ofRecipient name distributionType recipient) denom (initial bank) = 0 := rfl
  have nothingLost : ((transitions (deliver env) (initial bank) deliveries).map
      fun _ => (0 : Int)).sum = 0 := by simp
  omega

/-- The account that runs the sample distribution. -/
def aliceAddress : AccAddress := List.replicate 20 1

/-- Its address as it is written. -/
def aliceText : String := "ak1qyqszqgpqyqszqgpqyqszqgpqyqszqgpz09ut2"

/-- The first recipient. -/
def bobAddress : AccAddress := List.replicate 20 2

/-- The first recipient's address as it is written. -/
def bobText : String := "ak1qgpqyqszqgpqyqszqgpqyqszqgpqyqszntrequ"

/-- The second recipient. -/
def carolAddress : AccAddress := List.replicate 20 3

/-- The second recipient's address as it is written. -/
def carolText : String := "ak1qvpsxqcrqvpsxqcrqvpsxqcrqvpsxqcrjmzc2a"

/-- The address of the dispensation module account. -/
def dispensationAddress : AccAddress :=
  [19, 28, 158, 48, 145, 157, 203, 82, 142, 122, 61, 250, 239, 28, 104, 60, 141, 44, 177, 27]

/-- The chain seen by three accounts. -/
def dropEnvironment : Environment where
  accAddressFromBech32 text :=
    if text = aliceText then some aliceAddress
    else if text = bobText then some bobAddress
    else if text = carolText then some carolAddress
    else none
  accAddressText address :=
    if address = aliceAddress then aliceText
    else if address = bobAddress then bobText
    else if address = carolAddress then carolText
    else ""
  moduleAddress _ := dispensationAddress
  blockedAddr address := address = dispensationAddress
  recordText _ := ""
  claimText _ := ""

/-- The addresses of the sample have no underscore. -/
theorem dropEnvironment_plain : PlainAddresses dropEnvironment := by
  intro text decodes
  change (if text = aliceText then some aliceAddress else if text = bobText then some bobAddress
    else if text = carolText then some carolAddress else none).isSome = true at decodes
  split at decodes
  · subst text
    decide
  · split at decodes
    · subst text
      decide
    · split at decodes
      · subst text
        decide
      · cases decodes

/-- One account owns coins, and the module account is empty. -/
def dropBank : Ledger := ⟨fun address _ => if address = aliceAddress then 1000 else 0⟩

/-- Height ten, with nothing locked. -/
def dropContext : Context dropEnvironment := ⟨10, 0, fun _ _ => 0, fun _ => rfl⟩

/-- The name of what the funded account creates in this block. -/
def dropName : String := distributionNameOf 10 aliceText

/-- An airdrop for the third account. -/
def createDrop (runner : String) (amount : SInt) : Delivery dropEnvironment :=
  ⟨dropContext, .createDistribution ⟨aliceText, runner, .airdrop, [⟨carolText, [⟨"aku", amount⟩]⟩]⟩⟩

/-- A run of the sample distribution by a runner. -/
def runDrop (runner : String) : Delivery dropEnvironment :=
  ⟨dropContext, .runDistribution ⟨runner, dropName, .airdrop⟩⟩

/-- The amount of five. -/
def five : SInt := ⟨5, by decide⟩

/-- The amount of seven. -/
def seven : SInt := ⟨7, by decide⟩

/-- Two airdrops that merge before one run leave one record of twelve. -/
theorem records_hold_merged :
    (recorded (ofRecipient dropName .airdrop carolText) "aku"
      (run (deliver dropEnvironment) (initial dropBank)
        [createDrop aliceText five, createDrop bobText seven, runDrop bobText]) : Int) =
      ((transitions (deliver dropEnvironment) (initial dropBank)
        [createDrop aliceText five, createDrop bobText seven, runDrop bobText]).map
          (assigned dropEnvironment (ofRecipient dropName .airdrop carolText) "aku")).sum :=
  records_hold_assigned dropEnvironment dropEnvironment_plain dropBank _ (by decide +kernel)
    dropName .airdrop carolText "aku"

/-- In one block an airdrop is created and run, and another of the same distributor and type with
another runner is created and run: the second completed record replaces the first, so five of the
twelve assigned coins are recorded nowhere. -/
theorem record_overwritten :
    let deliveries :=
      [createDrop aliceText five, runDrop aliceText, createDrop bobText seven, runDrop bobText]
    PlainAddresses dropEnvironment ∧
      recorded (ofRecipient dropName .airdrop carolText) "aku"
        (run (deliver dropEnvironment) (initial dropBank) deliveries) = 7 ∧
      ((transitions (deliver dropEnvironment) (initial dropBank) deliveries).map
        (assigned dropEnvironment (ofRecipient dropName .airdrop carolText) "aku")).sum = 12 :=
  ⟨dropEnvironment_plain, by decide +kernel⟩

end Akhira.Verif.Dispensation
