import Akhira.Verif.BankSymbols
import Akhira.Verif.BridgeQuorum

/-!
# What the bank's log says about payouts

The log of the bank only grows, and an unlock is logged exactly when a withdrawal of a locked
token is completed. The spelling that is logged has the lower case of the symbol that was
claimed, whatever spellings have been recorded meanwhile.
-/
namespace Akhira.Verif.Contracts

open Akhira.Base Akhira.Contracts

variable {keccak256 : Bytes → Word} {bank next : BridgeBank} {world : World}

/-- The amount that an event unlocks under a symbol in lower case. -/
def unlockValue (symbol : Bytes) : BankEvent → Nat
  | .logUnlock _ _ spelling value => if toLower spelling = symbol then value.toNat else 0
  | _ => 0

/-- The amount that has been unlocked under a symbol in lower case. -/
def unlocked (symbol : Bytes) (events : List BankEvent) : Nat :=
  (events.map (unlockValue symbol)).sum

/-- What is unlocked adds up over two parts of a log. -/
theorem unlocked_append (symbol : Bytes) (events more : List BankEvent) :
    unlocked symbol (events ++ more) = unlocked symbol events + unlocked symbol more := by
  rw [unlocked, List.map_append, List.sum_append]
  rfl

/-- Events are added, none of which unlocks anything. -/
def Appends (bank next : BridgeBank) : Prop :=
  ∃ more, next.events = bank.events ++ more ∧ ∀ symbol, unlocked symbol more = 0

namespace Appends

/-- A call that logs nothing appends to the log. -/
theorem same (events : next.events = bank.events) : Appends bank next :=
  ⟨[], by rw [events, List.append_nil], fun _ => rfl⟩

/-- A call that logs one event other than an unlock appends to the log. -/
theorem one {event : BankEvent} (events : next.events = bank.events ++ [event])
    (quiet : ∀ symbol, unlockValue symbol event = 0) : Appends bank next := by
  refine ⟨[event], events, fun symbol => ?_⟩
  simp [unlocked, quiet]

/-- Two calls in a row append to the log. -/
theorem trans {middle : BridgeBank} (first : Appends bank middle) (second : Appends middle next) :
    Appends bank next := by
  obtain ⟨early, earlier, firstQuiet⟩ := first
  obtain ⟨late, later, secondQuiet⟩ := second
  refine ⟨early ++ late, by rw [later, earlier, List.append_assoc], fun symbol => ?_⟩
  rw [unlocked_append, firstQuiet, secondQuiet]

/-- What was unlocked is unchanged by what only appends. -/
theorem unlocked_eq (appends : Appends bank next) (symbol : Bytes) :
    unlocked symbol next.events = unlocked symbol bank.events := by
  obtain ⟨more, added, quiet⟩ := appends
  rw [added, unlocked_append, quiet, Nat.add_zero]

/-- No event is ever lost. -/
theorem subset (appends : Appends bank next) : bank.events ⊆ next.events := by
  obtain ⟨more, added, -⟩ := appends
  rw [added]
  exact List.subset_append_left _ _

end Appends

/-- A recorded spelling has the lower case it is recorded under. -/
def Spelled (bank : BridgeBank) : Prop :=
  ∀ key, bank.lowerToUpperTokens key ≠ [] → toLower (bank.lowerToUpperTokens key) = key

/-- What a call of the bank other than an unlock leaves. -/
structure Quietly (bank next : BridgeBank) : Prop where
  appends : Appends bank next
  spelled : Spelled bank → Spelled next

/-- A byte in lower case stays as it is. -/
theorem lowerByte_lowerByte (byte : UInt8) : lowerByte (lowerByte byte) = lowerByte byte := by
  by_cases capital : 65 ≤ byte ∧ byte ≤ 90
  · have lower : ¬ (65 ≤ byte + 32 ∧ byte + 32 ≤ 90) := by
      simp only [UInt8.le_iff_toNat_le, UInt8.toNat_add] at capital ⊢
      simp only [UInt8.reduceToNat] at capital ⊢
      omega
    rw [lowerByte, lowerByte, if_pos capital, if_neg lower]
  · rw [lowerByte, lowerByte, if_neg capital, if_neg capital]

/-- A text in lower case stays as it is. -/
@[simp] theorem toLower_toLower (text : Bytes) : toLower (toLower text) = toLower text := by
  unfold toLower
  rw [List.map_map]
  exact List.map_congr_left fun byte _ => lowerByte_lowerByte byte

/-- The spelling found for a symbol has its lower case. -/
theorem Spelled.safe (spelled : Spelled bank) (symbol : Bytes) :
    toLower (bank.safeLowerToUpperTokens keccak256 symbol) = toLower symbol := by
  unfold BridgeBank.safeLowerToUpperTokens
  dsimp only
  split
  · rfl
  · next found =>
    have recorded : bank.lowerToUpperTokens symbol ≠ [] := fun empty => found (by rw [empty])
    have lower := spelled symbol recorded
    have again := congrArg toLower lower
    rw [toLower_toLower] at again
    exact again

/-- Calls that record spellings or make deposits keep the spellings right. -/
theorem Spelled.step {call : BankCall} (spelled : Spelled bank)
    (effect : SymbolEffect call bank next) : Spelled next := by
  cases effect with
  | recorded symbols own spellings locked deposits =>
    intro key recorded
    rw [spellings] at recorded ⊢
    rcases record_cases bank.lowerToUpperTokens symbols key with kept | ⟨symbol, -, lower, found⟩
    · rw [kept] at recorded ⊢
      exact spelled key recorded
    · rw [found]
      exact lower
  | deposited token symbol own spellings locked deposits =>
    unfold Spelled
    rw [spellings]
    exact spelled

section Calls

/-- White listing a token of Cosmos logs no unlock. -/
theorem setTokenInCosmosWhiteList_appends (token : Address) (inList : Bool) :
    Appends bank (bank.setTokenInCosmosWhiteList token inList) :=
  .one rfl fun _ => rfl

/-- White listing a token of Ethereum logs no unlock. -/
theorem setTokenInEthWhiteList_appends (token : Address) (inList : Bool) :
    Appends bank (bank.setTokenInEthWhiteList token inList) :=
  .one rfl fun _ => rfl

/-- Taking a bridge token over logs no unlock. -/
theorem controlBridgeToken_appends {token : Address} {symbol : Bytes}
    (controlled : bank.controlBridgeToken token symbol = .ok next) : Appends bank next := by
  simp only [BridgeBank.controlBridgeToken, Result.bind_ok, Result.pure_ok] at controlled
  obtain ⟨count, -, rfl⟩ := controlled
  exact .one rfl fun _ => rfl

/-- White listing many tokens logs no unlock. -/
theorem bulk_appends {tokens : List Address}
    (updated : tokens.foldlM (fun bank token => do
      let symbol ← BridgeBank.symbolOf world token
      pure ((bank.setTokenInEthWhiteList token true).setLowerToUpper symbol)) bank =
        (.ok next : Revertible BridgeBank)) : Appends bank next := by
  induction tokens generalizing bank with
  | nil =>
    cases updated
    exact .same rfl
  | cons token rest ih =>
    simp only [List.foldlM_cons, Result.bind_ok, Result.pure_ok] at updated
    obtain ⟨_, ⟨symbol, -, rfl⟩, later⟩ := updated
    have first : Appends bank ((bank.setTokenInEthWhiteList token true).setLowerToUpper symbol) :=
      setTokenInEthWhiteList_appends token true
    exact first.trans (ih later)

/-- No call of an account unlocks anything. -/
theorem account_appends {sender : Address} {action : BankAction}
    (executed : bank.call world sender action = .ok next) : Appends bank next := by
  cases action with
  | updateEthWhiteList token inList =>
    simp only [BridgeBank.call, BridgeBank.updateEthWhiteList, Result.bind_ok] at executed
    obtain ⟨-, -, symbol, -, checked⟩ := executed
    have updated : next = (bank.setLowerToUpper symbol).setTokenInEthWhiteList token inList := by
      split at checked
      all_goals
        simp only [Result.bind_ok, Result.pure_ok] at checked
        exact checked.choose_spec.2.symm
    rw [updated]
    exact .one rfl fun _ => rfl
  | bulkWhitelistUpdateLimits tokens =>
    simp only [BridgeBank.call, BridgeBank.bulkWhitelistUpdateLimits, Result.bind_ok] at executed
    obtain ⟨-, -, updated⟩ := executed
    exact bulk_appends updated
  | addExistingBridgeToken token =>
    simp only [BridgeBank.call, BridgeBank.addExistingBridgeToken, Result.bind_ok] at executed
    obtain ⟨-, -, symbol, -, controlled⟩ := executed
    exact (setTokenInCosmosWhiteList_appends token true).trans
      (controlBridgeToken_appends controlled)
  | lock value recipient token amount =>
    simp only [BridgeBank.call, BridgeBank.lock, Result.bind_ok, Result.pure_ok] at executed
    obtain ⟨-, -, -, -, -, -, -, -, symbol, -, nonce, -, rfl⟩ := executed
    exact .one rfl fun _ => rfl
  | burn recipient token amount =>
    simp only [BridgeBank.call, BridgeBank.burn, Result.bind_ok, Result.pure_ok] at executed
    obtain ⟨-, -, -, -, -, -, -, -, symbol, -, -, -, nonce, -, rfl⟩ := executed
    exact .one rfl fun _ => rfl
  | changeOwner newOwner =>
    simp only [BridgeBank.call, BridgeBank.changeOwner, Result.bind_ok, Result.pure_ok] at executed
    obtain ⟨-, -, -, -, rfl⟩ := executed
    exact .same rfl
  | changeOperator newOperator =>
    simp only [BridgeBank.call, BridgeBank.changeOperator, Result.bind_ok,
      Result.pure_ok] at executed
    obtain ⟨-, -, -, -, rfl⟩ := executed
    exact .same rfl
  | setBlocklist =>
    simp only [BridgeBank.call, BridgeBank.setBlocklist, Result.bind_ok, Result.pure_ok] at executed
    obtain ⟨-, -, rfl⟩ := executed
    exact .same rfl
  | addPauser account =>
    simp only [BridgeBank.call, BridgeBank.addPauser, Result.bind_ok, Result.pure_ok] at executed
    obtain ⟨-, -, rfl⟩ := executed
    exact .same rfl
  | renouncePauser =>
    cases executed
    exact .same rfl
  | pause =>
    simp only [BridgeBank.call, BridgeBank.pause, Result.bind_ok, Result.pure_ok] at executed
    obtain ⟨-, -, -, -, rfl⟩ := executed
    exact .one rfl fun _ => rfl
  | unpause =>
    simp only [BridgeBank.call, BridgeBank.unpause, Result.bind_ok, Result.pure_ok] at executed
    obtain ⟨-, -, -, -, rfl⟩ := executed
    exact .one rfl fun _ => rfl

/-- A call of an account unlocks nothing and keeps the spellings of symbols. -/
theorem account_quietly {sender : Address} {action : BankAction}
    (executed : bank.call world sender action = .ok next) : Quietly bank next :=
  ⟨account_appends executed, fun spelled => spelled.step (account_effect executed)⟩

/-- The token of a new prophecy may be deployed. -/
theorem prepareToken_quietly {sender : Address} {claimType : ClaimType} {symbol : Bytes}
    (prepared : BridgeSystem.prepareToken keccak256 world bank sender claimType symbol = .ok next) :
    Quietly bank next := by
  have unchanged : Quietly bank bank := ⟨.same rfl, id⟩
  unfold BridgeSystem.prepareToken at prepared
  cases claimType with
  | unsupported => cases prepared
  | burn =>
    simp only [Result.bind_ok, Result.pure_ok] at prepared
    obtain ⟨-, -, rfl⟩ := prepared
    exact unchanged
  | lock =>
    dsimp only at prepared
    split at prepared
    · have created : executeBank keccak256 bank ⟨sender, world, .createNewBridgeToken symbol⟩ =
          .ok next := prepared
      refine ⟨?_, fun spelled => spelled.step (executeBank_effect created)⟩
      simp only [BridgeBank.createNewBridgeToken, Result.bind_ok, Result.pure_ok] at prepared
      obtain ⟨-, -, controlled, control, rfl⟩ := prepared
      exact (controlBridgeToken_appends control).trans (setTokenInCosmosWhiteList_appends _ true)
    · cases prepared
      exact unchanged

end Calls

/-- The amount that a completed claim unlocks under a symbol in lower case. -/
def claimValue (symbol : Bytes) (claim : ProphecyClaim) : Nat :=
  if claim.claimType = .burn ∧ toLower claim.symbol = symbol then claim.amount.toNat else 0

/-- The claim of a completed prophecy is paid. -/
structure Settled (bank next : BridgeBank) (claim : ProphecyClaim) : Prop where
  spelled : Spelled next
  unlocked : ∀ symbol,
    unlocked symbol next.events = unlocked symbol bank.events + claimValue symbol claim

section System

variable {system after : BridgeSystem} {claim : ProphecyClaim}

/-- A completion adds one event. -/
theorem completeProphecyClaim_events
    (completed : system.completeProphecyClaim keccak256 world claim = .ok after) :
    system.bank.events ⊆ after.bank.events := by
  simp only [BridgeSystem.completeProphecyClaim, BridgeSystem.callBank, Result.bind_ok,
    Result.pure_ok] at completed
  obtain ⟨-, ⟨-, -, rfl⟩, bank, paid, rfl⟩ := completed
  split at paid
  · have logged := unlock_ok paid
    dsimp only at logged
    rw [logged]
    exact List.subset_append_left _ _
  · simp only [BridgeBank.mintBridgeTokens, BridgeBank.mintNewBridgeTokens, Result.bind_ok,
      Result.pure_ok] at paid
    obtain ⟨-, -, -, -, -, -, -, -, -, -, rfl⟩ := paid
    exact List.subset_append_left _ _

/-- The first claim on a prophecy pays nothing. -/
theorem announced_quietly {prophecyID : Word}
    (opened : (if system.bridge.oracleClaimValidators prophecyID = 0 then
        system.announceProphecy keccak256 world claim
      else pure system) = .ok after) : Quietly system.bank after.bank := by
  split at opened
  · simp only [BridgeSystem.announceProphecy, BridgeSystem.callBank, Result.bind_ok,
      Result.pure_ok] at opened
    obtain ⟨-, ⟨-, -, rfl⟩, bank, prepared, rfl⟩ := opened
    exact prepareToken_quietly prepared
  · cases opened
    exact ⟨.same rfl, id⟩

/-- A completion pays the amount of the claim once. -/
theorem completeProphecyClaim_settled (spelled : Spelled system.bank)
    (completed : system.completeProphecyClaim keccak256 world claim = .ok after) :
    Settled system.bank after.bank claim := by
  simp only [BridgeSystem.completeProphecyClaim, BridgeSystem.callBank, Result.bind_ok,
    Result.pure_ok] at completed
  obtain ⟨-, ⟨-, -, rfl⟩, bank, paid, rfl⟩ := completed
  split at paid
  · next burn =>
    have logged := unlock_ok paid
    dsimp only at logged
    have lower := @Spelled.safe keccak256 _ spelled claim.symbol
    rw [logged]
    refine ⟨spelled, fun symbol => ?_⟩
    dsimp only
    rw [unlocked_append]
    simp only [unlocked, List.map_singleton, List.sum_singleton, unlockValue, claimValue, lower,
      burn, true_and]
  · next other =>
    have effect := @executeBank_effect keccak256
      ⟨system.bridge.self, world, .mintBridgeTokens claim.ethereumReceiver claim.symbol
        claim.amount⟩ _ _ paid
    simp only [BridgeBank.mintBridgeTokens, BridgeBank.mintNewBridgeTokens, Result.bind_ok,
      Result.pure_ok] at paid
    obtain ⟨-, -, -, -, -, -, -, -, -, -, rfl⟩ := paid
    refine ⟨spelled.step effect, fun symbol => ?_⟩
    have nothing : claimValue symbol claim = 0 := if_neg fun both => other both.1
    dsimp only
    rw [unlocked_append, nothing]
    rfl

/-- The signed power of a prophecy reaches the threshold. -/
def Reached (bridge : CosmosBridge) (prophecyID : Word) : Prop :=
  bridge.totalPower.toNat * bridge.consensusThreshold.toNat ≤
    (bridge.oracleClaimValidators prophecyID).toNat * 100

/-- A claim pays what it names when it reaches the threshold, and nothing before. -/
theorem newProphecyClaim_settled {sender : Address} (spelled : Spelled system.bank)
    (claimed : system.newProphecyClaim keccak256 world sender claim = .ok after) :
    (Reached after.bridge (getProphecyID keccak256 claim) →
      Settled system.bank after.bank claim) ∧
    (¬ Reached after.bridge (getProphecyID keccak256 claim) →
      Quietly system.bank after.bank) := by
  simp only [BridgeSystem.newProphecyClaim, Result.bind_ok] at claimed
  obtain ⟨-, -, -, -, -, -, middle, opened, result, claimed, ended⟩ := claimed
  have announced := announced_quietly opened
  obtain ⟨-, reached⟩ := newOracleClaim_ok claimed
  obtain ⟨kept, keptSet, -⟩ := completion_ok ended
  have same : Reached after.bridge (getProphecyID keccak256 claim) ↔ result.2 = true := by
    unfold Reached
    rw [reached, decide_eq_true_eq, kept.signed, kept.threshold, keptSet.total]
  constructor
  · intro complete
    rw [if_pos (same.mp complete)] at ended
    have settled := @completeProphecyClaim_settled keccak256 world
      { middle with bridge := result.1 } after claim (announced.spelled spelled) ended
    refine ⟨settled.spelled, fun symbol => ?_⟩
    rw [settled.unlocked]
    exact congrArg (· + _) (announced.appends.unlocked_eq symbol)
  · intro pending
    rw [if_neg fun complete => pending (same.mpr complete)] at ended
    cases ended
    exact announced

/-- The claim that an action makes. -/
def claimMade : Action → Option ProphecyClaim
  | .newProphecyClaim claim => some claim
  | _ => none

/-- Only claims pay. -/
theorem execute_quietly {call : Call} (other : claimMade call.action = none)
    (executed : execute keccak256 system call = .ok after) : Quietly system.bank after.bank := by
  have unchanged : ∀ {change : Revertible CosmosBridge},
      system.withBridge change = .ok after → Quietly system.bank after.bank := by
    intro change changed
    simp only [BridgeSystem.withBridge, Result.bind_ok, Result.pure_ok] at changed
    obtain ⟨bridge, -, rfl⟩ := changed
    exact ⟨.same rfl, id⟩
  unfold execute at executed
  cases kind : call.action with
  | newProphecyClaim claim =>
    rw [kind] at other
    cases other
  | bank action =>
    simp only [kind, Result.bind_ok, Result.pure_ok] at executed
    obtain ⟨bank, called, rfl⟩ := executed
    exact account_quietly called
  | _ =>
    simp only [kind] at executed
    exact unchanged executed

/-- Only the making of a claim makes it. -/
theorem action_of_claimMade {action : Action} (made : claimMade action = some claim) :
    action = .newProphecyClaim claim := by
  cases action with
  | newProphecyClaim other => rw [Option.some.inj made]
  | _ => cases made

/-- The log of the bank only grows. -/
theorem execute_events {call : Call} (executed : execute keccak256 system call = .ok after) :
    system.bank.events ⊆ after.bank.events := by
  cases made : claimMade call.action with
  | none => exact (execute_quietly made executed).appends.subset
  | some claim =>
    simp only [execute, action_of_claimMade made, BridgeSystem.newProphecyClaim,
      Result.bind_ok] at executed
    obtain ⟨-, -, -, -, -, -, middle, opened, result, -, ended⟩ := executed
    have announced := (announced_quietly opened).appends.subset
    split at ended
    · have paid := completeProphecyClaim_events ended
      exact List.Subset.trans announced paid
    · cases ended
      exact announced

end System

end Akhira.Verif.Contracts
