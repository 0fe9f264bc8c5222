import Akhira.Base.Run
import Akhira.Verif.BridgePayout

/-!
# The asset that an unlock pays

A withdrawal names the lower case of a symbol. The bank looks up the spelling recorded last for
it, and under that the token locked last; other spellings, other tokens of one symbol and bridge
tokens write to the same two tables. As long as none of them does so for a symbol under which a
deposit was made, an unlock pays what was deposited.
-/
namespace Akhira.Verif.Contracts

open Akhira.Base Akhira.Contracts

/-- What the bank is asked for, by accounts or by the bridge. -/
inductive BankOperation where
  | account (action : BankAction)
  | createNewBridgeToken (symbol : Bytes)
  | mintBridgeTokens (intendedRecipient : Address) (symbol : Bytes) (amount : Word)
  | unlock (recipient : Address) (symbol : Bytes) (amount : Word)

/-- A call of the bank. -/
structure BankCall where
  sender : Address
  world : World
  operation : BankOperation

/-- Carry out a call. -/
def executeBank (keccak256 : Bytes → Word) (bank : BridgeBank) (call : BankCall) :
    Revertible BridgeBank :=
  match call.operation with
  | .account action => bank.call call.world call.sender action
  | .createNewBridgeToken symbol => bank.createNewBridgeToken call.world call.sender symbol
  | .mintBridgeTokens intendedRecipient symbol amount =>
    bank.mintBridgeTokens keccak256 call.world call.sender intendedRecipient symbol amount
  | .unlock recipient symbol amount =>
    bank.unlock keccak256 call.world call.sender recipient symbol amount

/-- The deposits so far: the token, zero for ether, and the symbol it was locked with. -/
def depositsOf (events : List BankEvent) : List (Address × Bytes) :=
  events.filterMap fun event =>
    match event with
    | .logLock _ _ token symbol _ _ => some (token, symbol)
    | _ => none

/-- The spellings that a call records. -/
def recordedBy (call : BankCall) : List Bytes :=
  match call.operation with
  | .account (.updateEthWhiteList token _) => (call.world.symbol token).toList
  | .account (.bulkWhitelistUpdateLimits tokens) => tokens.filterMap call.world.symbol
  | .account (.addExistingBridgeToken token) => (call.world.symbol token).toList
  | .createNewBridgeToken symbol => [symbol]
  | _ => []

/-- The deposit that a call makes. -/
def depositedBy (call : BankCall) : Option (Address × Bytes) :=
  match call.operation with
  | .account (.lock value _ token _) =>
    if value ≠ 0 then some (token, ascii "eth")
    else (call.world.symbol token).map fun symbol => (token, symbol)
  | _ => none

/-- A call that does not touch the symbols of deposits: no other spelling is recorded for one, and a
deposit is made under the spelling recorded for its symbol, with the token deposited before. -/
def Tidy (keccak256 : Bytes → Word) (bank : BridgeBank) (call : BankCall) : Prop :=
  (∀ symbol ∈ recordedBy call, ∀ deposit ∈ depositsOf bank.events,
      toLower deposit.2 = toLower symbol → deposit.2 = symbol) ∧
    ∀ new ∈ depositedBy call, bank.safeLowerToUpperTokens keccak256 (toLower new.2) = new.2 ∧
      ∀ deposit ∈ depositsOf bank.events, deposit.2 = new.2 → deposit.1 = new.1

/-- Tidiness is decided call by call. -/
instance (keccak256 : Bytes → Word) (bank : BridgeBank) (call : BankCall) :
    Decidable (Tidy keccak256 bank call) := inferInstanceAs (Decidable (_ ∧ _))

/-- The spellings after more are recorded. -/
def record (lowerToUpperTokens : Bytes → Bytes) (symbols : List Bytes) : Bytes → Bytes :=
  symbols.foldl (fun tokens symbol => write tokens (toLower symbol) symbol) lowerToUpperTokens

/-- What a call does to symbols: it records spellings, or it makes a deposit. -/
inductive SymbolEffect (call : BankCall) (bank next : BridgeBank) : Prop where
  | recorded (symbols : List Bytes) (own : ∀ symbol ∈ symbols, symbol ∈ recordedBy call)
      (spellings : next.lowerToUpperTokens = record bank.lowerToUpperTokens symbols)
      (locked : next.lockedTokenList = bank.lockedTokenList)
      (deposits : depositsOf next.events = depositsOf bank.events)
  | deposited (token : Address) (symbol : Bytes) (own : depositedBy call = some (token, symbol))
      (spellings : next.lowerToUpperTokens = bank.lowerToUpperTokens)
      (locked : next.lockedTokenList = write bank.lockedTokenList symbol token)
      (deposits : depositsOf next.events = depositsOf bank.events ++ [(token, symbol)])

section Effects

variable {keccak256 : Bytes → Word} {call : BankCall} {bank next : BridgeBank} {world : World}

/-- A call that keeps spellings, locked tokens and deposits has no effect on symbols. -/
theorem SymbolEffect.quiet (spellings : next.lowerToUpperTokens = bank.lowerToUpperTokens)
    (locked : next.lockedTokenList = bank.lockedTokenList)
    (deposits : depositsOf next.events = depositsOf bank.events) : SymbolEffect call bank next :=
  .recorded [] (by simp) spellings locked deposits

/-- The symbol of a token is what its contract answers. -/
theorem symbolOf_ok {token : Address} {symbol : Bytes} :
    BridgeBank.symbolOf world token = .ok symbol ↔ world.symbol token = some symbol := by
  unfold BridgeBank.symbolOf
  cases world.symbol token <;> simp [Revertible.revert]

/-- An event that is no deposit. -/
theorem depositsOf_other {events : List BankEvent} {event : BankEvent}
    (other : ∀ sender recipient token symbol value nonce,
      event ≠ .logLock sender recipient token symbol value nonce) :
    depositsOf (events ++ [event]) = depositsOf events := by
  rw [depositsOf, List.filterMap_append]
  cases event with
  | logLock sender recipient token symbol value nonce =>
    exact absurd rfl (other sender recipient token symbol value nonce)
  | _ => exact List.append_nil _

/-- White listing a token of Cosmos is no deposit. -/
theorem setTokenInCosmosWhiteList_deposits (token : Address) (inList : Bool) :
    depositsOf (bank.setTokenInCosmosWhiteList token inList).events = depositsOf bank.events :=
  depositsOf_other (by simp)

/-- White listing a token of Ethereum is no deposit. -/
theorem setTokenInEthWhiteList_deposits (token : Address) (inList : Bool) :
    depositsOf (bank.setTokenInEthWhiteList token inList).events = depositsOf bank.events :=
  depositsOf_other (by simp)

/-- Control of a bridge token records its symbol. -/
theorem controlBridgeToken_ok {token : Address} {symbol : Bytes}
    (controlled : bank.controlBridgeToken token symbol = .ok next) :
    next.lowerToUpperTokens = record bank.lowerToUpperTokens [symbol] ∧
      next.lockedTokenList = bank.lockedTokenList ∧
      depositsOf next.events = depositsOf bank.events := by
  simp only [BridgeBank.controlBridgeToken, Result.bind_ok, Result.pure_ok] at controlled
  obtain ⟨count, -, rfl⟩ := controlled
  exact ⟨rfl, rfl, depositsOf_other (by simp)⟩

/-- The loop of a bulk update records the symbols of its tokens. -/
theorem bulk_ok {tokens : List Address}
    (updated : tokens.foldlM (fun bank token => do
      let symbol ← BridgeBank.symbolOf world token
      pure ((bank.setTokenInEthWhiteList token true).setLowerToUpper symbol)) bank =
        (.ok next : Revertible BridgeBank)) :
    next.lowerToUpperTokens = record bank.lowerToUpperTokens (tokens.filterMap world.symbol) ∧
      next.lockedTokenList = bank.lockedTokenList ∧
      depositsOf next.events = depositsOf bank.events := by
  induction tokens generalizing bank with
  | nil =>
    cases updated
    exact ⟨rfl, rfl, rfl⟩
  | cons token rest ih =>
    simp only [List.foldlM_cons, Result.bind_ok, Result.pure_ok, symbolOf_ok] at updated
    obtain ⟨_, ⟨symbol, named, rfl⟩, later⟩ := updated
    obtain ⟨spellings, locked, deposits⟩ := ih later
    rw [List.filterMap_cons, named]
    refine ⟨spellings, locked, deposits.trans ?_⟩
    exact setTokenInEthWhiteList_deposits token true

/-- What the calls of accounts do to symbols. -/
theorem account_effect {sender : Address} {action : BankAction}
    (executed : bank.call world sender action = .ok next) :
    SymbolEffect ⟨sender, world, .account action⟩ bank next := by
  cases action with
  | updateEthWhiteList token inList =>
    simp only [BridgeBank.call, BridgeBank.updateEthWhiteList, Result.bind_ok, symbolOf_ok] at executed
    obtain ⟨-, -, symbol, named, checked⟩ := executed
    have updated : next = (bank.setLowerToUpper symbol).setTokenInEthWhiteList token inList := by
      split at checked
      all_goals
        simp only [Result.bind_ok, Result.pure_ok] at checked
        exact checked.choose_spec.2.symm
    rw [updated]
    refine .recorded [symbol] ?_ rfl rfl (setTokenInEthWhiteList_deposits token inList)
    simp [recordedBy, named]
  | bulkWhitelistUpdateLimits tokens =>
    simp only [BridgeBank.call, BridgeBank.bulkWhitelistUpdateLimits, Result.bind_ok] at executed
    obtain ⟨-, -, updated⟩ := executed
    obtain ⟨spellings, locked, deposits⟩ := bulk_ok updated
    exact .recorded _ (fun _ => id) spellings locked deposits
  | addExistingBridgeToken token =>
    simp only [BridgeBank.call, BridgeBank.addExistingBridgeToken, Result.bind_ok,
      symbolOf_ok] at executed
    obtain ⟨-, -, symbol, named, controlled⟩ := executed
    obtain ⟨spellings, locked, deposits⟩ := controlBridgeToken_ok controlled
    refine .recorded [symbol] ?_ spellings locked
      (deposits.trans (setTokenInCosmosWhiteList_deposits token true))
    simp [recordedBy, named]
  | lock value recipient token amount =>
    simp only [BridgeBank.call, BridgeBank.lock, Result.bind_ok, Result.pure_ok] at executed
    obtain ⟨-, -, -, -, -, -, -, -, symbol, taken, nonce, -, rfl⟩ := executed
    refine .deposited token symbol ?_ rfl rfl ?_
    · unfold BridgeBank.takeDeposit at taken
      by_cases ether : value = 0
      · simp only [ether, ne_eq, not_true_eq_false, if_false, Result.bind_ok, symbolOf_ok] at taken
        obtain ⟨-, -, named⟩ := taken
        simp [depositedBy, ether, named]
      · simp only [ne_eq, ether, not_false_eq_true, if_true, Result.bind_ok, Result.pure_ok] at taken
        obtain ⟨-, -, -, -, rfl⟩ := taken
        exact if_pos ether
    · exact List.filterMap_append
  | burn recipient token amount =>
    simp only [BridgeBank.call, BridgeBank.burn, Result.bind_ok, Result.pure_ok] at executed
    obtain ⟨-, -, -, -, -, -, -, -, -, -, -, -, -, -, rfl⟩ := executed
    exact .quiet rfl rfl (depositsOf_other (by simp))
  | changeOwner newOwner =>
    simp only [BridgeBank.call, BridgeBank.changeOwner, Result.bind_ok, Result.pure_ok] at executed
    obtain ⟨-, -, -, -, rfl⟩ := executed
    exact .quiet rfl rfl rfl
  | changeOperator newOperator =>
    simp only [BridgeBank.call, BridgeBank.changeOperator, Result.bind_ok,
      Result.pure_ok] at executed
    obtain ⟨-, -, -, -, rfl⟩ := executed
    exact .quiet rfl rfl rfl
  | setBlocklist =>
    simp only [BridgeBank.call, BridgeBank.setBlocklist, Result.bind_ok, Result.pure_ok] at executed
    obtain ⟨-, -, rfl⟩ := executed
    exact .quiet rfl rfl rfl
  | addPauser account =>
    simp only [BridgeBank.call, BridgeBank.addPauser, Result.bind_ok, Result.pure_ok] at executed
    obtain ⟨-, -, rfl⟩ := executed
    exact .quiet rfl rfl rfl
  | renouncePauser =>
    cases executed
    exact .quiet rfl rfl rfl
  | pause =>
    simp only [BridgeBank.call, BridgeBank.pause, Result.bind_ok, Result.pure_ok] at executed
    obtain ⟨-, -, -, -, rfl⟩ := executed
    exact .quiet rfl rfl (depositsOf_other (by simp))
  | unpause =>
    simp only [BridgeBank.call, BridgeBank.unpause, Result.bind_ok, Result.pure_ok] at executed
    obtain ⟨-, -, -, -, rfl⟩ := executed
    exact .quiet rfl rfl (depositsOf_other (by simp))

/-- An unlock that returns has paid the token under the recorded spelling. -/
theorem unlock_ok {sender recipient : Address} {symbol : Bytes} {amount : Word}
    (unlocked : bank.unlock keccak256 world sender recipient symbol amount = .ok next) :
    let spelling := bank.safeLowerToUpperTokens keccak256 symbol
    next = { bank with events := bank.events ++
      [.logUnlock recipient (bank.lockedTokenList spelling) spelling amount] } := by
  simp only [BridgeBank.unlock, BridgeBank.unlockFunds, Result.bind_ok] at unlocked
  obtain ⟨-, -, -, -, -, -, paid⟩ := unlocked
  split at paid
  all_goals
    simp only [Result.bind_ok, Result.pure_ok] at paid
    exact paid.choose_spec.2.symm

/-- What a call does to symbols. -/
theorem executeBank_effect (executed : executeBank keccak256 bank call = .ok next) :
    SymbolEffect call bank next := by
  obtain ⟨sender, world, operation⟩ := call
  cases operation with
  | account action => exact account_effect executed
  | createNewBridgeToken symbol =>
    simp only [executeBank, BridgeBank.createNewBridgeToken, Result.bind_ok, Result.pure_ok] at executed
    obtain ⟨-, -, controlledBank, controlled, rfl⟩ := executed
    obtain ⟨spellings, locked, deposits⟩ := controlBridgeToken_ok controlled
    exact .recorded [symbol] (fun _ => id) spellings locked
      ((setTokenInCosmosWhiteList_deposits _ true).trans deposits)
  | mintBridgeTokens intendedRecipient symbol amount =>
    simp only [executeBank, BridgeBank.mintBridgeTokens, BridgeBank.mintNewBridgeTokens,
      Result.bind_ok, Result.pure_ok] at executed
    obtain ⟨-, -, -, -, -, -, -, -, -, -, rfl⟩ := executed
    exact .quiet rfl rfl (depositsOf_other (by simp))
  | unlock recipient symbol amount =>
    rw [unlock_ok executed]
    exact .quiet rfl rfl (depositsOf_other (by simp))

end Effects

section Deposits

variable {keccak256 : Bytes → Word} {call : BankCall} {bank next : BridgeBank}

/-- A spelling after recording is an earlier one or a recorded one. -/
theorem record_cases (tokens : Bytes → Bytes) (symbols : List Bytes) (key : Bytes) :
    record tokens symbols key = tokens key ∨
      ∃ symbol ∈ symbols, toLower symbol = key ∧ record tokens symbols key = symbol := by
  induction symbols generalizing tokens with
  | nil => exact .inl rfl
  | cons symbol rest ih =>
    rcases ih (write tokens (toLower symbol) symbol) with kept | ⟨later, member, lower, recorded⟩
    · by_cases own : key = toLower symbol
      · refine .inr ⟨symbol, List.mem_cons_self, own.symm, kept.trans ?_⟩
        rw [own, write_same]
      · exact .inl (kept.trans (write_other _ _ own))
    · exact .inr ⟨later, List.mem_cons_of_mem _ member, lower, recorded⟩

/-- Both tables lead from the lower case of each deposit's symbol to its token. -/
def Found (keccak256 : Bytes → Word) (bank : BridgeBank) : Prop :=
  ∀ deposit ∈ depositsOf bank.events,
    bank.safeLowerToUpperTokens keccak256 (toLower deposit.2) = deposit.2 ∧
      bank.lockedTokenList deposit.2 = deposit.1

/-- A recorded spelling is found. -/
theorem safe_recorded (noCollision : ∀ text, keccak256 text = keccak256 [] → text = [])
    {symbol : Bytes} (recorded : bank.lowerToUpperTokens (toLower symbol) = symbol) :
    bank.safeLowerToUpperTokens keccak256 (toLower symbol) = symbol := by
  unfold BridgeBank.safeLowerToUpperTokens
  dsimp only
  rw [recorded]
  split
  · next empty =>
    rw [noCollision symbol empty]
    rfl
  · rfl

/-- A tidy call leads from every symbol to its token as before. -/
theorem Found.step (noCollision : ∀ text, keccak256 text = keccak256 [] → text = [])
    (found : Found keccak256 bank) (tidy : Tidy keccak256 bank call)
    (executed : executeBank keccak256 bank call = .ok next) : Found keccak256 next := by
  cases executeBank_effect executed with
  | recorded symbols own spellings locked deposits =>
    intro deposit made
    rw [deposits] at made
    obtain ⟨spelled, token⟩ := found deposit made
    rw [locked]
    refine ⟨?_, token⟩
    rcases record_cases bank.lowerToUpperTokens symbols (toLower deposit.2) with
      kept | ⟨symbol, member, lower, recorded⟩
    · unfold BridgeBank.safeLowerToUpperTokens at spelled ⊢
      rw [spellings, kept]
      exact spelled
    · -- the same lower case was recorded with the deposit's own spelling
      have same := tidy.1 symbol (own symbol member) deposit made lower.symm
      apply safe_recorded noCollision
      rw [spellings, recorded, same]
  | deposited token symbol own spellings locked deposits =>
    obtain ⟨ownSpelling, oneToken⟩ := tidy.2 (token, symbol) own
    have safe : ∀ key, next.safeLowerToUpperTokens keccak256 key =
        bank.safeLowerToUpperTokens keccak256 key := by
      intro key
      unfold BridgeBank.safeLowerToUpperTokens
      rw [spellings]
    intro deposit made
    rw [deposits, List.mem_append, List.mem_singleton] at made
    rw [safe, locked]
    rcases made with earlier | rfl
    · obtain ⟨spelled, held⟩ := found deposit earlier
      refine ⟨spelled, ?_⟩
      by_cases same : deposit.2 = symbol
      · rw [same, write_same]
        exact (oneToken deposit earlier same).symm
      · rw [write_other _ _ same]
        exact held
    · exact ⟨ownSpelling, write_same _ _ _⟩

/-- In a run of tidy calls, an unlock that names the lower case of a symbol under which a deposit
was made pays the token of the deposit. -/
theorem unlock_pays_deposited (keccak256 : Bytes → Word)
    (noCollision : ∀ text, keccak256 text = keccak256 [] → text = []) (start : BridgeBank)
    (nothing : depositsOf start.events = []) (calls : List BankCall)
    (tidy : Meets (executeBank keccak256) (Tidy keccak256) start calls) :
    ∀ transition ∈ transitions (executeBank keccak256) start calls,
      ∀ recipient amount token symbol next,
        transition.message.operation = .unlock recipient (toLower symbol) amount →
        (token, symbol) ∈ depositsOf transition.before.events →
        executeBank keccak256 transition.before transition.message = .ok next →
        next.events = transition.before.events ++ [.logUnlock recipient token symbol amount] := by
  have begins : Found keccak256 start := by
    intro deposit made
    rw [nothing] at made
    cases made
  intro transition member recipient amount token symbol next unlocks deposited executed
  obtain ⟨found, -, -⟩ := transitions_meets (fun bank call found allowed => by
    rcases @attempt_cases _ _ _ (executeBank keccak256) bank call with same | ⟨next, stepped, same⟩
    · rw [same]
      exact found
    · rw [same]
      exact found.step noCollision allowed stepped) begins tidy transition member
  obtain ⟨spelled, held⟩ := found (token, symbol) deposited
  have paid : transition.before.unlock keccak256 transition.message.world transition.message.sender
      recipient (toLower symbol) amount = .ok next := by
    unfold executeBank at executed
    rw [unlocks] at executed
    exact executed
  rw [unlock_ok paid]
  dsimp only
  rw [spelled, held]

end Deposits

section Sample

/-- Two tokens. -/
def firstToken : Address := 0x1111111111111111111111111111111111111111

/-- The address of another token. -/
def secondToken : Address := 0x2222222222222222222222222222222222222222

/-- Every contract is willing, and the two tokens have symbols. -/
def tokenWorld (first second : String) : World :=
  { willingWorld with
    symbol := fun token => some (ascii (if token = firstToken then first else second)) }

/-- The hashes of the spellings used here. -/
def spellingHash (text : Bytes) : Word :=
  if text = [] then 0xc5d2460186f7233c927e7db2dcc703c0e500b653ca82273b7bfad8045d85a470
  else if text = ascii "USDT" then
    0x8b1a1d9c2b109e527c9134b25b1a1833b16b6594f92daa9f6d9b7a6024bce9d0
  else if text = ascii "usdt" then
    0xca41b004d4133d516f2302a6a68d02d659739ecd39c702e354f6b4f4df7b8787
  else if text = ascii "DAI" then
    0xa5e92f3efb6826155f1f728e162af9d7cda33a574a1153b58f03ea01cc37e568
  else 0

/-- The sample hash has no other text under the hash of the empty one. -/
theorem spellingHash_empty (text : Bytes) (same : spellingHash text = spellingHash []) :
    text = [] := by
  by_contra some_
  unfold spellingHash at same
  rw [if_neg some_, if_pos rfl] at same
  split_ifs at same <;> cases same

/-- A call of the bank's operator. -/
def byOperator (world : World) (action : BankAction) : BankCall :=
  ⟨operatorAddress, world, .account action⟩

/-- An account locks a hundred of a token. -/
def lockBy (world : World) (token : Address) : BankCall :=
  ⟨0x3333333333333333333333333333333333333333, world,
    .account (.lock 0 (ascii "sif1qyqszqgpqyqszqgpqyqszqgpqyqszqgphwwgzh") token 100)⟩

/-- The bridge unlocks forty. -/
def unlockBy (world : World) (symbol : String) : BankCall :=
  ⟨bridgeAddress, world,
    .unlock 0x3333333333333333333333333333333333333333 (ascii symbol) 40⟩

/-- What unlocks have paid. -/
def paidTokens (events : List BankEvent) : List Address :=
  events.filterMap fun event =>
    match event with
    | .logUnlock _ token _ _ => some token
    | _ => none

end Sample

/-- A token is whitelisted and locked, another one with another symbol too, and the first is paid. -/
theorem locked_token_paid :
    let world := tokenWorld "USDT" "DAI"
    let calls := [byOperator world (.updateEthWhiteList firstToken true), lockBy world firstToken,
      byOperator world (.updateEthWhiteList secondToken true), lockBy world secondToken,
      unlockBy world "usdt"]
    let bank := run (executeBank spellingHash) deployedSystem.bank (calls.take 4)
    ∃ next, executeBank spellingHash bank (unlockBy world "usdt") = .ok next ∧
      next.events = bank.events ++ [.logUnlock 0x3333333333333333333333333333333333333333
        firstToken (ascii "USDT") 40] := by
  intro world calls bank
  have accepted : (executeBank spellingHash bank (unlockBy world "usdt")).isOk = true := by
    decide +kernel
  obtain ⟨next, executed⟩ := Result.exists_of_isOk accepted
  have member : (⟨bank, unlockBy world "usdt", attempt (executeBank spellingHash) bank
      (unlockBy world "usdt")⟩ : Transition BridgeBank BankCall) ∈
      transitions (executeBank spellingHash) deployedSystem.bank calls := by
    simp only [calls, transitions, List.mem_cons]
    exact .inr (.inr (.inr (.inr (.inl rfl))))
  exact ⟨next, executed, unlock_pays_deposited spellingHash spellingHash_empty deployedSystem.bank
    (by decide +kernel) calls (by decide +kernel) _ member _ _ firstToken (ascii "USDT") next rfl
    (by decide +kernel) executed⟩

/-- Two tokens of one symbol are whitelisted before the first is locked, and the second one is paid
for the first. A token that spells the symbol of a locked one in lower case makes the unlock pay
ether. -/
theorem other_asset_paid :
    let same := tokenWorld "USDT" "USDT"
    let cased := tokenWorld "USDT" "usdt"
    let twice := run (executeBank spellingHash) deployedSystem.bank
      [byOperator same (.updateEthWhiteList firstToken true),
        byOperator same (.updateEthWhiteList secondToken true),
        lockBy same firstToken, lockBy same secondToken, unlockBy same "usdt"]
    let respelled := run (executeBank spellingHash) deployedSystem.bank
      [byOperator cased (.updateEthWhiteList firstToken true), lockBy cased firstToken,
        byOperator cased (.updateEthWhiteList secondToken true), unlockBy cased "usdt"]
    (depositsOf twice.events = [(firstToken, ascii "USDT"), (secondToken, ascii "USDT")] ∧
        paidTokens twice.events = [secondToken]) ∧
      depositsOf respelled.events = [(firstToken, ascii "USDT")] ∧
      paidTokens respelled.events = [0] := by
  decide +kernel

end Akhira.Verif.Contracts
