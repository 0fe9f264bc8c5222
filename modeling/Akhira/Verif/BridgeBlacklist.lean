import Akhira.EthBridge.BridgeStore
import Akhira.Verif.BridgeMint

/-!
# The blacklist of the bridge

A blacklist that is set replaces the one before, except that the empty text once listed is never
taken off. It is a list of texts: an address is blocked in the spellings that are listed and in no
other.
-/
namespace Akhira.Verif.EthBridge

open Akhira.Base Akhira.Base.Result Akhira.Sdk Akhira.EthBridge

section Keys

/-- A key is the byte of the black list followed by the address. -/
theorem blacklistKey_toList (address : String) :
    (blacklistKey address).toList = '\x02' :: address.toList := by
  unfold blacklistKey
  rw [String.toList_append]
  rfl

/-- The address is read back from its key. -/
theorem addressOf_blacklistKey (address : String) :
    BridgeStore.addressOf (blacklistKey address) = address := by
  unfold BridgeStore.addressOf
  rw [blacklistKey_toList, List.drop_one, List.tail_cons, String.ofList_toList]

/-- Different addresses have different keys. -/
theorem blacklistKey_injective : Function.Injective blacklistKey :=
  Function.LeftInverse.injective addressOf_blacklistKey

/-- No address has one of the two keys of the store that are not of the black list. -/
theorem blacklistKey_ne (address : String) :
    peggyTokenKey ≠ blacklistKey address ∧ cethReceiverAccountKey ≠ blacklistKey address := by
  constructor <;>
  · intro same
    have heads := congrArg (fun key => key.toList.head?) same
    rw [blacklistKey_toList] at heads
    cases heads

/-- The scan begins at the first key of the blacklist. -/
theorem blacklistKey_scanned (address : String) : blacklistKey "" ≤ blacklistKey address := by
  rw [String.le_iff_toList_le, blacklistKey_toList, blacklistKey_toList]
  exact List.cons_le_cons _ (not_lt.mp (List.not_lt_nil _))

/-- The scan over the black list starts after the other two keys. -/
theorem otherKeys_unscanned :
    ¬ blacklistKey "" ≤ peggyTokenKey ∧ ¬ blacklistKey "" ≤ cethReceiverAccountKey := by
  decide

/-- Only the empty address has a key of one character, which the scan for removals leaves out. -/
theorem length_blacklistKey (address : String) :
    1 < (blacklistKey address).length ↔ address ≠ "" := by
  rw [← String.length_toList, blacklistKey_toList, List.length_cons, String.length_toList]
  rw [ne_eq, ← String.length_eq_zero_iff]
  omega

end Keys

section Replacing

variable {chain : Chain} {store next : BridgeStore} {registryAdmin : AccAddress → Bool}
  {msg : MsgSetBlacklist}

/-- Every key is one of the two of one byte or a key of the blacklist. -/
def Keyed (store : BridgeStore) : Prop :=
  store.kv.All fun key _ => key = peggyTokenKey ∨ key = cethReceiverAccountKey ∨
    ∃ address, key = blacklistKey address

/-- The scan meets the keys of the blacklist and no others. -/
theorem mem_scanBlacklist (keyed : Keyed store) {key : String} :
    key ∈ store.scanBlacklist ↔
      ∃ address, key = blacklistKey address ∧ store.isBlacklisted address = true := by
  unfold BridgeStore.scanBlacklist
  rw [List.mem_filter, Store.mem_keys, decide_eq_true_eq]
  constructor
  · rintro ⟨held, scanned⟩
    obtain ⟨value, found⟩ := Option.isSome_iff_exists.mp held
    rcases keyed key value found with rfl | rfl | ⟨address, rfl⟩
    · exact absurd scanned otherKeys_unscanned.1
    · exact absurd scanned otherKeys_unscanned.2
    · exact ⟨address, rfl, held⟩
  · rintro ⟨address, rfl, listed⟩
    exact ⟨listed, blacklistKey_scanned address⟩

/-- An update removes what is listed and not asked for, but for the empty address. -/
theorem mem_removals (keyed : Keyed store) {addresses : List String} {address : String} :
    address ∈ store.removals addresses ↔
      (store.isBlacklisted address = true ∧ address ≠ "") ∧ address ∉ addresses := by
  unfold BridgeStore.removals
  rw [List.mem_filter, decide_eq_true_eq]
  apply and_congr_left'
  rw [List.mem_map]
  constructor
  · rintro ⟨key, member, rfl⟩
    obtain ⟨scanned, long⟩ := List.mem_filter.mp member
    obtain ⟨address, rfl, listed⟩ := (mem_scanBlacklist keyed).mp scanned
    rw [addressOf_blacklistKey]
    exact ⟨listed, (length_blacklistKey address).mp (of_decide_eq_true long)⟩
  · rintro ⟨listed, some⟩
    refine ⟨blacklistKey address, List.mem_filter.mpr ⟨?_, ?_⟩, addressOf_blacklistKey address⟩
    · exact (mem_scanBlacklist keyed).mpr ⟨address, rfl, listed⟩
    · exact decide_eq_true ((length_blacklistKey address).mpr some)

/-- The black list that is returned has exactly the blocked addresses. -/
theorem mem_getBlacklist (keyed : Keyed store) {address : String} :
    address ∈ store.getBlacklist ↔ store.isBlacklisted address = true := by
  unfold BridgeStore.getBlacklist
  rw [List.mem_map]
  constructor
  · rintro ⟨key, scanned, rfl⟩
    obtain ⟨address, rfl, listed⟩ := (mem_scanBlacklist keyed).mp scanned
    rwa [addressOf_blacklistKey]
  · intro listed
    exact ⟨_, (mem_scanBlacklist keyed).mpr ⟨address, rfl, listed⟩, addressOf_blacklistKey address⟩

/-- The black list that is returned has no address twice. -/
theorem getBlacklist_nodup (keyed : Keyed store) : store.getBlacklist.Nodup := by
  apply List.Nodup.map_on _ (store.kv.keys_nodup.filter _)
  intro left leftScanned right rightScanned same
  obtain ⟨first, rfl, -⟩ := (mem_scanBlacklist keyed).mp leftScanned
  obtain ⟨second, rfl, -⟩ := (mem_scanBlacklist keyed).mp rightScanned
  rw [addressOf_blacklistKey, addressOf_blacklistKey] at same
  rw [same]

/-- The keys after a replacement. -/
theorem setBlacklist_get (set : store.setBlacklist chain registryAdmin msg = .ok next)
    (key : String) :
    next.kv.get key = if key ∈ msg.addresses.map blacklistKey then some .mark
      else if key ∈ (store.removals msg.addresses).map blacklistKey then none
      else store.kv.get key := by
  simp only [BridgeStore.setBlacklist, Result.bind_ok, Result.pure_ok] at set
  obtain ⟨sender, -, -, -, rfl⟩ := set
  rw [Store.get_foldl_set, Store.get_foldl_delete]

/-- What is listed after a replacement: the new texts, and the empty one if it was listed. -/
theorem setBlacklist_isBlacklisted (keyed : Keyed store)
    (set : store.setBlacklist chain registryAdmin msg = .ok next) (address : String) :
    next.isBlacklisted address = true ↔
      address ∈ msg.addresses ∨ address = "" ∧ store.isBlacklisted "" = true := by
  have value := setBlacklist_get set (blacklistKey address)
  simp only [List.mem_map_of_injective blacklistKey_injective, mem_removals keyed,
    BridgeStore.isBlacklisted, Store.has] at value
  unfold BridgeStore.isBlacklisted Store.has
  rw [value]
  by_cases added : address ∈ msg.addresses
  · simp [added]
  · by_cases empty : address = ""
    · subst empty
      simp [added]
    · by_cases listed : (store.kv.get (blacklistKey address)).isSome = true
      · simp [added, empty, listed]
      · simp [added, empty, listed]

/-- An update leaves all other keys of the store alone. -/
theorem setBlacklist_frame (set : store.setBlacklist chain registryAdmin msg = .ok next) {key : String}
    (other : ∀ address, key ≠ blacklistKey address) : next.kv.get key = store.kv.get key := by
  have absent : ∀ addresses : List String, key ∉ addresses.map blacklistKey := by
    intro addresses member
    obtain ⟨address, -, same⟩ := List.mem_map.mp member
    exact other address same.symm
  rw [setBlacklist_get set, if_neg (absent _), if_neg (absent _)]

/-- An update keeps every stored address under its own key. -/
theorem setBlacklist_keyed (keyed : Keyed store)
    (set : store.setBlacklist chain registryAdmin msg = .ok next) : Keyed next := by
  simp only [BridgeStore.setBlacklist, Result.bind_ok, Result.pure_ok] at set
  obtain ⟨sender, -, -, -, rfl⟩ := set
  apply List.foldlRecOn (motive := fun kv => Keyed ⟨kv⟩)
  · apply List.foldlRecOn (motive := fun kv => Keyed ⟨kv⟩)
    · exact keyed
    · intro kv held address _
      exact Store.All.delete held _
  · intro kv held address _
    exact Store.All.set held (.inr (.inr ⟨address, rfl⟩))

/-- Every write keeps every stored address under its own key. -/
theorem write_keyed {write : Write} (keyed : Keyed store)
    (written : store.write chain write = .ok next) : Keyed next := by
  cases write with
  | addPeggyToken token =>
    cases written
    unfold BridgeStore.addPeggyToken
    split
    · exact keyed
    · exact Store.All.set keyed (.inl rfl)
  | setCethReceiverAccount account =>
    cases written
    exact Store.All.set keyed (.inr (.inl rfl))
  | setBlacklist registryAdmin msg => exact setBlacklist_keyed keyed written

/-- From an empty store on, every stored address is under its own key. -/
theorem run_keyed (chain : Chain) (writes : List Write) :
    Keyed (run (BridgeStore.write chain) .empty writes) := by
  have start : Keyed .empty := Store.All.empty
  apply run_invariant _ start (meets_of_forall (fun _ _ => trivial) _ writes)
  intro store write next keyed (_ : True) written
  exact write_keyed keyed written

/-- The message is from the administrator of the token registry. -/
def fromAdmin (chain : Chain) (registryAdmin : AccAddress → Bool) (msg : MsgSetBlacklist) : Bool :=
  match chain.accAddressFromBech32 msg.sender with
  | some sender => registryAdmin sender
  | none => false

/-- An update succeeds exactly when the administrator of the registry sends it. -/
theorem setBlacklist_admin (chain : Chain) (registryAdmin : AccAddress → Bool) (store : BridgeStore)
    (msg : MsgSetBlacklist) :
    (∃ next, store.setBlacklist chain registryAdmin msg = .ok next) ↔
      fromAdmin chain registryAdmin msg = true := by
  simp only [BridgeStore.setBlacklist, Chain.decode, Result.bind_ok, Outcome.present_ok,
    Outcome.require_ok, Result.pure_ok, fromAdmin]
  cases decoded : chain.accAddressFromBech32 msg.sender with
  | none => simp
  | some sender => simp

/-- The blacklist has exactly these texts. -/
structure Lists (store : BridgeStore) (addresses : List String) : Prop where
  blacklisted : ∀ address, store.isBlacklisted address = true ↔ address ∈ addresses
  members : ∀ address, address ∈ store.getBlacklist ↔ address ∈ addresses
  nodup : store.getBlacklist.Nodup

/-- In every store the module reaches, the administrator replaces the blacklist and nothing else,
and the new list is exact unless the empty text was listed and is not now. Nobody else changes
anything. -/
theorem blacklist_replaced (chain : Chain) (writes : List Write) (registryAdmin : AccAddress → Bool)
    (msg : MsgSetBlacklist) :
    let store := run (BridgeStore.write chain) .empty writes
    let next := attempt (BridgeStore.write chain) store (.setBlacklist registryAdmin msg)
    next.getPeggyToken = store.getPeggyToken ∧ next.cethReceiverText = store.cethReceiverText ∧
      (fromAdmin chain registryAdmin msg = true → (Lists next msg.addresses ↔
        (store.isBlacklisted "" = true → "" ∈ msg.addresses))) ∧
      (fromAdmin chain registryAdmin msg = false → next = store) := by
  intro store next
  have keyed : Keyed store := run_keyed chain writes
  by_cases admin : fromAdmin chain registryAdmin msg = true
  · obtain ⟨after, set⟩ := (setBlacklist_admin chain registryAdmin store msg).mpr admin
    have same : next = after := attempt_ok set
    have afterKeyed := setBlacklist_keyed keyed set
    rw [same]
    refine ⟨?_, ?_, fun _ => ?_, fun other => ?_⟩
    · unfold BridgeStore.getPeggyToken
      rw [setBlacklist_frame set fun address => (blacklistKey_ne address).1]
    · unfold BridgeStore.cethReceiverText
      rw [setBlacklist_frame set fun address => (blacklistKey_ne address).2]
    · have listed := setBlacklist_isBlacklisted keyed set
      constructor
      · intro exactly was
        exact (exactly.blacklisted "").mp ((listed "").mpr (.inr ⟨rfl, was⟩))
      · intro taken
        have blacklisted : ∀ address, after.isBlacklisted address = true ↔
            address ∈ msg.addresses := by
          intro address
          rw [listed address, or_iff_left_iff_imp]
          rintro ⟨rfl, was⟩
          exact taken was
        refine ⟨blacklisted, fun address => ?_, getBlacklist_nodup afterKeyed⟩
        rw [mem_getBlacklist afterKeyed, blacklisted]
    · rw [admin] at other
      cases other
  · have refused : next = store := by
      rcases attempt_cases store (Write.setBlacklist registryAdmin msg) with same | ⟨after, set, -⟩
      · exact same
      · exact absurd ((setBlacklist_admin chain registryAdmin store msg).mp ⟨after, set⟩) admin
    rw [refused]
    exact ⟨rfl, rfl, fun sent => absurd sent admin, fun _ => rfl⟩

/-- The empty text is listed and stays listed when nothing is. -/
theorem empty_text_stays :
    let set (addresses : List String) : Write :=
      .setBlacklist (fun address => address = aliceAddress) ⟨aliceText, addresses⟩
    let store := run (BridgeStore.write bridgeChain) .empty [set [""], set []]
    store.isBlacklisted "" = true ∧ store.getBlacklist = [""] := by
  decide +kernel

end Replacing

section Refinement

variable {env : Environment} {context : Context} {store next : BridgeStore} {state : State}

/-- The store holds what the keeper's state says. -/
structure Represents (store : BridgeStore) (state : State) : Prop where
  keyed : Keyed store
  tokens : store.getPeggyToken = state.peggyTokens
  receiver : store.cethReceiverText = state.cethReceiverAccount
  listed : ∀ address, store.isBlacklisted address = state.isBlacklisted address

/-- Adding a token is the same on the store as on the state. -/
theorem addPeggyToken_represents (represents : Represents store state) (token : String) :
    Represents (store.addPeggyToken token) (state.addPeggyToken token) := by
  unfold BridgeStore.addPeggyToken State.addPeggyToken State.existsPeggyToken
  rw [← represents.tokens]
  by_cases known : (store.getPeggyToken.any fun value => value = token) = true
  · rw [if_pos known, if_pos known]
    exact represents
  · rw [if_neg known, if_neg known]
    refine ⟨Store.All.set represents.keyed (.inl rfl), ?_, ?_, fun address => ?_⟩
    · simp [BridgeStore.getPeggyToken]
    · rw [← represents.receiver]
      unfold BridgeStore.cethReceiverText
      rw [Store.get_set_other _ _ (by decide)]
    · show _ = state.isBlacklisted address
      rw [← represents.listed address]
      unfold BridgeStore.isBlacklisted Store.has
      rw [Store.get_set_other _ _ (blacklistKey_ne address).1.symm]

/-- Setting the fee receiver is the same on the store as on the state. -/
theorem setCethReceiverAccount_represents (represents : Represents store state)
    (account : AccAddress) :
    Represents (store.setCethReceiverAccount env.chain account)
      { state with cethReceiverAccount := env.chain.accAddressText account } := by
  unfold BridgeStore.setCethReceiverAccount
  refine ⟨Store.All.set represents.keyed (.inr (.inl rfl)), ?_, ?_, fun address => ?_⟩
  · rw [← represents.tokens]
    unfold BridgeStore.getPeggyToken
    rw [Store.get_set_other _ _ (by decide)]
  · simp [BridgeStore.cethReceiverText]
  · show _ = state.isBlacklisted address
    rw [← represents.listed address]
    unfold BridgeStore.isBlacklisted Store.has
    rw [Store.get_set_other _ _ (blacklistKey_ne address).2.symm]

/-- An update of the black list is the same on the store as on the state. -/
theorem setBlacklist_represents {msg : MsgSetBlacklist} (represents : Represents store state)
    (set : store.setBlacklist env.chain context.registryAdmin msg = .ok next) :
    ∃ after, setBlacklist env context state msg = .ok after ∧ Represents next after := by
  have listed := setBlacklist_isBlacklisted represents.keyed set
  have keyed := setBlacklist_keyed represents.keyed set
  have tokens := setBlacklist_frame set fun address => (blacklistKey_ne address).1
  have receiver := setBlacklist_frame set fun address => (blacklistKey_ne address).2
  simp only [BridgeStore.setBlacklist, Result.bind_ok, Outcome.require_ok] at set
  obtain ⟨sender, decoded, -, admin, -⟩ := set
  refine ⟨{ state with blacklist := (state.blacklist.filter fun address =>
    address = "" ∨ address ∈ msg.addresses) ++ msg.addresses }, ?_, keyed, ?_, ?_, fun address => ?_⟩
  · simp only [setBlacklist, Result.bind_ok, Outcome.require_ok, Result.pure_ok]
    exact ⟨sender, decoded, (), admin, trivial⟩
  · rw [BridgeStore.getPeggyToken, tokens]
    exact represents.tokens
  · rw [BridgeStore.cethReceiverText, receiver]
    exact represents.receiver
  · rw [Bool.eq_iff_iff, listed, represents.listed]
    simp only [State.isBlacklisted, List.any_append, Bool.or_eq_true, List.any_eq_true,
      List.mem_filter, decide_eq_true_eq, exists_eq_right]
    constructor
    · rintro (added | ⟨rfl, was⟩)
      · exact .inr added
      · exact .inl ⟨was, .inl rfl⟩
    · rintro (⟨was, rfl | added⟩ | added)
      · exact .inr ⟨rfl, was⟩
      · exact .inl added
      · exact .inl added

end Refinement

section Spellings

/-- A panic, or an error of the SDK. -/
def OfSdk (fault : Fault) : Prop := ∀ error, fault = .error error → error.codespace = "sdk"

/-- A panic is not an error of the bridge. -/
theorem ofSdk_crash {α : Type} {reason : String} : Blames OfSdk (Outcome.crash reason : Outcome α) := by
  apply Blames.error
  intro error same
  cases same

/-- An error of the SDK is not an error of the bridge. -/
theorem ofSdk_fail {α : Type} {error : SdkError} (own : error.codespace = "sdk") :
    Blames OfSdk (Outcome.fail error : Outcome α) := by
  apply Blames.error
  intro other same
  cases same
  exact own

/-- A check with an error of the SDK is not to blame on the bridge. -/
theorem ofSdk_require {condition : Prop} [Decidable condition] {error : SdkError}
    (own : error.codespace = "sdk") : Blames OfSdk (Outcome.require condition error) := by
  apply Outcome.blames_require
  intro _ other same
  cases same
  exact own

/-- Making coins fails with errors of the SDK only. -/
theorem coinsOf_faults (amounts : List (Denom × SInt)) : Blames OfSdk (coinsOf amounts) := by
  unfold coinsOf
  apply Blames.bind
  · apply Blames.mapM
    intro entry _
    unfold Coin.newCoin
    split
    · split
      · exact Blames.ok
      · exact ofSdk_crash
    · exact ofSdk_crash
  · intro coins _
    unfold Coins.newCoins
    dsimp only
    split
    · exact Blames.ok
    · exact ofSdk_crash

/-- A debit fails with errors of the SDK only. -/
theorem subUnlockedCoins_faults (locked : Locked) (ledger : Ledger) (address : AccAddress)
    (coins : Coins) : Blames OfSdk (ledger.subUnlockedCoins locked address coins) := by
  unfold Ledger.subUnlockedCoins
  apply Blames.bind (ofSdk_require rfl)
  intro _ _
  apply Blames.foldlM
  intro ledger coin _
  unfold Ledger.subCoin
  dsimp only
  split
  · exact ofSdk_crash
  · split
    · exact ofSdk_fail rfl
    · exact Blames.ok

/-- A send fails with errors of the SDK only. -/
theorem sendCoins_faults (locked : Locked) (bank : Bank) (sender recipient : AccAddress)
    (coins : Coins) : Blames OfSdk (bank.sendCoins locked sender recipient coins) := by
  unfold Bank.sendCoins Ledger.sendCoins
  apply Blames.bind
  · apply Blames.bind (subUnlockedCoins_faults locked bank.ledger sender coins)
    intro debited _
    unfold Ledger.addCoins
    apply Blames.bind (ofSdk_require rfl)
    intro _ _
    apply Blames.foldlM
    intro ledger coin _
    unfold Ledger.addCoin
    dsimp only
    split
    · exact Blames.ok
    · exact ofSdk_crash
  · intro ledger _
    exact Blames.pure

/-- Burning coins fails with errors of the SDK only. -/
theorem burnCoins_faults (chain : Chain) (locked : Locked) (bank : Bank) (name : String)
    (coins : Coins) : Blames OfSdk (bank.burnCoins chain locked name coins) := by
  unfold Bank.burnCoins
  apply Blames.bind (subUnlockedCoins_faults locked bank.ledger _ coins)
  intro ledger _
  apply Blames.foldlM
  intro bank coin _
  unfold Bank.lowerSupply
  split
  · exact Blames.ok
  · exact ofSdk_crash

/-- Paying the fee fails with errors of the SDK only, if making its coins does. -/
theorem payCeth_faults {env : Environment} {locked : Locked} {state : State} {sender : AccAddress}
    {cethAmount : SInt} {withReceiver withoutReceiver : Outcome Coins}
    (first : Blames OfSdk withReceiver) (second : Blames OfSdk withoutReceiver) :
    Blames OfSdk (payCeth env locked state sender cethAmount withReceiver withoutReceiver) := by
  unfold payCeth
  apply Blames.bind
  · split
    · apply Blames.bind (coinsOf_faults _)
      intro fee _
      apply Blames.bind (sendCoins_faults locked state.bank sender _ fee)
      intro bank _
      apply Blames.bind first
      intro coins _
      exact Blames.pure
    · apply Blames.bind second
      intro coins _
      exact Blames.pure
  · intro paid _
    exact sendCoins_faults locked paid.1 sender (env.chain.moduleAddress moduleName) paid.2

/-- What follows the check of the receiver returns errors of the SDK only. -/
theorem processLock_faults {env : Environment} {locked : Locked} {state : State}
    {sender : AccAddress} {msg : MsgLock} (free : state.isBlacklisted msg.ethereumReceiver = false) :
    Blames OfSdk (processLock env locked state sender msg) := by
  unfold processLock
  rw [free, Outcome.require, if_pos rfl]
  apply Blames.bind (payCeth_faults (coinsOf_faults _) (coinsOf_faults _))
  intro bank _
  apply Blames.bind (coinsOf_faults _)
  intro coins _
  apply Blames.bind (burnCoins_faults env.chain locked bank moduleName coins)
  intro burned _
  exact Blames.pure

/-- A burn to an address that is not blocked fails with errors of the SDK only. -/
theorem processBurn_faults {env : Environment} {locked : Locked} {state : State}
    {sender : AccAddress} {msg : MsgBurn} (free : state.isBlacklisted msg.ethereumReceiver = false) :
    Blames OfSdk (processBurn env locked state sender msg) := by
  have sum : Blames OfSdk (if msg.symbol = cethSymbol then do
      let sum ← msg.cethAmount.add msg.amount
      coinsOf [(cethSymbol, sum)]
    else coinsOf [(msg.symbol, msg.amount), (cethSymbol, msg.cethAmount)]) := by
    split
    · apply Blames.bind
      · apply Outcome.blames_present
        intro _ error same
        cases same
      · intro sum _
        exact coinsOf_faults _
    · exact coinsOf_faults _
  unfold processBurn
  rw [free, Outcome.require, if_pos rfl]
  apply Blames.bind (payCeth_faults (coinsOf_faults _) sum)
  intro bank _
  apply Blames.bind (coinsOf_faults _)
  intro coins _
  apply Blames.bind (burnCoins_faults env.chain locked bank moduleName coins)
  intro burned _
  exact Blames.pure

/-- An error of the SDK is not the error for a blocked address. -/
theorem ofSdk_foreign {call : Outcome State} (blames : Blames OfSdk call) :
    call ≠ .error (.error errInvalidEthAddress) := by
  intro failed
  have own := blames _ failed _ rfl
  revert own
  decide

variable (env : Environment) (locked : Locked) (state : State) (sender : AccAddress)

/-- A lock is refused for its receiver exactly when that is blocked. -/
theorem processLock_refused (msg : MsgLock) :
    processLock env locked state sender msg = .error (.error errInvalidEthAddress) ↔
      state.isBlacklisted msg.ethereumReceiver = true := by
  constructor
  · intro refused
    by_contra free
    exact ofSdk_foreign (processLock_faults (eq_false_of_ne_true free)) refused
  · intro listed
    rw [processLock, listed]
    rfl

/-- A burn is refused for its receiver exactly when that is blocked. -/
theorem processBurn_refused (msg : MsgBurn) :
    processBurn env locked state sender msg = .error (.error errInvalidEthAddress) ↔
      state.isBlacklisted msg.ethereumReceiver = true := by
  constructor
  · intro refused
    by_contra free
    exact ofSdk_foreign (processBurn_faults (eq_false_of_ne_true free)) refused
  · intro listed
    rw [processBurn, listed]
    rfl

/-- Some lock that is accepted without a look at the stores has a given receiver. -/
theorem lock_to_accepted {spelling : String} (hex : isHexAddress spelling = true) :
    ∃ msg : MsgLock, msg.ethereumReceiver = spelling ∧ msg.validateBasic = .ok () := by
  have some : spelling ≠ "" := by
    rintro rfl
    revert hex
    decide
  refine ⟨⟨"sender", ⟨1, by decide⟩, "symbol", 1, spelling, ⟨lockGasCost, by decide⟩⟩, rfl, ?_⟩
  simp only [MsgLock.validateBasic, requireAddress, Result.bind_ok, Outcome.require_ok]
  exact ⟨(), by decide +kernel, (), by decide, (), some, (), hex, (), by decide, (), le_rfl,
    by decide⟩

/-- A lock or burn is refused for its receiver exactly when the receiver is listed in its spelling;
so an address is blocked exactly when every spelling of it is listed. -/
theorem blacklist_blocks_spellings (address : Contracts.Address) :
    (∀ msg : MsgLock,
      processLock env locked state sender msg = .error (.error errInvalidEthAddress) ↔
        state.isBlacklisted msg.ethereumReceiver = true) ∧
    (∀ msg : MsgBurn,
      processBurn env locked state sender msg = .error (.error errInvalidEthAddress) ↔
        state.isBlacklisted msg.ethereumReceiver = true) ∧
    (((∀ msg : MsgLock, msg.validateBasic = .ok () → hexToAddress msg.ethereumReceiver = address →
        processLock env locked state sender msg = .error (.error errInvalidEthAddress)) ∧
      (∀ msg : MsgBurn, msg.validateBasic = .ok () → hexToAddress msg.ethereumReceiver = address →
        processBurn env locked state sender msg = .error (.error errInvalidEthAddress))) ↔
      ∀ spelling, isHexAddress spelling = true → hexToAddress spelling = address →
        state.isBlacklisted spelling = true) := by
  refine ⟨processLock_refused env locked state sender, processBurn_refused env locked state sender,
    ?_, ?_⟩
  · rintro ⟨locks, -⟩ spelling hex same
    obtain ⟨msg, rfl, valid⟩ := lock_to_accepted hex
    exact (processLock_refused env locked state sender msg).mp (locks msg valid same)
  · intro all
    constructor
    · intro msg valid same
      simp only [MsgLock.validateBasic, Result.bind_ok, Outcome.require_ok] at valid
      obtain ⟨-, -, -, -, -, -, -, hex, -⟩ := valid
      exact (processLock_refused env locked state sender msg).mpr (all _ hex same)
    · intro msg valid same
      simp only [MsgBurn.validateBasic, Result.bind_ok, Outcome.require_ok] at valid
      obtain ⟨-, -, -, -, -, -, -, hex, -⟩ := valid
      exact (processBurn_refused env locked state sender msg).mpr (all _ hex same)

/-- The account owns much of everything. -/
def wealthyState : State :=
  { bridgeState with bank := ⟨⟨fun _ _ => 10 ^ 30⟩, fun _ => 10 ^ 40⟩ }

/-- The administrator of the token registry lists an address in its checksummed spelling. -/
def listChecksummed : Delivery :=
  ⟨{ bridgeContext with registryAdmin := fun address => address = aliceAddress },
    .setBlacklist ⟨aliceText, ["0x52908400098527886E0F7030069857D2E4169EE7"]⟩⟩

/-- A thousand fits an `Int`. -/
theorem thousand_bounded : (1000 : Int).natAbs < 2 ^ 256 := by decide

/-- A lock to a blocked address that is spelled in lower case. -/
def lockToLowerCase : MsgLock :=
  ⟨aliceText, ⟨1000, thousand_bounded⟩, "akh", 1, "0x52908400098527886e0f7030069857d2e4169ee7",
    ⟨lockGasCost, lockGasCost_bounded⟩⟩

/-- A burn to a blocked address that is spelled in lower case. -/
def burnToLowerCase : MsgBurn := { lockToLowerCase with symbol := "cusdt" }

/-- The same address in lower case is accepted, and the coins are burned. -/
theorem lower_case_passes :
    let state := run (deliver bridgeEnvironment) wealthyState [listChecksummed]
    state.isBlacklisted "0x52908400098527886E0F7030069857D2E4169EE7" = true ∧
      hexToAddress lockToLowerCase.ethereumReceiver =
        hexToAddress "0x52908400098527886E0F7030069857D2E4169EE7" ∧
      lockToLowerCase.validateBasic = .ok () ∧ burnToLowerCase.validateBasic = .ok () ∧
      (processLock bridgeEnvironment bridgeContext.locked state aliceAddress lockToLowerCase).map
        (fun next => next.bank.ledger.balance aliceAddress "akh") = .ok (10 ^ 30 - 1000) ∧
      (processBurn bridgeEnvironment bridgeContext.locked state aliceAddress burnToLowerCase).map
        (fun next => next.bank.ledger.balance aliceAddress "cusdt") = .ok (10 ^ 30 - 1000) := by
  decide +kernel

end Spellings

end Akhira.Verif.EthBridge
