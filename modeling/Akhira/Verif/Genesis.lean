import Akhira.Verif.BridgeMint
import Akhira.Verif.ClpGenesis
import Akhira.Verif.DispensationGenesis
import Akhira.Verif.DispensationRecords

/-!
# Genesis round trips

The oracle stores a prophecy again as it was read, and the bridge exports two of the three things it
stores. What the modules answer before an export and after the import is compared for any chain that
was initialised.
-/
namespace Akhira.Verif.Oracle

open Akhira.Base Akhira.Base.Result Akhira.Sdk Akhira.Oracle

/-- Two stores that answer every read alike. -/
structure SameAnswers (codec : ValCodec) (store other : Stored) : Prop where
  whiteList : other.whiteList = store.whiteList
  existsWhiteList : other.existsOracleWhiteList = store.existsOracleWhiteList
  validates : ∀ address, other.validateAddress address = store.validateAddress address
  adminAccount : other.adminAccount = store.adminAccount
  isAdmin : ∀ account, other.isAdminAccount account = store.isAdminAccount account
  prophecy : ∀ id, other.getProphecy codec id = store.getProphecy codec id
  prophecies : other.getProphecies codec = store.getProphecies codec

/-- Exported and imported, the store answers as before. -/
def RoundTrips (chain : Chain) (codec : ValCodec) (store : Stored) : Prop :=
  ∃ data imported, exportGenesis chain codec store = .ok data ∧
    initGenesis chain codec data = .ok imported ∧ SameAnswers codec store imported

/-- A prophecy under its own key that deserializes. -/
def Legible (codec : ValCodec) (key : String) (db : DBProphecy) : Prop :=
  key = prophecyKey db.id ∧ (db.deserializeFromDB codec).isSome = true

/-- The store of a chain that was initialised with a white list and legible prophecies. -/
structure Fit (chain : Chain) (codec : ValCodec) (store : Stored) : Prop where
  prophecies : Store.All (Legible codec) store.prophecies
  admin : store.adminAccount = [] ∨ Readable chain store.adminAccount
  written : store.whiteListSet = true

variable {chain : Chain} {codec : ValCodec} {store next : Stored} {data : GenesisState}

/-- A prophecy as it is stored again. -/
def rewritten (codec : ValCodec) (db : DBProphecy) : DBProphecy :=
  ((db.deserializeFromDB codec).map fun prophecy => prophecy.serializeForDB codec).getD db

/-- A prophecy that is read has the id it was stored with. -/
theorem deserialize_id {db : DBProphecy} {prophecy : Prophecy}
    (read : db.deserializeFromDB codec = some prophecy) : prophecy.id = db.id := by
  simp only [DBProphecy.deserializeFromDB, Option.bind_eq_bind, Option.bind_eq_some_iff,
    Option.pure_def, Option.some.injEq] at read
  obtain ⟨_, -, rfl⟩ := read
  rfl

/-- What is stored again is under the same id and is read alike. -/
theorem rewritten_eq (db : DBProphecy) : (rewritten codec db).id = db.id ∧
    (rewritten codec db).deserializeFromDB codec = db.deserializeFromDB codec := by
  unfold rewritten
  cases read : db.deserializeFromDB codec with
  | none => exact ⟨rfl, read⟩
  | some prophecy =>
    exact ⟨deserialize_id read, deserializeFromDB_serializeForDB codec prophecy⟩

/-- The store of an initialised chain is fit for export. -/
theorem initGenesis_fit (reads : ReadsTexts chain) (given : data.addressWhitelist.isSome = true)
    (legible : ∀ db ∈ data.prophecies, (db.deserializeFromDB codec).isSome = true)
    (initialised : initGenesis chain codec data = .ok store) : Fit chain codec store := by
  simp only [initGenesis, Result.bind_ok, Result.pure_ok] at initialised
  obtain ⟨whiteList, -, adminAccount, admin, rfl⟩ := initialised
  refine ⟨?_, ?_, given⟩
  · exact List.foldlRecOn data.prophecies setDBProphecy Store.All.empty
      fun prophecies all db listed => all.set ⟨rfl, legible db listed⟩
  · split at admin
    · cases admin
      exact .inl rfl
    · exact .inr (reads.readable (Outcome.present_ok.mp admin))

/-- A message keeps the store fit for export. -/
theorem deliverStored_fit {env : Environment} (fit : Fit chain env.codec store)
    {delivery : Delivery} (delivered : deliverStored env store delivery = .ok next) :
    Fit chain env.codec next := by
  simp only [deliverStored, Result.bind_ok, Result.pure_ok] at delivered
  obtain ⟨state, handled, rfl⟩ := delivered
  unfold deliver at handled
  split at handled
  · simp only [processClaim, Result.bind_ok, Outcome.require_ok, Outcome.present_ok,
      Result.pure_ok] at handled
    obtain ⟨_, ⟨-, -, valAddr, -, -, -, -, -, -, -, -, -, -, -, rfl⟩, rfl⟩ := handled
    refine ⟨fit.prophecies.set ⟨rfl, ?_⟩, fit.admin, by rw [fit.written, Bool.true_or]⟩
    rw [deserializeFromDB_serializeForDB]
    rfl
  · simp only [State.processUpdateWhiteListValidator, Result.bind_ok] at handled
    obtain ⟨-, -, updated⟩ := handled
    have same : state.prophecies = store.prophecies ∧ state.adminAccount = store.adminAccount := by
      split at updated
      · cases updated
        exact ⟨rfl, rfl⟩
      · split at updated
        · cases updated
          exact ⟨rfl, rfl⟩
        · cases updated
    refine ⟨?_, ?_, by rw [fit.written, Bool.true_or]⟩
    · exact same.1 ▸ fit.prophecies
    · exact same.2 ▸ fit.admin

/-- Prophecies that all deserialize are listed. -/
theorem getProphecies_ok (legible : Store.All (Legible codec) store.prophecies) :
    ∃ prophecies, store.getProphecies codec = .ok prophecies ∧
      prophecies.map (fun prophecy => prophecy.serializeForDB codec) =
        store.prophecies.values.map (rewritten codec) := by
  have all : ∀ db ∈ store.prophecies.values, (db.deserializeFromDB codec).isSome = true := by
    intro db listed
    obtain ⟨entry, held, rfl⟩ := List.mem_map.mp listed
    exact (legible entry.1 entry.2 (store.prophecies.get_eq_some.mpr held)).2
  unfold Stored.getProphecies
  generalize store.prophecies.values = values at all
  induction values with
  | nil => exact ⟨[], rfl, rfl⟩
  | cons db rest ih =>
    obtain ⟨others, listed, same⟩ := ih fun other later => all other (List.mem_cons_of_mem _ later)
    obtain ⟨prophecy, read⟩ := Option.isSome_iff_exists.mp (all db List.mem_cons_self)
    refine ⟨prophecy :: others, ?_, ?_⟩
    · rw [List.mapM_cons, read, listed]
      rfl
    · rw [List.map_cons, List.map_cons, same, rewritten, read]
      rfl

/-- A fit store round trips, where blank texts are no validators. -/
theorem fit_roundTrips (reads : ReadsTexts chain)
    (blank : ∀ text, isBlank text = true → codec.valAddressFromBech32 text = none)
    (fit : Fit chain codec store) : RoundTrips chain codec store := by
  obtain ⟨prophecies, listed, same⟩ := getProphecies_ok fit.prophecies
  have whiteList : readWhiteList codec (store.whiteList.map codec.text) = .ok store.whiteList := by
    have kept : (store.whiteList.map codec.text).filter (fun entry => isBlank entry = false) =
        store.whiteList.map codec.text := by
      apply List.filter_eq_self.mpr
      intro entry member
      obtain ⟨address, -, rfl⟩ := List.mem_map.mp member
      rw [decide_eq_true_eq]
      by_contra wrong
      have none := blank _ (by simpa using wrong)
      rw [codec.read_text] at none
      cases none
    rw [readWhiteList, kept]
    exact mapM_map_ok fun address _ => Outcome.present_ok.mpr (codec.read_text address)
  have admin : (if isBlank (chain.textOf store.adminAccount) then pure []
      else chain.decodeOrPanic (chain.textOf store.adminAccount) : Outcome AccAddress) =
        .ok store.adminAccount := by
    rcases fit.admin with unset | readable
    · rw [unset]
      rfl
    · rw [reads.not_blank readable]
      exact Outcome.present_ok.mpr readable
  have values : (store.prophecies.mapValues (rewritten codec)).values =
      store.prophecies.values.map (rewritten codec) := by
    simp only [Store.values, Store.mapValues, List.map_map]
    rfl
  have rebuilt : (prophecies.map fun prophecy => prophecy.serializeForDB codec).foldl setDBProphecy
      .empty = store.prophecies.mapValues (rewritten codec) := by
    have own : (store.prophecies.mapValues (rewritten codec)).All fun key db =>
        key = prophecyKey db.id := by
      intro key db found
      rw [Store.get_mapValues, Option.map_eq_some_iff] at found
      obtain ⟨held, stored, rfl⟩ := found
      rw [(rewritten_eq held).1]
      exact (fit.prophecies key held stored).1
    rw [same, ← values]
    exact Store.foldl_set_values _ own
  refine ⟨⟨some (store.whiteList.map codec.text), chain.textOf store.adminAccount,
      prophecies.map fun prophecy => prophecy.serializeForDB codec⟩,
    ⟨⟨store.whiteList, store.adminAccount, store.prophecies.mapValues (rewritten codec)⟩, true⟩,
    ?_, ?_, ?_⟩
  · rw [exportGenesis, listed]
    rfl
  · simp only [initGenesis, Result.bind_ok, Result.pure_ok]
    exact ⟨store.whiteList, whiteList, store.adminAccount, admin, by rw [rebuilt]; rfl⟩
  · refine ⟨rfl, fit.written.symm, ?_, rfl, fun _ => rfl, ?_, ?_⟩
    · intro address
      simp only [Stored.validateAddress, Stored.existsOracleWhiteList, fit.written]
    · intro id
      simp only [State.getProphecy, Store.get_mapValues, Option.bind_eq_bind, Option.bind_map]
      congr 1
      funext db
      exact (rewritten_eq db).2
    · have read : (fun db => Outcome.present (DBProphecy.deserializeFromDB codec db)
          (.panic "decoding bech32 failed")) ∘ rewritten codec =
          fun db => Outcome.present (db.deserializeFromDB codec) (.panic "decoding bech32 failed") :=
        funext fun db => congrArg (Outcome.present · _) (rewritten_eq db).2
      simp only [Stored.getProphecies, values, List.mapM_map, read]

end Akhira.Verif.Oracle

namespace Akhira.Verif

open Akhira.Base Akhira.Sdk

/-- On a chain whose oracle was given a white list and prophecies that deserialize, whatever
happens, the stores of the three modules survive an export and an import. -/
theorem genesis_round_trips (env : Akhira.Clp.Environment) (oracle : Akhira.Oracle.Environment)
    (drops : Akhira.Dispensation.Environment) (reads : ReadsTexts env.toChain)
    (unread : ∀ text, Akhira.Oracle.isBlank text = true →
      oracle.codec.valAddressFromBech32 text = none) (bank : Ledger)
    {clpData : Akhira.Clp.GenesisState} {clp : Akhira.Clp.Module}
    (clpInit : Akhira.Clp.initGenesis env bank clpData = .ok clp)
    {oracleData : Akhira.Oracle.GenesisState} {store : Akhira.Oracle.Stored}
    (oracleInit : Akhira.Oracle.initGenesis env.toChain oracle.codec oracleData = .ok store)
    (given : oracleData.addressWhitelist.isSome = true)
    (legible : ∀ db ∈ oracleData.prophecies, (db.deserializeFromDB oracle.codec).isSome = true)
    {dropData : Akhira.Dispensation.GenesisState} {state : Akhira.Dispensation.State}
    (dropInit : Akhira.Dispensation.initGenesis drops bank dropData = .ok state)
    (clpChanges : List Clp.Change) (deliveries : List Akhira.Oracle.Delivery)
    (dropChanges : List (Dispensation.Change drops)) :
    Clp.RoundTrips env (run (Clp.change env) clp clpChanges) ∧
      Oracle.RoundTrips env.toChain oracle.codec
        (run (Akhira.Oracle.deliverStored oracle) store deliveries) ∧
      Dispensation.RoundTrips drops (run (Dispensation.change drops) state dropChanges) := by
  refine ⟨Clp.fit_roundTrips ?_, Oracle.fit_roundTrips reads unread ?_,
    Dispensation.shelved_roundTrips ?_⟩
  · exact @run_invariant _ _ _ (Clp.change env) (fun _ _ => True) (Clp.Fit env)
      (fun _ _ _ fit _ changed => Clp.change_fit fit changed) _ (Clp.initGenesis_fit reads clpInit) _
      (meets_of_forall (fun _ _ => trivial) _ _)
  · exact @run_invariant _ _ _ (Akhira.Oracle.deliverStored oracle) (fun _ _ => True)
      (Oracle.Fit env.toChain oracle.codec)
      (fun _ _ _ fit _ delivered => Oracle.deliverStored_fit fit delivered) _
      (Oracle.initGenesis_fit reads given legible oracleInit) _
      (meets_of_forall (fun _ _ => trivial) _ _)
  · exact @run_invariant _ _ _ (Dispensation.change drops) (fun _ _ => True) Dispensation.Shelved
      (fun _ _ _ shelved _ changed => Dispensation.change_shelved shelved changed) _
      (Dispensation.initGenesis_shelved dropInit) _ (meets_of_forall (fun _ _ => trivial) _ _)

/-- The sample chain reads the texts it writes. -/
theorem aliceEnvironment_reads : ReadsTexts Clp.aliceEnvironment.toChain := by
  constructor
  · intro text address read
    change (if text = Clp.aliceText ∨ text = Clp.aliceText.toUpper then some Clp.aliceAddress
      else none) = some address at read
    split at read
    · cases read
      decide +kernel
    · cases read
  · intro text blank
    change (if text = Clp.aliceText ∨ text = Clp.aliceText.toUpper then some Clp.aliceAddress
      else none) = none
    have written : ∀ known ∈ [Clp.aliceText, Clp.aliceText.toUpper],
        Akhira.Oracle.isBlank known = false := by
      decide +kernel
    rw [if_neg]
    rintro (rfl | rfl)
    · rw [written _ (by simp)] at blank
      cases blank
    · rw [written _ (by simp)] at blank
      cases blank

/-- The sample codec reads no validator from a blank text. -/
theorem operatorCodec_unread (text : String) (blank : Akhira.Oracle.isBlank text = true) :
    Oracle.operatorCodec.valAddressFromBech32 text = none := by
  have unlisted : ((Oracle.operatorTexts ++ Oracle.operatorCapitals).find? fun entry =>
      entry.2 = text) = none := by
    have written : ∀ entry ∈ Oracle.operatorTexts ++ Oracle.operatorCapitals,
        Akhira.Oracle.isBlank entry.2 = false := by
      decide +kernel
    rw [List.find?_eq_none]
    rintro entry listed same
    rw [← of_decide_eq_true same, written entry listed] at blank
    cases blank
  change Oracle.readOperator text = none
  rw [Oracle.readOperator, unlisted]
  dsimp only
  unfold Oracle.readMarked
  split
  · rename_i chars marked
    rw [Akhira.Oracle.isBlank, marked, List.all_cons] at blank
    cases blank
  · rfl

/-- A white list and an account with coins. -/
def launchClp : Akhira.Clp.Module :=
  ⟨{ Clp.aliceState with whiteList := some [Clp.aliceText] }, ⟨100⟩⟩

/-- The oracle of a chain at its start. -/
def launchOracle : Akhira.Oracle.Stored := ⟨⟨[Oracle.operator 1], Clp.aliceAddress, .empty⟩, true⟩

/-- The distributions of a chain at its start. -/
def launchDrops : Akhira.Dispensation.State := Dispensation.initial Clp.aliceState.bank

/-- Three stores that are in use come back. -/
theorem used_stores_return :
    Clp.RoundTrips Clp.aliceEnvironment (run (Clp.change Clp.aliceEnvironment) launchClp
        (Clp.deepDeliveries.map Clp.Change.deliver)) ∧
      Oracle.RoundTrips Clp.aliceEnvironment.toChain Oracle.operatorCodec
        (run (Akhira.Oracle.deliverStored Oracle.appEnvironment) launchOracle
          [Oracle.claimBy ⟨Oracle.unevenStaking, Oracle.ascending⟩ 1 "7" "content"]) ∧
      Dispensation.RoundTrips Dispensation.dropEnvironment
        (run (Dispensation.change Dispensation.dropEnvironment) launchDrops
          [.deliver (Dispensation.createDrop Dispensation.bobText Dispensation.five),
            .deliver (Dispensation.runDrop Dispensation.bobText)]) :=
  @genesis_round_trips Clp.aliceEnvironment Oracle.appEnvironment Dispensation.dropEnvironment
    aliceEnvironment_reads operatorCodec_unread Clp.aliceState.bank
    ⟨⟨100⟩, [Clp.aliceText], [], []⟩ launchClp rfl
    ⟨some [Oracle.operatorText (Oracle.operator 1)], Clp.aliceText, []⟩ launchOracle rfl rfl
    (by simp) ⟨none, none, none⟩ launchDrops rfl _ _ _

/-- A prophecy of a validator whose text no address has. -/
def illegibleProphecy : Akhira.Oracle.DBProphecy :=
  ⟨"7", ⟨.pending, ""⟩, Store.empty.set "content" ["akvaloper"],
    Store.empty.set "akvaloper" "content"⟩

/-- An oracle that starts with a prophecy that does not deserialize cannot be exported, and one that
starts without a white list has one afterwards. -/
theorem oracle_differs :
    (∃ store, Akhira.Oracle.initGenesis Clp.aliceEnvironment.toChain Oracle.operatorCodec
        ⟨some [], "", [illegibleProphecy]⟩ = .ok store ∧
      Akhira.Oracle.exportGenesis Clp.aliceEnvironment.toChain Oracle.operatorCodec store =
        .error (.panic "decoding bech32 failed")) ∧
    ∃ store data imported, Akhira.Oracle.initGenesis Clp.aliceEnvironment.toChain
        Oracle.operatorCodec ⟨none, "", []⟩ = .ok store ∧
      Akhira.Oracle.exportGenesis Clp.aliceEnvironment.toChain Oracle.operatorCodec store =
        .ok data ∧
      Akhira.Oracle.initGenesis Clp.aliceEnvironment.toChain Oracle.operatorCodec data =
        .ok imported ∧
      store.existsOracleWhiteList = false ∧ imported.existsOracleWhiteList = true := by
  have unread : illegibleProphecy.deserializeFromDB Oracle.operatorCodec = none :=
    Option.isNone_iff_eq_none.mp (by decide +kernel)
  refine ⟨⟨⟨⟨[], [], Store.empty.set (Akhira.Oracle.prophecyKey "7") illegibleProphecy⟩, true⟩,
    rfl, ?_⟩, _, _, _, rfl, rfl, rfl, rfl, rfl⟩
  have stored : (Store.empty.set (Akhira.Oracle.prophecyKey "7") illegibleProphecy).values =
    [illegibleProphecy] := rfl
  rw [Akhira.Oracle.exportGenesis, Akhira.Oracle.Stored.getProphecies, stored, List.mapM_cons, unread]
  rfl

end Akhira.Verif

namespace Akhira.Verif.EthBridge

open Akhira.Base Akhira.Sdk Akhira.EthBridge

/-- Importing tokens one by one lists each of them. -/
theorem addPeggyTokens (tokens : List String) (state : State) :
    ∃ peggyTokens, tokens.foldl State.addPeggyToken state = { state with peggyTokens } ∧
      ∀ token, token ∈ peggyTokens ↔ token ∈ state.peggyTokens ∨ token ∈ tokens := by
  induction tokens generalizing state with
  | nil => exact ⟨state.peggyTokens, rfl, by simp⟩
  | cons first rest ih =>
    obtain ⟨peggyTokens, folded, members⟩ := ih (state.addPeggyToken first)
    rw [List.foldl_cons, folded]
    by_cases known : state.existsPeggyToken first = true
    · have same : state.addPeggyToken first = state := if_pos known
      rw [same] at members ⊢
      refine ⟨peggyTokens, rfl, fun token => ?_⟩
      have listed : first ∈ state.peggyTokens := by simpa [State.existsPeggyToken] using known
      rw [members, List.mem_cons]
      grind
    · have added : state.addPeggyToken first =
          { state with peggyTokens := state.peggyTokens ++ [first] } := if_neg known
      rw [added] at members ⊢
      refine ⟨peggyTokens, rfl, fun token => ?_⟩
      rw [members, List.mem_append, List.mem_singleton, List.mem_cons, or_assoc]

/-- The stored account is read back from its export. -/
theorem cethReceiver_again {chain : Chain} (reads : ReadsTexts chain) (state : State) :
    ∃ text, (if (exportGenesis chain state).cethReceiveAccount = "" then pure ""
        else do
          let receiveAccount ← chain.decodeOrPanic (exportGenesis chain state).cethReceiveAccount
          pure (chain.textOf receiveAccount) : Outcome String) = .ok text ∧
      (if text = "" then none else chain.accAddressFromBech32 text) =
        state.getCethReceiverAccount chain := by
  unfold exportGenesis
  cases stored : state.getCethReceiverAccount chain with
  | none => exact ⟨"", rfl, rfl⟩
  | some address =>
    have readable : Readable chain address := by
      unfold State.getCethReceiverAccount at stored
      split at stored
      · cases stored
      · exact reads.readable stored
    have filled : chain.textOf address ≠ "" := by
      intro empty
      have blank := reads.not_blank readable
      rw [empty] at blank
      cases blank
    have decoded : chain.decodeOrPanic (chain.textOf address) = .ok address :=
      Outcome.present_ok.mpr readable
    refine ⟨chain.textOf address, ?_, ?_⟩
    · rw [Option.getD_some, if_neg filled, decoded]
      rfl
    · rw [if_neg filled]
      exact readable

/-- An export and import keeps the tokens and the receiver account, and keeps who is blacklisted
just when nobody is. -/
theorem genesis_keeps_reads {chain : Chain} (reads : ReadsTexts chain) (state : State)
    (oracle : Akhira.Oracle.State) (bank : Bank) (accounts : AccAddress → Option Nat) :
    ∃ imported, initGenesis chain oracle bank accounts (exportGenesis chain state) = .ok imported ∧
      (∀ token, imported.existsPeggyToken token = state.existsPeggyToken token) ∧
      imported.getCethReceiverAccount chain = state.getCethReceiverAccount chain ∧
      ((∀ address, imported.isBlacklisted address = state.isBlacklisted address) ↔
        ∀ address, state.isBlacklisted address = false) := by
  obtain ⟨text, written, again⟩ := cethReceiver_again reads state
  obtain ⟨peggyTokens, folded, members⟩ := addPeggyTokens state.peggyTokens
    ⟨oracle, bank, [], text, [], accounts⟩
  refine ⟨⟨oracle, bank, peggyTokens, text, [], accounts⟩, ?_, fun token => ?_, again, ?_⟩
  · simp only [initGenesis, Result.bind_ok, Result.pure_ok]
    exact ⟨text, written, folded⟩
  · have same : token ∈ peggyTokens ↔ token ∈ state.peggyTokens := by
      rw [members]
      exact or_iff_right List.not_mem_nil
    rw [Bool.eq_iff_iff]
    simpa [State.existsPeggyToken] using same
  · -- the imported store has no blacklisted address at all
    have nobody : ∀ address, State.isBlacklisted
        ⟨oracle, bank, peggyTokens, text, [], accounts⟩ address = false := fun _ => rfl
    constructor
    · intro same address
      rw [← same, nobody]
    · intro free address
      rw [free, nobody]

/-- The sample chain of the bridge reads the texts it writes. -/
theorem bridgeChain_reads : ReadsTexts bridgeChain := by
  constructor
  · intro text address read
    change (if text = aliceText then some aliceAddress else none) = some address at read
    split at read
    · cases read
      decide +kernel
    · cases read
  · intro text blank
    change (if text = aliceText then some aliceAddress else none) = none
    rw [if_neg]
    rintro rfl
    revert blank
    decide +kernel

/-- A store with a token and a receiver account. -/
def usedState : State :=
  { bridgeState with peggyTokens := ["ceth"], cethReceiverAccount := aliceText }

/-- A used bridge without a black list reads after its import as before. -/
theorem used_reads_kept : (∀ address, usedState.isBlacklisted address = false) ∧
    ∃ imported, initGenesis bridgeChain usedState.oracle usedState.bank usedState.accounts
        (exportGenesis bridgeChain usedState) = .ok imported ∧
      (∀ token, imported.existsPeggyToken token = usedState.existsPeggyToken token) ∧
      imported.getCethReceiverAccount bridgeChain = usedState.getCethReceiverAccount bridgeChain ∧
      ((∀ address, imported.isBlacklisted address = usedState.isBlacklisted address) ↔
        ∀ address, usedState.isBlacklisted address = false) :=
  ⟨fun _ => rfl, genesis_keeps_reads bridgeChain_reads usedState _ _ _⟩

/-- The address that is put on the black list. -/
def burnAddressText : String := "0x52908400098527886E0F7030069857D2E4169EE7"

/-- The administrator of the token registry blacklists an address. -/
def blacklistOne : Delivery :=
  ⟨{ bridgeContext with registryAdmin := fun address => address = aliceAddress },
    .setBlacklist ⟨aliceText, [burnAddressText]⟩⟩

/-- After an export and import the address is free again. -/
theorem blacklist_forgotten :
    (run (deliver bridgeEnvironment) bridgeState [blacklistOne]).isBlacklisted burnAddressText = true ∧
      ∃ imported, initGenesis bridgeChain bridgeState.oracle bridgeState.bank bridgeState.accounts
          (exportGenesis bridgeChain (run (deliver bridgeEnvironment) bridgeState [blacklistOne])) =
            .ok imported ∧
        imported.isBlacklisted burnAddressText = false :=
  ⟨by decide +kernel, _, rfl, rfl⟩

end Akhira.Verif.EthBridge
