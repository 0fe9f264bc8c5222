import Akhira.App.Genesis
import Akhira.Verif.ClpRecords

/-!
# The clp genesis

Every pool and record is written under the key that its own fields give, after a check that is made
again on import. So the exported records, written in any order into empty stores, give the stores
back.
-/
namespace Akhira.Verif

open Akhira.Sdk

/-- The texts of accounts: what was read is not empty and is read again from its own text, and white
space is never read. -/
structure ReadsTexts (chain : Chain) : Prop where
  again : ∀ text address, chain.accAddressFromBech32 text = some address →
    address ≠ [] ∧ chain.accAddressFromBech32 (chain.accAddressText address) = some address
  blank : ∀ text, Oracle.isBlank text = true → chain.accAddressFromBech32 text = none

/-- An address that its own text gives back. -/
def Readable (chain : Chain) (address : AccAddress) : Prop :=
  chain.accAddressFromBech32 (chain.textOf address) = some address

/-- An account that is read from some text is readable from its own. -/
theorem ReadsTexts.readable {chain : Chain} (reads : ReadsTexts chain) {text : String}
    {address : AccAddress} (read : chain.accAddressFromBech32 text = some address) :
    Readable chain address := by
  obtain ⟨some, again⟩ := reads.again text address read
  rw [Readable, Chain.textOf, if_neg some]
  exact again

/-- The own text of a readable account is not blank. -/
theorem ReadsTexts.not_blank {chain : Chain} (reads : ReadsTexts chain) {address : AccAddress}
    (readable : Readable chain address) : Oracle.isBlank (chain.textOf address) = false := by
  cases blank : Oracle.isBlank (chain.textOf address) with
  | false => rfl
  | true =>
    rw [Readable, reads.blank _ blank] at readable
    cases readable

end Akhira.Verif

namespace Akhira.Verif.Clp

open Akhira.Base Akhira.Base.Result Akhira.Sdk Akhira.Sdk.Outcome Akhira.Clp

/-- Pools and records are valid and stand under their own keys, and the white list is a given one. -/
structure Filed (whiteList : Option (List String)) (state : State) : Prop where
  pools : Store.All (fun key pool => key = poolKey pool.externalAsset.symbol ∧
    pool.externalAsset.validate = .ok true) state.pools
  providers : RecordsKeyed state.providers
  whiteList : state.whiteList = whiteList

section Keeper

variable {env : Environment} {context : Context} {whiteList : Option (List String)} {state : State}
  (filed : Filed whiteList state)
include filed

/-- Storing a pool keeps the stores filed. -/
theorem setPool_filed (pool : Pool) : Ensures (Filed whiteList) (state.setPool pool) := by
  intro next set
  simp only [State.setPool, Result.bind_ok, Outcome.require_ok, Result.pure_ok] at set
  obtain ⟨-, valid, -, rfl, rfl⟩ := set
  exact ⟨filed.pools.set ⟨rfl, valid⟩, filed.providers, filed.whiteList⟩

/-- Storing a record keeps the stores filed. -/
theorem setLiquidityProvider_filed (lp : LiquidityProvider) :
    Ensures (Filed whiteList) (state.setLiquidityProvider lp) := by
  intro next set
  simp only [State.setLiquidityProvider, Result.bind_ok] at set
  obtain ⟨valid, validated, written⟩ := set
  cases valid with
  | false =>
    cases written
    exact filed
  | true =>
    cases written
    exact ⟨filed.pools, filed.providers.set ⟨rfl, validated⟩, filed.whiteList⟩

/-- Deleting a pool keeps the stores filed. -/
theorem destroyPool_filed (symbol : String) : Ensures (Filed whiteList) (state.destroyPool symbol) :=
  .pass fun _ => .pure ⟨filed.pools.delete _, filed.providers, filed.whiteList⟩

/-- Deleting a record keeps the stores filed. -/
theorem destroyLiquidityProvider_filed (symbol lpAddress : String) :
    Filed whiteList (state.destroyLiquidityProvider symbol lpAddress) :=
  ⟨filed.pools, filed.providers.delete _, filed.whiteList⟩

/-- A call of the bank keeps the stores filed. -/
theorem withBank_filed (call : Outcome Ledger) : Ensures (Filed whiteList) (state.withBank call) :=
  .pass fun _ => .pure ⟨filed.pools, filed.providers, filed.whiteList⟩

/-- Creating a pool keeps the stores filed. -/
theorem createPool_filed (poolUnits : Uint) (msg : MsgCreatePool) :
    Ensures (Filed whiteList) (state.createPool env context poolUnits msg) := by
  unfold State.createPool
  refine .pass fun _ => .pass fun _ => .pass fun _ => .pass fun _ => .pass fun _ => .pass fun _ =>
    .pass fun _ => .bind (withBank_filed filed _) fun state filed => ?_
  exact ensures_wrapping (setPool_filed filed _)

/-- Creating a record keeps the stores filed. -/
theorem createLiquidityProvider_filed (asset : Asset) (lpUnits : Uint) (lpAddress : AccAddress) :
    Ensures (fun created => Filed whiteList created.2)
      (state.createLiquidityProvider env asset lpUnits lpAddress) :=
  .bind (setLiquidityProvider_filed filed _) fun _ filed => .pure filed

/-- Adding liquidity keeps the stores filed. -/
theorem addLiquidity_filed (msg : MsgAddLiquidity) (pool : Pool) (newPoolUnits lpUnits : Uint) :
    Ensures (Filed whiteList) (state.addLiquidity env context msg pool newPoolUnits lpUnits) := by
  unfold State.addLiquidity
  refine .pass fun _ => .pass fun _ => .pass fun _ => .pass fun _ => .pass fun _ => .pass fun _ =>
    .pass fun _ => .pass fun _ => .bind (withBank_filed filed _) fun state filed => .pass fun _ =>
    .pass fun _ => ?_
  refine @Ensures.bind _ _ _ _ _ _ (fun chosen => Filed whiteList chosen.2.2) ?_
    fun chosen filed => .pass fun _ => .bind (ensures_wrapping (setPool_filed filed _))
      fun _ filed => setLiquidityProvider_filed filed _
  split
  · exact .pure filed
  · exact .bind (createLiquidityProvider_filed filed _ _ _) fun _ filed => .pure filed

/-- Refunding a provider keeps the stores filed. -/
theorem removeLiquidityProvider_filed (coins : Coins) (lp : LiquidityProvider) :
    Ensures (Filed whiteList) (state.removeLiquidityProvider env context coins lp) :=
  .pass fun _ => .bind (ensures_wrapping (withBank_filed filed _)) fun _ filed =>
    .pure (destroyLiquidityProvider_filed filed _ _)

/-- Removing liquidity keeps the stores filed. -/
theorem removeLiquidity_filed (pool : Pool) (externalAssetCoin nativeAssetCoin : Coin)
    (lp : LiquidityProvider) (lpUnitsLeft poolOriginalEB poolOriginalNB : Uint) :
    Ensures (Filed whiteList) (state.removeLiquidity env context pool externalAssetCoin
      nativeAssetCoin lp lpUnitsLeft poolOriginalEB poolOriginalNB) := by
  unfold State.removeLiquidity
  refine .pass fun _ => .pass fun _ => .pass fun _ => .pass fun _ =>
    .bind (ensures_wrapping (setPool_filed filed _)) fun state filed => ?_
  refine @Ensures.bind _ _ _ _ _ _ (Filed whiteList) ?_ fun state filed => ?_
  · split
    · exact .pure filed
    · exact .pass fun _ => withBank_filed filed _
  · split
    · exact .pure (destroyLiquidityProvider_filed filed _ _)
    · exact setLiquidityProvider_filed filed _

/-- The last step of a swap keeps the stores filed. -/
theorem finalizeSwap_filed (emitAmount : Uint) (finalPool : Pool) (msg : MsgSwap) :
    Ensures (Filed whiteList) (state.finalizeSwap env context emitAmount finalPool msg) :=
  .bind (ensures_wrapping (setPool_filed filed _)) fun _ filed => .pass fun _ => .pass fun _ =>
    .pass fun _ => .pass fun _ => withBank_filed filed _

/-- A swap keeps the stores filed. -/
theorem handleSwap_filed (msg : MsgSwap) :
    Ensures (Filed whiteList) (state.handleSwap env context msg) := by
  unfold State.handleSwap
  refine .pass fun _ => .pass fun _ => .pass fun _ => .pass fun _ => .pass fun inPool =>
    .pass fun _ => .pass fun _ => .pass fun _ => ?_
  refine .bind (ensures_wrapping (.pass fun _ => .pass fun _ => withBank_filed filed _))
    fun state filed => ?_
  refine @Ensures.bind _ _ _ _ _ _ (fun hop => Filed whiteList hop.2.2.2.2) ?_ fun hop filed =>
    .pass fun _ => .pass fun _ => .pass fun _ => .pass fun _ =>
      .bind (ensures_wrapping (finalizeSwap_filed filed _ _ _)) fun _ filed => .pass fun _ =>
        .pass fun _ => .pure filed
  cases inPool with
  | none => exact .pure filed
  | some pool =>
    dsimp only
    split
    · exact .pure filed
    · refine @Ensures.bind _ _ _ _ _ _ (fun hop => Filed whiteList hop.2) ?_
        fun _ filed => .pure filed
      exact .pass fun _ => .pass fun _ => .bind (ensures_wrapping (setPool_filed filed _))
        fun _ filed => .pure filed

/-- A decommission keeps the stores filed. -/
theorem handleDecommissionPool_filed (msg : MsgDecommissionPool) :
    Ensures (Filed whiteList) (state.handleDecommissionPool env context msg) := by
  unfold State.handleDecommissionPool
  refine .pass fun pool => .pass fun _ => .pass fun _ => .pass fun _ => .pass fun _ => ?_
  refine .bind (@Ensures.foldlM _ _ _ (fun refund => Filed whiteList refund.state) _ _ ?_ _ filed)
    fun _ filed => ensures_wrapping (ensures_wrapping (destroyPool_filed filed _))
  intro refund lp _ filed
  exact .pass fun _ => .pass fun _ => .pass fun _ => .pass fun _ => .pass fun _ => .pass fun _ =>
    .pass fun _ => .pass fun _ => .pass fun _ =>
      .bind (ensures_wrapping (removeLiquidityProvider_filed filed _ _)) fun _ filed => .pure filed

/-- Every message keeps the stores filed. -/
theorem handle_filed (msg : Msg) : Ensures (Filed whiteList) (state.handle env context msg) := by
  cases msg with
  | createPool msg =>
    exact .pass fun _ => .pass fun _ => .pass fun _ => .pass fun _ => .pass fun _ =>
      .bind (ensures_wrapping (createPool_filed filed _ _)) fun _ filed => .pass fun _ =>
        .bind (createLiquidityProvider_filed filed _ _ _) fun _ filed => .pure filed
  | addLiquidity msg =>
    exact .pass fun _ => .pass fun _ => .pass fun _ => .pass fun _ =>
      ensures_wrapping (addLiquidity_filed filed _ _ _ _)
  | removeLiquidity msg =>
    exact .pass fun _ => .pass fun _ => .pass fun _ => .pass fun _ => .pass fun _ => .pass fun _ =>
      .pass fun _ => .pass fun _ => .pass fun _ => .pass fun _ => .pass fun _ => .pass fun _ =>
        .pass fun _ => .pass fun _ => ensures_wrapping (removeLiquidity_filed filed _ _ _ _ _ _ _)
  | swap msg => exact handleSwap_filed filed msg
  | decommissionPool msg => exact handleDecommissionPool_filed filed msg

end Keeper

/-- What happens to the stores: messages, transfers of other modules and changes of parameters. -/
inductive Change where
  | deliver (delivery : Delivery)
  | balances (bank : Ledger)
  | params (params : Params)

/-- Carry out a change. -/
def change (env : Environment) (clp : Module) : Change → Outcome Module
  | .deliver delivery => do
    let state ← deliver env clp.state delivery
    pure { clp with state }
  | .balances bank => pure { clp with state := { clp.state with bank } }
  | .params params => do
    let params ← setParams params
    pure { clp with params }

/-- The stores of a chain that was initialised. -/
structure Fit (env : Environment) (clp : Module) : Prop where
  filed : Filed clp.state.whiteList clp.state
  params : setParams clp.params = .ok clp.params
  listed : ∃ addresses, addresses ≠ [] ∧ clp.state.whiteList = some (addresses.map env.textOf) ∧
    ∀ address ∈ addresses, Readable env.toChain address

/-- Exported and imported next to any balances, the stores are the same. -/
def RoundTrips (env : Environment) (clp : Module) : Prop :=
  ∀ bank, ∃ data, exportGenesis env clp = .ok data ∧
    initGenesis env bank data = .ok { clp with state := { clp.state with bank } }

section RoundTrip

variable {env : Environment} {clp next : Module} {bank : Ledger} {data : GenesisState}

/-- Parameters that pass are stored as they are, and pass again. -/
theorem setParams_ok {params result : Params} (set : setParams params = .ok result) :
    result = params ∧ setParams result = .ok result := by
  unfold setParams at set
  split at set
  · cases set
  · rename_i positive
    cases set
    exact ⟨rfl, if_neg positive⟩

/-- The stores of an initialised chain are fit for export. -/
theorem initGenesis_fit (reads : ReadsTexts env.toChain)
    (initialised : initGenesis env bank data = .ok clp) : Fit env clp := by
  simp only [initGenesis, Result.bind_ok, Result.pure_ok] at initialised
  obtain ⟨params, set, addresses, read, poolsWritten, wrotePools, state, wroteRecords, rfl⟩ :=
    initialised
  have entered : addresses ≠ [] ∧ ∀ address ∈ addresses, Readable env.toChain address := by
    unfold readWhitelist at read
    split at read
    · cases read
    · rename_i given
      have readable := mapM_ok_forall (fun entry _ address decoded =>
        reads.readable (Outcome.present_ok.mp decoded)) read
      refine ⟨?_, readable⟩
      rintro rfl
      cases entries : data.addressWhitelist with
      | nil => exact given entries
      | cons entry rest =>
        rw [entries, List.mapM_cons] at read
        simp only [Result.bind_ok, Result.pure_ok] at read
        obtain ⟨_, -, _, -, absurd⟩ := read
        cases absurd
  have start : Filed (some (addresses.map env.textOf))
      (State.setClpWhiteList env ⟨.empty, .empty, none, bank⟩ addresses) :=
    ⟨Store.All.empty, Store.All.empty, rfl⟩
  have middle := Ensures.foldlM (fun _ _ _ filed => ensures_orCrash (setPool_filed filed _)) start
    _ wrotePools
  have final := Ensures.foldlM (fun _ _ _ filed => setLiquidityProvider_filed filed _) middle
    _ wroteRecords
  exact ⟨⟨final.pools, final.providers, rfl⟩, (setParams_ok set).2, addresses, entered.1,
    final.whiteList, entered.2⟩

/-- Every change keeps the stores fit for export. -/
theorem change_fit (fit : Fit env clp) {happening : Change}
    (changed : change env clp happening = .ok next) : Fit env next := by
  cases happening with
  | deliver delivery =>
    simp only [change, deliver, Result.bind_ok, Result.pure_ok] at changed
    obtain ⟨state, ⟨-, -, -, -, handled⟩, rfl⟩ := changed
    have filed := handle_filed fit.filed delivery.msg state handled
    refine ⟨⟨filed.pools, filed.providers, rfl⟩, fit.params, ?_⟩
    rw [filed.whiteList]
    exact fit.listed
  | balances bank =>
    cases changed
    exact ⟨⟨fit.filed.pools, fit.filed.providers, rfl⟩, fit.params, fit.listed⟩
  | params params =>
    simp only [change, Result.bind_ok, Result.pure_ok] at changed
    obtain ⟨written, set, rfl⟩ := changed
    exact ⟨fit.filed, (setParams_ok set).2, fit.listed⟩

/-- What is fit for export round trips. -/
theorem fit_roundTrips (fit : Fit env clp) : RoundTrips env clp := by
  intro bank
  obtain ⟨addresses, given, written, readable⟩ := fit.listed
  have decoded : (addresses.map env.textOf).mapM env.decodeOrPanic = .ok addresses :=
    mapM_map_ok fun address listed => Outcome.present_ok.mpr (readable address listed)
  have exported : exportGenesis env clp = .ok ⟨clp.params, addresses.map env.textOf,
      clp.state.pools.values, clp.state.providers.values⟩ := by
    rw [exportGenesis, State.getClpWhiteList, written, Option.getD_some, decoded]
    rfl
  have whiteList : readWhitelist env (addresses.map env.textOf) = .ok addresses := by
    rw [readWhitelist, if_neg (by simpa using given), decoded]
  have pools := @Store.foldlM_set_values _ _ _ clp.state.pools _ _
    (fun (state : State) pool =>
      (state.setPool pool).orCrash ("Pool could not be set : " ++ pool.text))
    (fun pools => ⟨pools, .empty, clp.state.whiteList, bank⟩)
    (fun pool => poolKey pool.externalAsset.symbol)
    (by
      intro key pool found
      obtain ⟨rfl, valid⟩ := fit.filed.pools key pool found
      refine ⟨rfl, fun built => ?_⟩
      simp only [Outcome.orCrash_ok, State.setPool, Result.bind_ok, Outcome.require_ok,
        Result.pure_ok]
      exact ⟨true, valid, (), rfl, trivial⟩)
  have records := @Store.foldlM_set_values _ _ _ clp.state.providers _ _
    State.setLiquidityProvider
    (fun providers => ⟨clp.state.pools, providers, clp.state.whiteList, bank⟩)
    (fun lp => getLiquidityProviderKey lp.asset.symbol lp.liquidityProviderAddress)
    (by
      intro key lp found
      obtain ⟨rfl, valid⟩ := fit.filed.providers key lp found
      refine ⟨rfl, fun built => ?_⟩
      simp only [State.setLiquidityProvider, Result.bind_ok]
      exact ⟨true, valid, rfl⟩)
  refine ⟨_, exported, ?_⟩
  simp only [initGenesis, Result.bind_ok, Result.pure_ok]
  refine ⟨clp.params, fit.params, addresses, whiteList, _, ?_, _, records, rfl⟩
  rw [written] at pools
  rw [written]
  exact pools

end RoundTrip

end Akhira.Verif.Clp
