import Akhira.Verif.Genesis

/-!
# Whom a contribution credits

A record is looked up under the text of the signer as the message spells it, and a new one is
written under the account's own text. On every run the records stand under own texts only, so a
signer who spells the account otherwise finds none, and the units stored under the own text are
overwritten.
-/
namespace Akhira.Verif.Clp

open Akhira.Base Akhira.Base.Result Akhira.Sdk Akhira.Clp

variable {env : Environment} {context : Context} {state next : State}

/-- A text that is the own text of the account it is read as. -/
def OwnText (env : Environment) (text : String) : Prop :=
  ∃ address, env.accAddressFromBech32 text = some address ∧ env.accAddressText address = text

/-- Pools and records stand under their own keys, and the records under own texts. -/
structure Canonical (env : Environment) (state : State) : Prop where
  pools : PoolsKeyed state.pools
  records : RecordsKeyed state.providers
  texts : Store.All (fun _ lp => OwnText env lp.liquidityProviderAddress) state.providers

/-- The chain writes the own text of every account it reads. -/
theorem ownText_of_read (reads : ReadsTexts env.toChain) {text : String} {signer : AccAddress}
    (signed : env.accAddressFromBech32 text = some signer) :
    OwnText env (env.accAddressText signer) :=
  ⟨signer, (reads.again text signer signed).2, rfl⟩

/-- A property of all records is kept by storing a record that has it. -/
theorem all_putRecord {property : String → LiquidityProvider → Prop}
    {providers : Store String LiquidityProvider} (all : Store.All property providers)
    {lp : LiquidityProvider}
    (holds : property (getLiquidityProviderKey lp.asset.symbol lp.liquidityProviderAddress) lp) :
    Store.All property (putRecord providers lp) := by
  unfold putRecord
  split
  · exact all.set holds
  · exact all

namespace Canonical

/-- A record is found under a spelling of an account only if this is the account's own text. -/
theorem spelling (canonical : Canonical env state) {asset : Asset} {text : String}
    {signer : AccAddress} {lp : LiquidityProvider} (valid : asset.validate = .ok true)
    (signed : env.accAddressFromBech32 text = some signer)
    (found : state.getLiquidityProvider asset.symbol text = some lp) :
    text = env.accAddressText signer := by
  obtain ⟨-, rfl⟩ := canonical.records.found_eq valid found
  obtain ⟨address, read, own⟩ := canonical.texts _ _ found
  rw [signed, Option.some.injEq] at read
  rw [read, own]

/-- A contribution writes its record under an own text. -/
theorem contributor_ownText (canonical : Canonical env state) (reads : ReadsTexts env.toChain)
    {msg : MsgAddLiquidity} {signer : AccAddress} {lpUnits : Uint} {lp : LiquidityProvider}
    (signed : env.accAddressFromBech32 msg.signer = some signer)
    (record : contributor env state msg signer lpUnits = .ok lp) :
    OwnText env lp.liquidityProviderAddress := by
  unfold contributor at record
  split at record
  · rename_i old found
    simp only [Result.bind_ok, Result.pure_ok] at record
    obtain ⟨units, -, rfl⟩ := record
    exact canonical.texts _ old found
  · cases record
    exact ownText_of_read reads signed

/-- Every delivery leaves the records under own texts. -/
theorem texts_step (canonical : Canonical env state) (reads : ReadsTexts env.toChain)
    {delivery : Delivery} (delivered : deliver env state delivery = .ok next) :
    Store.All (fun _ lp => OwnText env lp.liquidityProviderAddress) next.providers := by
  have texts := canonical.texts
  cases deliver_effect canonical.pools delivered with
  | @created msg _ units kind external amounts created =>
    -- the effect does not name the signer, which the message gives
    obtain ⟨-, ⟨signer, signed, outside⟩, handled⟩ := deliver_ok delivered
    rw [kind] at signed handled
    obtain ⟨units, created⟩ := handleCreatePool_ok signed outside handled
    rw [created.written]
    exact all_putRecord texts (ownText_of_read reads signed)
  | added kind valid signed added =>
    rw [added.written]
    exact all_putRecord texts (canonical.contributor_ownText reads signed added.record)
  | @removed _ _ _ lp _ _ _ kind valid removed =>
    rw [removed.written]
    dsimp only
    unfold withdrawn
    split
    · exact texts.delete _
    · exact all_putRecord texts (texts _ lp removed.recorded)
  | traded kind traded =>
    cases traded with
    | native sent found sale exchanged =>
      rw [exchanged.written]
      exact texts
    | external received found sale exchanged =>
      rw [exchanged.written]
      exact texts
    | both sent received firstFound firstSale secondFound secondSale exchanged =>
      rw [exchanged.written]
      exact texts
  | decommissioned kind decommissioned =>
    rw [decommissioned.written]
    intro key lp found
    exact texts key lp (get_dropRecords.mp found).1

end Canonical

/-- On every run from an empty clp store the records stand under own texts. -/
theorem canonical_on_runs (reads : ReadsTexts env.toChain) {start : State}
    (noPools : start.pools = Store.empty) (noRecords : start.providers = Store.empty)
    (deliveries : List Delivery) :
    Canonical env (run (deliver env) start deliveries) := by
  have kept : ∀ state delivery next, SoundPools state.pools ∧ Canonical env state → True →
      deliver env state delivery = .ok next → SoundPools next.pools ∧ Canonical env next := by
    rintro state delivery next ⟨sound, canonical⟩ - delivered
    have effect := deliver_effect sound.keyed delivered
    have after := sound.effect effect
    exact ⟨after, after.keyed, canonical.records.effect effect,
      canonical.texts_step reads delivered⟩
  have orderly := Orderly.empty noPools noRecords
  have texts : Store.All (fun _ lp => OwnText env lp.liquidityProviderAddress)
      start.providers := by
    rw [noRecords]
    exact Store.All.empty
  have reached := @run_invariant _ _ _ (deliver env) _
    (fun state => SoundPools state.pools ∧ Canonical env state) kept start
    ⟨⟨orderly.keyed, orderly.positive⟩, orderly.keyed, orderly.recordsKeyed, texts⟩ deliveries
    (meets_of_forall (fun _ _ => trivial) start deliveries)
  exact reached.2

/-- The units that `CalculatePoolUnits` issues for a contribution. -/
def issuedUnits (context : Context) (state : State) (msg : MsgAddLiquidity) : Outcome Uint := do
  let entry ← clpEntry context.registry msg.externalAsset.symbol
  let pool ← state.getPool msg.externalAsset.symbol
  let factor ← getNormalizationFactor entry.decimals
  let units ← calculatePoolUnits (State.contribution pool msg) factor.1 factor.2
  pure units.2

/-- The units an account has in the pool of an asset. -/
def accountUnits (env : Environment) (state : State) (asset : Asset) (account : AccAddress) : Nat :=
  match state.getLiquidityProvider asset.symbol (env.accAddressText account) with
  | some lp => lp.liquidityProviderUnits.val
  | none => 0

/-- A contribution adds the units issued to the record of its signer, and leaves the other records
and the other pools. -/
structure Credits (env : Environment) (state next : State) (msg : MsgAddLiquidity)
    (signer : AccAddress) (lpUnits : Uint) : Prop where
  credited : ∃ lp, next.getLiquidityProvider msg.externalAsset.symbol
      (env.accAddressText signer) = some lp ∧
    lp.liquidityProviderUnits.val = accountUnits env state msg.externalAsset signer + lpUnits.val
  records : ∀ key ≠ getLiquidityProviderKey msg.externalAsset.symbol (env.accAddressText signer),
    next.providers.get key = state.providers.get key
  pools : ∀ key ≠ poolKey msg.externalAsset.symbol, next.pools.get key = state.pools.get key

/-- A contribution whose record is written under the own text of its signer credits the signer
exactly when it writes the sum. -/
theorem credits_iff_of_written (lpUnits : Uint) {msg : MsgAddLiquidity} {signer : AccAddress}
    {pool : Pool} {lp : LiquidityProvider} (valid : lp.asset.validate = .ok true)
    (asset : lp.asset = msg.externalAsset)
    (address : lp.liquidityProviderAddress = env.accAddressText signer)
    (pools : next.pools = state.pools.set (poolKey msg.externalAsset.symbol) pool)
    (providers : next.providers = putRecord state.providers lp) :
    Credits env state next msg signer lpUnits ↔
      lp.liquidityProviderUnits.val =
        accountUnits env state msg.externalAsset signer + lpUnits.val := by
  have written : next.providers = state.providers.set
      (getLiquidityProviderKey msg.externalAsset.symbol (env.accAddressText signer)) lp := by
    rw [providers, putRecord, if_pos valid, asset, address]
  have found : next.getLiquidityProvider msg.externalAsset.symbol (env.accAddressText signer) =
      some lp := by
    rw [State.getLiquidityProvider, written, Store.get_set_same]
  constructor
  · intro credits
    obtain ⟨after, stored, sum⟩ := credits.credited
    rw [found, Option.some.injEq] at stored
    rw [stored]
    exact sum
  · intro sum
    refine ⟨⟨lp, found, sum⟩, fun key other => ?_, fun key other => ?_⟩
    · rw [written, Store.get_set_other _ _ other]
    · rw [pools, Store.get_set_other _ _ other]

/-- A contribution credits exactly its signer when the signer's account is spelled by its own text
or has no units yet. -/
theorem contribution_credits_iff (env : Environment) (state : State)
    (canonical : Canonical env state) (context : Context) (msg : MsgAddLiquidity) (next : State)
    (delivered : deliver env state ⟨context, .addLiquidity msg⟩ = .ok next) :
    ∃ signer lpUnits, env.accAddressFromBech32 msg.signer = some signer ∧
      issuedUnits context state msg = .ok lpUnits ∧
      (Credits env state next msg signer lpUnits ↔
        msg.signer = env.accAddressText signer ∨
          accountUnits env state msg.externalAsset signer = 0) := by
  obtain ⟨checked, ⟨signer, signed, outside⟩, handled⟩ := deliver_ok delivered
  change env.accAddressFromBech32 msg.signer = some signer at signed
  simp only [Msg.validateBasic, MsgAddLiquidity.validateBasic, Result.bind_ok,
    requireAsset_ok] at checked
  obtain ⟨-, -, -, valid, -⟩ := checked
  obtain ⟨entry, factor, pool, newPoolUnits, lpUnits, nativeTotal, externalTotal, lp, added⟩ :=
    handleAddLiquidity_ok signed outside handled
  have issued : issuedUnits context state msg = .ok lpUnits := by
    simp only [issuedUnits, Result.bind_ok, getPool_ok, Result.pure_ok]
    exact ⟨entry, added.registered, pool, added.found, factor, added.normalized,
      (newPoolUnits, lpUnits), added.computed, rfl⟩
  refine ⟨signer, lpUnits, signed, issued, ?_⟩
  have asset := contributor_asset canonical.records valid added.record
  have pools : next.pools = state.pools.set (poolKey msg.externalAsset.symbol)
      (contributed pool newPoolUnits nativeTotal externalTotal) := by
    rw [added.written, canonical.pools.asset_eq added.found]
  have providers : next.providers = putRecord state.providers lp := by rw [added.written]
  have record := added.record
  unfold contributor at record
  cases found : state.getLiquidityProvider msg.externalAsset.symbol msg.signer with
  | some old =>
    -- only the own text finds a record, which grows by the units issued
    have own := canonical.spelling valid signed found
    have address := (canonical.records.found_eq valid found).2
    simp only [found, Result.bind_ok, Uint.add_ok, Result.pure_ok] at record
    obtain ⟨total, sum, rfl⟩ := record
    have before : accountUnits env state msg.externalAsset signer = old.liquidityProviderUnits.val := by
      rw [accountUnits, ← own, found]
    have credits := credits_iff_of_written lpUnits (asset ▸ valid) asset (address.trans own)
      pools providers
    rw [credits, before]
    exact ⟨fun _ => .inl own, fun _ => by rw [← sum]⟩
  | none =>
    -- a new record holds the units issued only
    simp only [found] at record
    cases record
    have credits := @credits_iff_of_written env state next lpUnits msg signer _
      ⟨msg.externalAsset, lpUnits, env.accAddressText signer⟩ valid rfl rfl pools providers
    rw [credits]
    dsimp only
    constructor
    · intro sum
      right
      omega
    · rintro (own | nothing)
      · rw [accountUnits, ← own, found, Nat.zero_add]
      · rw [nothing, Nat.zero_add]

/-- The pool of the token, opened by the account. -/
def openedState : State :=
  run (deliver aliceEnvironment) aliceState
    [⟨openContext, .createPool ⟨aliceText, token, amount (10 ^ 20), amount (10 ^ 20)⟩⟩]

/-- A contribution as large as the pool, under a text of the account. -/
def doubling (text : String) : MsgAddLiquidity :=
  ⟨text, token, amount (10 ^ 20), amount (10 ^ 20)⟩

/-- The state after that contribution. -/
def doubledState (text : String) : State :=
  run (deliver aliceEnvironment) openedState [⟨openContext, .addLiquidity (doubling text)⟩]

/-- The units are credited to the text that the chain writes. -/
theorem own_text_credited :
    ∃ signer lpUnits, aliceEnvironment.accAddressFromBech32 aliceText = some signer ∧
      issuedUnits openContext openedState (doubling aliceText) = .ok lpUnits ∧
      (Credits aliceEnvironment openedState (doubledState aliceText) (doubling aliceText) signer
          lpUnits ↔
        aliceText = aliceEnvironment.accAddressText signer ∨
          accountUnits aliceEnvironment openedState token signer = 0) :=
  contribution_credits_iff aliceEnvironment openedState
    (canonical_on_runs aliceEnvironment_reads rfl rfl _) openContext
    (doubling aliceText) (doubledState aliceText) (step_of_isOk (by decide +kernel))

/-- The account spells itself in capital letters and loses the units it had. -/
theorem capital_letters_overwrite :
    deliver aliceEnvironment openedState
        ⟨openContext, .addLiquidity (doubling aliceText.toUpper)⟩ =
          .ok (doubledState aliceText.toUpper) ∧
      issuedUnits openContext openedState (doubling aliceText.toUpper) = .ok (amount (10 ^ 20)) ∧
      ¬ Credits aliceEnvironment openedState (doubledState aliceText.toUpper)
        (doubling aliceText.toUpper) aliceAddress (amount (10 ^ 20)) := by
  refine ⟨step_of_isOk (by decide +kernel), by decide +kernel, fun credits => ?_⟩
  obtain ⟨lp, found, sum⟩ := credits.credited
  have left : (doubledState aliceText.toUpper).getLiquidityProvider token.symbol aliceText =
      some ⟨token, amount (10 ^ 20), aliceText⟩ := by decide +kernel
  have own : aliceEnvironment.accAddressText aliceAddress = aliceText := rfl
  rw [own] at found
  change (doubledState aliceText.toUpper).getLiquidityProvider token.symbol aliceText = _ at found
  rw [left, Option.some.injEq] at found
  subst found
  revert sum
  decide +kernel

end Akhira.Verif.Clp
