import Akhira.Sdk.Transfers
import Akhira.Verif.ClpArithmetic
import Akhira.Verif.ClpLive

/-!
# Contributions that panic

`msgServer.AddLiquidity` accepts a contribution of one asset only. The coin of the other amount is
dropped from the list of coins, and the balance check that reads the second coin when the first is
not covered runs past the end of the list. The remaining panics are those of the bank, of a unit
count and of a stored asset that is no denomination.
-/
namespace Akhira.Verif.Clp

open Akhira.Base Akhira.Sdk Akhira.Sdk.Outcome Akhira.Clp

variable {env : Environment} {context : Context} {state : State} {msg : MsgAddLiquidity}
  {pool : Pool} {newPoolUnits lpUnits : Uint} {signer : AccAddress} {coins : Coins}

/-- The coins `Keeper.AddLiquidity` collects. -/
def offeredCoins (msg : MsgAddLiquidity) : Outcome Coins := do
  let extInt ← parseToInt msg.externalAssetAmount
  let nativeInt ← parseToInt msg.nativeAssetAmount
  let externalAssetCoin ← Coin.newCoin msg.externalAsset.symbol extInt
  let coins ← Coins.add [] externalAssetCoin
  let nativeAssetCoin ← Coin.newCoin Asset.settlement.symbol nativeInt
  coins.add nativeAssetCoin

/-- What `Keeper.AddLiquidity` writes when the coins are collected. -/
def recordContribution (env : Environment) (state : State) (msg : MsgAddLiquidity) (pool : Pool)
    (newPoolUnits lpUnits : Uint) (addr : AccAddress) : Outcome State := do
  let nativeAssetBalance ← pool.nativeAssetBalance.add msg.nativeAssetAmount
  let externalAssetBalance ← pool.externalAssetBalance.add msg.externalAssetAmount
  let pool := { pool with poolUnits := newPoolUnits, nativeAssetBalance, externalAssetBalance }
  let (lp, lpUnits, state) ←
    (match state.getLiquidityProvider msg.externalAsset.symbol msg.signer with
    | some lp => pure (lp, lpUnits, state)
    | none => do
      let (lp, state) ← state.createLiquidityProvider env msg.externalAsset lpUnits addr
      pure (lp, Uint.zero, state))
  let liquidityProviderUnits ← lp.liquidityProviderUnits.add lpUnits
  let lp := { lp with liquidityProviderUnits }
  let state ← (state.setPool pool).wrapping errUnableToSetPool
  state.setLiquidityProvider lp

/-- A contribution is the making of its coins, the check of balances, their collection and the
records. -/
theorem addLiquidity_eq : state.addLiquidity env context msg pool newPoolUnits lpUnits = (do
    let coins ← offeredCoins msg
    let addr ← env.decode msg.signer
    state.requireEitherBalance addr coins
    let state ← state.collect env context addr coins
    recordContribution env state msg pool newPoolUnits lpUnits addr) := by
  simp only [State.addLiquidity, offeredCoins, bind_assoc]
  rfl

section Coins

variable {first second : Coin}

/-- Zero coins are dropped from two coins one by one. -/
theorem removeZeroCoins_pair : Coins.removeZeroCoins [first, second] =
    Coins.removeZeroCoins [first] ++ Coins.removeZeroCoins [second] :=
  List.filter_append [first] [second]

/-- A coin of nothing is dropped. -/
theorem removeZeroCoins_zero (none : first.amount = 0) : Coins.removeZeroCoins [first] = [] := by
  simp [Coins.removeZeroCoins, none]

/-- A coin of something is kept. -/
theorem removeZeroCoins_positive (some : first.amount ≠ 0) :
    Coins.removeZeroCoins [first] = [first] := by
  simp [Coins.removeZeroCoins, some]

/-- Two coins in order, the zero ones dropped, are valid. -/
theorem pair_valid (ordered : first.denom < second.denom) :
    (Coins.removeZeroCoins [first, second]).isValid = true := by
  rw [Coins.isValid, Bool.and_eq_true, decide_eq_true_eq, List.all_eq_true]
  constructor
  · have pair : [first, second].Pairwise fun left right => left.denom < right.denom :=
      List.pairwise_pair.mpr ordered
    exact pair.filter _
  · intro coin listed
    exact (List.mem_filter.mp listed).2

/-- The offered coins are the two amounts in order, the zero ones dropped. -/
theorem offeredCoins_ok (different : msg.externalAsset ≠ Asset.settlement)
    (offered : offeredCoins msg = .ok coins) : ∃ first second : Coin, first.denom < second.denom ∧
      coins = Coins.removeZeroCoins [first, second] ∧
      ((first.denom = msg.externalAsset.symbol ∧ first.amount = msg.externalAssetAmount.val ∧
        second.denom = nativeSymbol ∧ second.amount = msg.nativeAssetAmount.val) ∨
      (first.denom = nativeSymbol ∧ first.amount = msg.nativeAssetAmount.val ∧
        second.denom = msg.externalAsset.symbol ∧ second.amount = msg.externalAssetAmount.val)) := by
  simp only [offeredCoins, Result.bind_ok] at offered
  obtain ⟨extInt, parseExt, nativeInt, parseNative, external, externalMade, one, oneAdded, native,
    nativeMade, bothAdded⟩ := offered
  obtain ⟨externalDenom, externalAmount⟩ := newCoin_parsed parseExt externalMade
  obtain ⟨nativeDenom, nativeAmount⟩ := newCoin_parsed parseNative nativeMade
  have apart : external.denom ≠ native.denom := by
    rw [externalDenom, nativeDenom]
    intro same
    exact different (congrArg Asset.mk same)
  cases oneAdded
  by_cases before : external.denom < native.denom
  · refine ⟨external, native, before, ?_, .inl ⟨externalDenom, externalAmount, nativeDenom,
      nativeAmount⟩⟩
    by_cases none : external.amount = 0
    · rw [removeZeroCoins_pair, removeZeroCoins_zero none] at *
      cases bothAdded
      rfl
    · rw [removeZeroCoins_pair, removeZeroCoins_positive none] at *
      simp only [Coins.add, if_pos before, removeZeroCoins_positive none] at bothAdded
      cases bothAdded
      rfl
  · have after : native.denom < external.denom := lt_of_le_of_ne (not_lt.mp before) apart.symm
    refine ⟨native, external, after, ?_, .inr ⟨nativeDenom, nativeAmount, externalDenom,
      externalAmount⟩⟩
    by_cases none : external.amount = 0
    · rw [removeZeroCoins_zero none] at bothAdded
      rw [removeZeroCoins_pair, removeZeroCoins_zero none, List.append_nil]
      cases bothAdded
      rfl
    · rw [removeZeroCoins_positive none] at bothAdded
      simp only [Coins.add, if_neg before, if_neg apart] at bothAdded
      cases bothAdded
      rfl

/-- The balance check on two amounts of which one may be zero: with one coin it panics unless the
coin is held. -/
theorem requireEitherBalance_neverPanics (some : first.amount ≠ 0 ∨ second.amount ≠ 0) :
    NeverPanics (state.requireEitherBalance signer (Coins.removeZeroCoins [first, second])) ↔
      (first.amount ≠ 0 ∧ second.amount ≠ 0) ∨
        (first.amount ≤ state.bank.balance signer first.denom ∧
          second.amount ≤ state.bank.balance signer second.denom) := by
  -- A list of one coin.
  have single : ∀ coin : Coin, NeverPanics (state.requireEitherBalance signer [coin]) ↔
      coin.amount ≤ state.bank.balance signer coin.denom := by
    intro coin
    change NeverPanics (if state.bank.hasBalance signer coin = true then pure ()
      else crash "index out of range [1]") ↔ _
    by_cases held : state.bank.hasBalance signer coin = true
    · rw [if_pos held]
      exact iff_of_true Result.Blames.pure (by simpa [Ledger.hasBalance] using held)
    · rw [if_neg held]
      exact iff_of_false not_neverPanics_crash (by simpa [Ledger.hasBalance] using held)
  rw [removeZeroCoins_pair]
  by_cases firstNone : first.amount = 0
  · have secondSome : second.amount ≠ 0 := some.resolve_left (not_not.mpr firstNone)
    rw [removeZeroCoins_zero firstNone, removeZeroCoins_positive secondSome, List.nil_append,
      single second]
    simp [firstNone]
  · by_cases secondNone : second.amount = 0
    · rw [removeZeroCoins_positive firstNone, removeZeroCoins_zero secondNone, List.append_nil,
        single first]
      simp [secondNone]
    · rw [removeZeroCoins_positive firstNone, removeZeroCoins_positive secondNone]
      refine iff_of_true ?_ (.inl ⟨firstNone, secondNone⟩)
      change NeverPanics (if state.bank.hasBalance signer first = true then pure ()
        else require (state.bank.hasBalance signer second = true) errBalanceNotAvailable)
      split
      · exact Result.Blames.pure
      · exact neverPanics_require

/-- The check passes when a coin is held. -/
theorem requireEitherBalance_ok {done : Unit} :
    state.requireEitherBalance signer (Coins.removeZeroCoins [first, second]) = .ok done ↔
      ∃ coin ∈ Coins.removeZeroCoins [first, second], state.bank.hasBalance signer coin = true := by
  have single : ∀ coin : Coin, state.requireEitherBalance signer [coin] = .ok done ↔
      ∃ other ∈ [coin], state.bank.hasBalance signer other = true := by
    intro coin
    simp only [List.mem_singleton, exists_eq_left]
    change (if state.bank.hasBalance signer coin = true then pure ()
      else crash "index out of range [1]") = .ok done ↔ _
    split <;> simp_all
  rw [removeZeroCoins_pair]
  by_cases firstNone : first.amount = 0
  · by_cases secondNone : second.amount = 0
    · rw [removeZeroCoins_zero firstNone, removeZeroCoins_zero secondNone]
      exact iff_of_false (fun same => by cases same) (by simp)
    · rw [removeZeroCoins_zero firstNone, removeZeroCoins_positive secondNone]
      exact single second
  · by_cases secondNone : second.amount = 0
    · rw [removeZeroCoins_positive firstNone, removeZeroCoins_zero secondNone]
      exact single first
    · rw [removeZeroCoins_positive firstNone, removeZeroCoins_positive secondNone]
      change (if state.bank.hasBalance signer first = true then pure ()
        else require (state.bank.hasBalance signer second = true) errBalanceNotAvailable) =
          .ok done ↔ _
      simp only [List.singleton_append, List.mem_cons, List.not_mem_nil, or_false,
        exists_eq_or_imp, exists_eq_left]
      split <;> simp_all

end Coins

section Records

/-- A sum panics exactly when it overflows. -/
theorem add_neverPanics {left right : Uint} :
    NeverPanics (left.add right) ↔ left.val + right.val < 2 ^ 256 := by
  unfold Uint.add Uint.ofNat
  split
  · rename_i fits
    exact iff_of_true Result.Blames.ok fits
  · rename_i large
    exact iff_of_false not_neverPanics_crash large

/-- Storing a pool panics exactly when the check of its asset does. -/
theorem setPool_neverPanics :
    NeverPanics (state.setPool pool) ↔ NeverPanics pool.externalAsset.validate := by
  rw [State.setPool, neverPanics_bind]
  refine and_iff_left fun valid _ => ?_
  exact neverPanics_bind.mpr ⟨neverPanics_require, fun _ _ => Result.Blames.pure⟩

/-- Storing a record panics exactly when the check of its asset does. -/
theorem setLiquidityProvider_neverPanics {lp : LiquidityProvider} :
    NeverPanics (state.setLiquidityProvider lp) ↔ NeverPanics lp.asset.validate := by
  rw [State.setLiquidityProvider, neverPanics_bind]
  refine and_iff_left fun valid _ => ?_
  split
  · exact Result.Blames.pure
  · exact Result.Blames.pure

/-- The stored assets validate without a panic and a record has room for the units issued. -/
structure RecordsCleanly (state : State) (msg : MsgAddLiquidity) (pool : Pool) (lpUnits : Uint) :
    Prop where
  stored : NeverPanics pool.externalAsset.validate
  units : ∀ lp, state.getLiquidityProvider msg.externalAsset.symbol msg.signer = some lp →
    lp.liquidityProviderUnits.val + lpUnits.val < 2 ^ 256
  record : ∀ lp, state.getLiquidityProvider msg.externalAsset.symbol msg.signer = some lp →
    pool.externalAsset.validate = .ok true → NeverPanics lp.asset.validate

/-- The last writes: the pool, then the record. -/
theorem stored_neverPanics {lp : LiquidityProvider} {written : Pool} :
    NeverPanics (do
      let state ← (state.setPool written).wrapping errUnableToSetPool
      state.setLiquidityProvider lp) ↔
      NeverPanics written.externalAsset.validate ∧
        (written.externalAsset.validate = .ok true → NeverPanics lp.asset.validate) := by
  rw [neverPanics_bind, neverPanics_wrapping, setPool_neverPanics]
  refine and_congr_right fun _ => ?_
  simp only [wrapping_ok, setPool_ok, setLiquidityProvider_neverPanics]
  constructor
  · intro later valid
    exact later _ ⟨valid, rfl⟩
  · rintro later next ⟨valid, -⟩
    exact later valid

/-- Recording a contribution panics exactly when a stored asset does not validate or the units
overflow. -/
theorem recordContribution_neverPanics (valid : msg.externalAsset.validate = .ok true)
    (native : pool.nativeAssetBalance.val + msg.nativeAssetAmount.val < 2 ^ 256)
    (external : pool.externalAssetBalance.val + msg.externalAssetAmount.val < 2 ^ 256) :
    NeverPanics (recordContribution env state msg pool newPoolUnits lpUnits signer) ↔
      RecordsCleanly state msg pool lpUnits := by
  have nativeSum : pool.nativeAssetBalance.add msg.nativeAssetAmount = .ok ⟨_, native⟩ :=
    Uint.add_ok.mpr rfl
  have externalSum : pool.externalAssetBalance.add msg.externalAssetAmount = .ok ⟨_, external⟩ :=
    Uint.add_ok.mpr rfl
  unfold recordContribution
  rw [nativeSum, externalSum]
  cases found : state.getLiquidityProvider msg.externalAsset.symbol msg.signer with
  | some lp =>
    change NeverPanics (lp.liquidityProviderUnits.add lpUnits >>= _) ↔ _
    rw [neverPanics_bind, add_neverPanics]
    constructor
    · rintro ⟨room, later⟩
      obtain ⟨stored, record⟩ := stored_neverPanics.mp (later ⟨_, room⟩ (Uint.add_ok.mpr rfl))
      refine ⟨stored, fun other same => ?_, fun other same => ?_⟩
      · cases found.symm.trans same
        exact room
      · cases found.symm.trans same
        exact record
    · intro clean
      refine ⟨clean.units lp found, fun total _ => ?_⟩
      exact stored_neverPanics.mpr ⟨clean.stored, clean.record lp found⟩
  | none =>
    -- A new record is of the message's asset, which validates, and starts with the units issued.
    have created : ∃ next, state.createLiquidityProvider env msg.externalAsset lpUnits signer =
        .ok (⟨msg.externalAsset, lpUnits, env.accAddressText signer⟩, next) := by
      unfold State.createLiquidityProvider State.setLiquidityProvider
      dsimp only
      rw [valid]
      exact ⟨_, rfl⟩
    obtain ⟨next, created⟩ := created
    rw [created]
    have total : lpUnits.add Uint.zero = .ok lpUnits := Uint.add_ok.mpr (Nat.add_zero _).symm
    change NeverPanics (lpUnits.add Uint.zero >>= _) ↔ _
    rw [total]
    constructor
    · intro clean
      obtain ⟨stored, -⟩ := stored_neverPanics.mp clean
      exact ⟨stored, fun other same => by simp [found] at same,
        fun other same => by simp [found] at same⟩
    · intro clean
      refine stored_neverPanics.mpr ⟨clean.stored, fun _ => ?_⟩
      rw [valid]
      exact Result.Blames.ok

end Records

section Keeper

/-- What keeps `Keeper.AddLiquidity` from a panic, for a signer and the coins of the message. -/
structure SettlesCleanly (env : Environment) (context : Context) (state : State)
    (msg : MsgAddLiquidity) (pool : Pool) (lpUnits : Uint) (signer : AccAddress) (coins : Coins) :
    Prop where
  /-- Both amounts are offered, or the signer holds the one that is. -/
  covered : (0 < msg.nativeAssetAmount.val ∧ 0 < msg.externalAssetAmount.val) ∨
    (msg.nativeAssetAmount.val ≤ state.bank.balance signer nativeSymbol ∧
      msg.externalAssetAmount.val ≤ state.bank.balance signer msg.externalAsset.symbol)
  /-- No more is locked of a coin than held. -/
  vested : (∃ coin ∈ coins, state.bank.hasBalance signer coin = true) →
    state.bank.DebitsCleanly context.locked signer coins
  /-- The module's balances have room for the coins. -/
  room : state.bank.Spendable context.locked signer coins →
    state.bank.HasRoom signer env.clpAddress coins
  /-- The pool and the record can be written. -/
  records : state.bank.Spendable context.locked signer coins → RecordsCleanly state msg pool lpUnits

/-- A message that passes has a valid external asset and brings something. -/
theorem validateBasic_ok {done : Unit} (valid : msg.validateBasic = .ok done) :
    msg.externalAsset.validate = .ok true ∧ msg.externalAsset ≠ Asset.settlement ∧
      (0 < msg.nativeAssetAmount.val ∨ 0 < msg.externalAssetAmount.val) := by
  simp only [MsgAddLiquidity.validateBasic, Result.bind_ok, requireAsset_ok, require_ok] at valid
  obtain ⟨-, -, -, asset, -, different, some⟩ := valid
  exact ⟨asset, different, some⟩

/-- A parsed amount of a valid denomination makes a coin. -/
theorem newCoin_neverPanics {denom : Denom} {value : Uint} {parsed : SInt}
    (denomValid : validDenom denom = true) (parse : parseToInt value = .ok parsed) :
    NeverPanics (Coin.newCoin denom parsed) := by
  have nonneg : 0 ≤ parsed.val := by
    rw [parseToInt_ok.mp parse]
    exact Int.natCast_nonneg _
  unfold Coin.newCoin
  rw [dif_pos denomValid, dif_pos nonneg]
  exact Result.Blames.ok

/-- The coins of a contribution are made without a panic. -/
theorem offeredCoins_neverPanics (valid : msg.externalAsset.validate = .ok true)
    (different : msg.externalAsset ≠ Asset.settlement) : NeverPanics (offeredCoins msg) := by
  unfold offeredCoins
  refine .bind neverPanics_present fun extInt parseExt => .bind neverPanics_present
    fun nativeInt parseNative => ?_
  refine .bind (newCoin_neverPanics (Asset.validDenom_of_validate valid) parseExt)
    fun external externalMade => .bind .ok fun one oneAdded => ?_
  refine .bind (newCoin_neverPanics (by decide) parseNative) fun native nativeMade => ?_
  cases oneAdded
  have apart : external.denom ≠ native.denom := by
    rw [(newCoin_parsed parseExt externalMade).1, (newCoin_parsed parseNative nativeMade).1]
    intro same
    exact different (congrArg Asset.mk same)
  by_cases none : external.amount = 0
  · rw [removeZeroCoins_zero none]
    exact .ok
  · rw [removeZeroCoins_positive none]
    unfold Coins.add
    split
    · exact .bind .ok fun _ _ => .pure
    · exact .pure

/-- The collection panics exactly when the send does. -/
theorem collect_neverPanics : NeverPanics (state.collect env context signer coins) ↔
    NeverPanics (state.bank.sendCoins context.locked signer env.clpAddress coins) := by
  unfold State.collect State.withBank
  rw [neverPanics_bind]
  exact and_iff_left fun _ _ => Result.Blames.pure

/-- A contribution whose coins are made goes through without a panic exactly when it settles
cleanly. -/
theorem settles_iff (valid : msg.validateBasic = .ok ()) (offered : offeredCoins msg = .ok coins)
    (native : pool.nativeAssetBalance.val + msg.nativeAssetAmount.val < 2 ^ 256)
    (external : pool.externalAssetBalance.val + msg.externalAssetAmount.val < 2 ^ 256) :
    NeverPanics (do
      state.requireEitherBalance signer coins
      let state ← state.collect env context signer coins
      recordContribution env state msg pool newPoolUnits lpUnits signer) ↔
    SettlesCleanly env context state msg pool lpUnits signer coins := by
  obtain ⟨asset, different, some⟩ := validateBasic_ok valid
  obtain ⟨first, second, ordered, rfl, amounts⟩ := offeredCoins_ok different offered
  have coinsValid := pair_valid ordered
  have either : first.amount ≠ 0 ∨ second.amount ≠ 0 := by
    rcases amounts with ⟨-, firstEq, -, secondEq⟩ | ⟨-, firstEq, -, secondEq⟩ <;> omega
  have covered_iff : ((first.amount ≠ 0 ∧ second.amount ≠ 0) ∨
      (first.amount ≤ state.bank.balance signer first.denom ∧
        second.amount ≤ state.bank.balance signer second.denom)) ↔
      (0 < msg.nativeAssetAmount.val ∧ 0 < msg.externalAssetAmount.val) ∨
        (msg.nativeAssetAmount.val ≤ state.bank.balance signer nativeSymbol ∧
          msg.externalAssetAmount.val ≤ state.bank.balance signer msg.externalAsset.symbol) := by
    rcases amounts with ⟨firstDenom, firstEq, secondDenom, secondEq⟩ |
      ⟨firstDenom, firstEq, secondDenom, secondEq⟩
    · rw [firstDenom, firstEq, secondDenom, secondEq]
      omega
    · rw [firstDenom, firstEq, secondDenom, secondEq]
      omega
  -- Spendable coins are held, and the list is not empty.
  have held : state.bank.Spendable context.locked signer (Coins.removeZeroCoins [first, second]) →
      ∃ coin ∈ Coins.removeZeroCoins [first, second], state.bank.hasBalance signer coin = true := by
    intro spendable
    have listed : ∃ coin, coin ∈ Coins.removeZeroCoins [first, second] := by
      rcases either with firstSome | secondSome
      · exact ⟨first, by simp [Coins.removeZeroCoins, firstSome]⟩
      · exact ⟨second, by simp [Coins.removeZeroCoins, secondSome]⟩
    obtain ⟨coin, listed⟩ := listed
    have enough := spendable coin listed
    refine ⟨coin, listed, ?_⟩
    unfold Ledger.hasBalance
    exact decide_eq_true (by omega)
  have written : ∀ bank, NeverPanics (recordContribution env { state with bank } msg pool
      newPoolUnits lpUnits signer) ↔ RecordsCleanly state msg pool lpUnits := by
    intro bank
    rw [recordContribution_neverPanics asset native external]
    exact ⟨fun clean => ⟨clean.stored, clean.units, clean.record⟩,
      fun clean => ⟨clean.stored, clean.units, clean.record⟩⟩
  rw [neverPanics_bind, requireEitherBalance_neverPanics either, covered_iff]
  simp only [requireEitherBalance_ok, neverPanics_bind, collect_neverPanics,
    Ledger.sendCoins_neverPanics coinsValid]
  constructor
  · rintro ⟨covered, later⟩
    refine ⟨covered, fun some => (later () some).1.1,
      fun spendable => (later () (held spendable)).1.2 spendable, fun spendable => ?_⟩
    obtain ⟨⟨-, room⟩, record⟩ := later () (held spendable)
    obtain ⟨bank, sent⟩ := (Ledger.sendCoins_succeeds coinsValid).mpr ⟨spendable, room spendable⟩
    refine (written bank).mp (record _ ?_)
    unfold State.collect State.withBank Ledger.sendCoinsFromAccountToModule
    exact Result.bind_ok.mpr ⟨bank, sent, rfl⟩
  · intro clean
    refine ⟨clean.covered, fun _ some => ⟨⟨clean.vested some, clean.room⟩, ?_⟩⟩
    intro next collected
    simp only [State.collect, State.withBank, Result.bind_ok, Result.pure_ok] at collected
    obtain ⟨bank, sent, rfl⟩ := collected
    obtain ⟨spendable, -⟩ := (Ledger.sendCoins_succeeds coinsValid).mp ⟨bank, sent⟩
    exact (written bank).mpr (clean.records spendable)

/-- The keeper panics on no contribution that settles cleanly, and only on others. -/
theorem addLiquidity_neverPanics (valid : msg.validateBasic = .ok ())
    (native : pool.nativeAssetBalance.val + msg.nativeAssetAmount.val < 2 ^ 256)
    (external : pool.externalAssetBalance.val + msg.externalAssetAmount.val < 2 ^ 256) :
    NeverPanics (state.addLiquidity env context msg pool newPoolUnits lpUnits) ↔
      ∀ signer coins, env.decode msg.signer = .ok signer → offeredCoins msg = .ok coins →
        SettlesCleanly env context state msg pool lpUnits signer coins := by
  obtain ⟨asset, different, -⟩ := validateBasic_ok valid
  rw [addLiquidity_eq, neverPanics_bind, and_iff_right (offeredCoins_neverPanics asset different)]
  constructor
  · intro clean signer coins decoded offered
    exact (settles_iff valid offered native external).mp
      ((neverPanics_bind.mp (clean coins offered)).2 signer decoded)
  · intro clean coins offered
    refine .bind neverPanics_present fun signer decoded => ?_
    exact (settles_iff valid offered native external).mpr (clean signer coins decoded offered)

end Keeper

section Handler

/-- A contribution that is listed, finds a pool and is issued units settles cleanly, and the factor
for the token's decimals is computed. -/
def AddsCleanly (env : Environment) (context : Context) (state : State) (msg : MsgAddLiquidity) :
    Prop :=
  ∀ entry pool, clpEntry context.registry msg.externalAsset.symbol = .ok entry →
    state.getPool msg.externalAsset.symbol = .ok pool →
    ∃ factor, getNormalizationFactor entry.decimals = .ok factor ∧
      ∀ units, calculatePoolUnits (State.contribution pool msg) factor.1 factor.2 = .ok units →
        ∀ signer coins, env.decode msg.signer = .ok signer → offeredCoins msg = .ok coins →
          SettlesCleanly env context state msg pool units.2 signer coins

/-- The scale of a token fails in no other way than by a panic. -/
theorem getNormalizationFactor_onlyPanics (decimals : Int) :
    OnlyPanics (getNormalizationFactor decimals) := by
  unfold getNormalizationFactor
  split
  · exact .ok
  · split
    · exact .bind (Dec.power_onlyPanics _ _) fun _ _ => .pure
    · exact .bind (Dec.power_onlyPanics _ _) fun _ _ => .pure

/-- Amounts below the limit of the units do not overflow the reserves. -/
theorem UnitsBelow.sums {decimals : Int}
    (fit : UnitsBelow (10 ^ 31) decimals (State.contribution pool msg)) :
    pool.nativeAssetBalance.val + msg.nativeAssetAmount.val < 2 ^ 256 ∧
      pool.externalAssetBalance.val + msg.externalAssetAmount.val < 2 ^ 256 := by
  have small : (10 : Nat) ^ 31 + 10 ^ 31 < 2 ^ 256 := by norm_num
  have nativePositive := nativeScale_pos decimals
  have externalPositive := externalScale_pos decimals
  have native := (Nat.le_mul_of_pos_right _ nativePositive).trans_lt fit.nativeAssetBalance
  have addedNative := (Nat.le_mul_of_pos_right _ nativePositive).trans_lt fit.nativeAssetAmount
  have external := (Nat.le_mul_of_pos_right _ externalPositive).trans_lt fit.externalAssetBalance
  have addedExternal := (Nat.le_mul_of_pos_right _ externalPositive).trans_lt
    fit.externalAssetAmount
  exact ⟨(Nat.add_lt_add native addedNative).trans small,
    (Nat.add_lt_add external addedExternal).trans small⟩

/-- The part of the handler after the registry and the pool are read. -/
theorem contribution_neverPanics {decimals : Int} (valid : msg.validateBasic = .ok ())
    (fit : UnitsBelow (10 ^ 31) decimals (State.contribution pool msg)) :
    NeverPanics (do
      let (normalizationFactor, adjustExternalToken) ← getNormalizationFactor decimals
      let (newPoolUnits, lpUnits) ←
        calculatePoolUnits (State.contribution pool msg) normalizationFactor adjustExternalToken
      (state.addLiquidity env context msg pool newPoolUnits lpUnits).wrapping
        errUnableToAddLiquidity) ↔
      ∃ factor, getNormalizationFactor decimals = .ok factor ∧
        ∀ units, calculatePoolUnits (State.contribution pool msg) factor.1 factor.2 = .ok units →
          ∀ signer coins, env.decode msg.signer = .ok signer → offeredCoins msg = .ok coins →
            SettlesCleanly env context state msg pool units.2 signer coins := by
  obtain ⟨native, external⟩ := fit.sums
  rw [neverPanics_bind, (getNormalizationFactor_onlyPanics decimals).neverPanics_iff]
  constructor
  · rintro ⟨⟨factor, normalization⟩, later⟩
    refine ⟨factor, normalization, fun units computed => ?_⟩
    have added := (neverPanics_bind.mp (later factor normalization)).2 units computed
    exact (addLiquidity_neverPanics valid native external).mp (neverPanics_wrapping.mp added)
  · rintro ⟨factor, normalization, clean⟩
    refine ⟨⟨factor, normalization⟩, fun other same => ?_⟩
    cases normalization.symm.trans same
    refine .bind (calculatePoolUnits_neverPanics fit normalization) fun units computed => ?_
    exact neverPanics_wrapping.mpr
      ((addLiquidity_neverPanics valid native external).mpr (clean units computed))

/-- A contribution of amounts that fit is added or refused with an error when and only when it adds
cleanly. -/
theorem contribution_clean_iff (valid : msg.validateBasic = .ok ())
    (fit : ∀ entry pool, clpEntry context.registry msg.externalAsset.symbol = .ok entry →
      state.getPool msg.externalAsset.symbol = .ok pool →
      UnitsBelow (10 ^ 31) entry.decimals (State.contribution pool msg)) :
    NeverPanics (state.handleAddLiquidity env context msg) ↔ AddsCleanly env context state msg := by
  have listed : NeverPanics (clpEntry context.registry msg.externalAsset.symbol) :=
    .bind (neverPanics_replacing.mpr neverPanics_present) fun _ _ =>
      .bind neverPanics_require fun _ _ => .pure
  unfold State.handleAddLiquidity AddsCleanly
  rw [neverPanics_bind, and_iff_right listed]
  constructor
  · intro clean entry pool found stored
    have later := neverPanics_bind.mp (clean entry found)
    exact (contribution_neverPanics valid (fit entry pool found stored)).mp (later.2 pool stored)
  · intro clean entry found
    refine .bind neverPanics_present fun pool stored => ?_
    exact (contribution_neverPanics valid (fit entry pool found stored)).mpr
      (clean entry pool found stored)

end Handler

section Sample

/-- The state once a pool of even reserves is open. -/
def evenState : State := run (deliver pairEnvironment) pairState [openEven]

/-- A pool of equal reserves and units. -/
def evenPool : Pool := ⟨token, amount (10 ^ 18), amount (10 ^ 18), amount (10 ^ 18)⟩

/-- A contribution of the external token only. -/
def externalOnly (external : Nat) : MsgAddLiquidity := ⟨bobText, token, amount 0, amount external⟩

/-- A contribution of one token that the signer holds is clean. -/
theorem held_token_clean : NeverPanics
      (evenState.handleAddLiquidity pairEnvironment openContext (externalOnly (10 ^ 16))) ∧
    AddsCleanly pairEnvironment openContext evenState (externalOnly (10 ^ 16)) := by
  have clean : NeverPanics
      (evenState.handleAddLiquidity pairEnvironment openContext (externalOnly (10 ^ 16))) :=
    neverPanics_iff.mpr (by decide +kernel)
  have listed : clpEntry openContext.registry token.symbol = .ok ⟨"cdai", 18, [.clp], "cdai"⟩ := by
    decide +kernel
  have pooled : evenState.getPool token.symbol = .ok evenPool := by decide +kernel
  refine ⟨clean, (contribution_clean_iff (by decide +kernel) ?_).mp clean⟩
  intro entry pool found stored
  cases listed.symm.trans found
  cases pooled.symm.trans stored
  exact ⟨by decide, by decide, by decide, by decide, by decide⟩

/-- The signer has 10^24 of the token and offers ten times as much, with no native coin: the check
looks for a second coin. -/
theorem second_coin_missing : (externalOnly (10 ^ 25)).validateBasic = .ok () ∧
    evenState.getPool token.symbol = .ok evenPool ∧
    UnitsBelow (10 ^ 31) 18 (State.contribution evenPool (externalOnly (10 ^ 25))) ∧
    evenState.bank.balance bobAddress token.symbol = 10 ^ 24 ∧
    (evenState.handleAddLiquidity pairEnvironment openContext (externalOnly (10 ^ 25))).panicReason =
      some "index out of range [1]" ∧
    ¬NeverPanics
      (evenState.handleAddLiquidity pairEnvironment openContext (externalOnly (10 ^ 25))) := by
  have reason : (evenState.handleAddLiquidity pairEnvironment openContext
      (externalOnly (10 ^ 25))).panicReason = some "index out of range [1]" := by decide +kernel
  refine ⟨by decide +kernel, by decide +kernel, ?_, by decide +kernel, reason, ?_⟩
  · exact ⟨by decide, by decide, by decide, by decide, by decide⟩
  · rw [neverPanics_iff, reason]
    exact Option.some_ne_none _

end Sample

end Akhira.Verif.Clp
