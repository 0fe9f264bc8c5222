import Akhira.Clp.MsgServer

/-!
# What the keeper calls do

One lemma for each keeper call says what its success leaves in the state: which record
is written, and how the balances of the module account change. Later proofs about the
handlers use these and never unfold a keeper call.
-/
namespace Akhira.Verif.Clp

open Akhira.Base Akhira.Sdk Akhira.Clp

variable {env : Environment} {context : Context} {state next : State}

/-- The balance of the clp module account. -/
def held (env : Environment) (state : State) (denom : Denom) : Nat :=
  state.bank.balance env.clpAddress denom

/-- A parsed amount is the number. -/
theorem parseToInt_ok {value : Uint} {result : SInt} :
    parseToInt value = .ok result ↔ result.val = value.val := by
  rw [parseToInt, Outcome.present_ok, SInt.ofText_some]

/-- A coin of a parsed amount has that amount. -/
theorem newCoin_parsed {value : Uint} {parsed : SInt} {denom : Denom} {coin : Coin}
    (parse : parseToInt value = .ok parsed) (made : Coin.newCoin denom parsed = .ok coin) :
    coin.denom = denom ∧ coin.amount = value.val := by
  obtain ⟨sameDenom, sameAmount⟩ := Coin.newCoin_ok made
  rw [parseToInt_ok.mp parse] at sameAmount
  exact ⟨sameDenom, by exact_mod_cast sameAmount⟩

/-- A stored pool is found under its symbol. -/
theorem getPool_ok {symbol : String} {pool : Pool} :
    state.getPool symbol = .ok pool ↔ state.pools.get (poolKey symbol) = some pool := by
  rw [State.getPool, Outcome.present_ok]

/-- A written pool is valid and stored under its own symbol. -/
theorem setPool_ok {pool : Pool} :
    state.setPool pool = .ok next ↔ pool.externalAsset.validate = .ok true ∧
      next = { state with pools := state.pools.set (poolKey pool.externalAsset.symbol) pool } := by
  simp only [State.setPool, Result.bind_ok, Outcome.require_ok, Result.pure_ok]
  constructor
  · rintro ⟨valid, checked, -, rfl, rfl⟩
    exact ⟨checked, rfl⟩
  · rintro ⟨checked, rfl⟩
    exact ⟨true, checked, (), rfl, rfl⟩

/-- The records after `SetLiquidityProvider`, which drops an invalid record in silence. -/
def putRecord (providers : Store String LiquidityProvider) (lp : LiquidityProvider) :
    Store String LiquidityProvider :=
  if lp.asset.validate = .ok true then
    providers.set (getLiquidityProviderKey lp.asset.symbol lp.liquidityProviderAddress) lp
  else providers

/-- A second record of the same asset and address replaces the first. -/
theorem putRecord_twice (providers : Store String LiquidityProvider) (asset : Asset)
    (first second : Uint) (address : String) :
    putRecord (putRecord providers ⟨asset, first, address⟩) ⟨asset, second, address⟩ =
      putRecord providers ⟨asset, second, address⟩ := by
  unfold putRecord
  split
  · exact Store.set_set ..
  · rfl

/-- Writing a record changes the records only. -/
theorem setLiquidityProvider_ok {lp : LiquidityProvider}
    (written : state.setLiquidityProvider lp = .ok next) :
    next = { state with providers := putRecord state.providers lp } := by
  simp only [State.setLiquidityProvider, Result.bind_ok] at written
  obtain ⟨valid, checked, stored⟩ := written
  unfold putRecord
  cases valid with
  | true =>
    rw [if_pos checked]
    exact (Result.pure_ok.mp stored).symm
  | false =>
    rw [if_neg (by rw [checked]; simp)]
    exact (Result.pure_ok.mp stored).symm

/-- A created record is stored under the address's own text. -/
theorem createLiquidityProvider_ok {asset : Asset} {lpUnits : Uint} {address : AccAddress}
    {created : LiquidityProvider × State}
    (stored : state.createLiquidityProvider env asset lpUnits address = .ok created) :
    created.1 = ⟨asset, lpUnits, env.accAddressText address⟩ ∧
      created.2 = { state with
        providers := putRecord state.providers ⟨asset, lpUnits, env.accAddressText address⟩ } := by
  simp only [State.createLiquidityProvider, Result.bind_ok, Result.pure_ok] at stored
  obtain ⟨later, written, rfl⟩ := stored
  exact ⟨rfl, setLiquidityProvider_ok written⟩

/-- A decoded address is what the text stands for. -/
theorem decode_ok {text : String} {address : AccAddress} :
    env.decode text = .ok address ↔ env.accAddressFromBech32 text = some address := by
  rw [Chain.decode, Outcome.present_ok]

/-- Collecting coins changes the balances only, and the module gains the coins. -/
theorem collect_ok {sender : AccAddress} {coins : Coins} (outside : sender ≠ env.clpAddress)
    (collected : state.collect env context sender coins = .ok next) :
    next = { state with bank := next.bank } ∧
      ∀ denom, held env next denom = held env state denom + coins.amountOf denom := by
  simp only [State.collect, State.withBank, Result.bind_ok, Result.pure_ok] at collected
  obtain ⟨bank, sent, rfl⟩ := collected
  exact ⟨rfl, fun denom => Ledger.toModule_ok outside sent denom⟩

/-- Paying coins changes the balances only, and the module loses at most the coins. -/
theorem pay_ok {recipient : AccAddress} {coins : Coins}
    (paid : state.pay env context recipient coins = .ok next) :
    next = { state with bank := next.bank } ∧
      ∀ denom, held env state denom ≤ held env next denom + coins.amountOf denom := by
  simp only [State.pay, State.withBank, Result.bind_ok, Result.pure_ok] at paid
  obtain ⟨bank, sent, rfl⟩ := paid
  exact ⟨rfl, fun denom => Ledger.fromModule_ok sent denom⟩

/-- The amounts of a pair of coins, one external and one native. -/
def pairAmount (symbol : String) (external native : Nat) (denom : Denom) : Nat :=
  (if symbol = denom then external else 0) + if nativeSymbol = denom then native else 0

/-- A set made of an external and a native coin holds the pair. -/
theorem newCoins_pair {external native : Coin} {coins : Coins} {symbol : String}
    (externalDenom : external.denom = symbol) (nativeDenom : native.denom = nativeSymbol)
    (made : Coins.newCoins [external, native] = .ok coins) (denom : Denom) :
    coins.amountOf denom = pairAmount symbol external.amount native.amount denom := by
  rw [(Coins.newCoins_ok made).2]
  simp [pairAmount, externalDenom, nativeDenom]

/-- Adding an external and a native coin to no coins gives the pair. -/
theorem add_pair {external native : Coin} {first coins : Coins} {symbol : String}
    (externalDenom : external.denom = symbol) (nativeDenom : native.denom = nativeSymbol)
    (externalAdded : Coins.add [] external = .ok first)
    (nativeAdded : first.add native = .ok coins) (denom : Denom) :
    coins.amountOf denom = pairAmount symbol external.amount native.amount denom := by
  rw [Coins.add_ok nativeAdded, Coins.add_ok externalAdded]
  simp [pairAmount, externalDenom, nativeDenom]

/-- The keeper's `CreatePool` stores the pool and collects its reserves. -/
theorem createPool_ok {poolUnits : Uint} {msg : MsgCreatePool} {signer : AccAddress}
    (signed : env.accAddressFromBech32 msg.signer = some signer)
    (outside : signer ≠ env.clpAddress)
    (created : state.createPool env context poolUnits msg = .ok next) :
    msg.externalAsset.validate = .ok true ∧
      next = { state with
        pools := state.pools.set (poolKey msg.externalAsset.symbol)
          ⟨msg.externalAsset, msg.nativeAssetAmount, msg.externalAssetAmount, poolUnits⟩
        bank := next.bank } ∧
      ∀ denom, held env next denom = held env state denom + pairAmount msg.externalAsset.symbol
        msg.externalAssetAmount.val msg.nativeAssetAmount.val denom := by
  simp only [State.createPool, Result.bind_ok, Outcome.wrapping_ok, decode_ok, signed,
    Option.some.injEq, setPool_ok] at created
  obtain ⟨extInt, parseExt, nativeInt, parseNative, addr, rfl, external, externalMade, native,
    nativeMade, -, -, coins, coinsMade, middle, collected, valid, rfl⟩ := created
  obtain ⟨externalDenom, externalAmount⟩ := newCoin_parsed parseExt externalMade
  obtain ⟨nativeDenom, nativeAmount⟩ := newCoin_parsed parseNative nativeMade
  obtain ⟨frame, gained⟩ := collect_ok outside collected
  refine ⟨valid, by rw [frame], fun denom => ?_⟩
  have grown := gained denom
  rw [newCoins_pair externalDenom nativeDenom coinsMade, externalAmount, nativeAmount] at grown
  exact grown

/-- The pool after a contribution. -/
def contributed (pool : Pool) (newPoolUnits nativeTotal externalTotal : Uint) : Pool :=
  { pool with
    poolUnits := newPoolUnits
    nativeAssetBalance := nativeTotal
    externalAssetBalance := externalTotal }

/-- The record a contribution writes: the one found under the signer's text grows, and a new one
is written under the address's own text when none was found. -/
def contributor (env : Environment) (state : State) (msg : MsgAddLiquidity) (signer : AccAddress)
    (lpUnits : Uint) : Outcome LiquidityProvider :=
  match state.getLiquidityProvider msg.externalAsset.symbol msg.signer with
  | some lp => do
    let liquidityProviderUnits ← lp.liquidityProviderUnits.add lpUnits
    pure { lp with liquidityProviderUnits }
  | none => .ok ⟨msg.externalAsset, lpUnits, env.accAddressText signer⟩

/-- The keeper's `AddLiquidity` grows the pool, collects the coins and writes one record. -/
theorem addLiquidity_ok {msg : MsgAddLiquidity} {pool : Pool} {newPoolUnits lpUnits : Uint}
    {signer : AccAddress} (signed : env.accAddressFromBech32 msg.signer = some signer)
    (outside : signer ≠ env.clpAddress)
    (added : state.addLiquidity env context msg pool newPoolUnits lpUnits = .ok next) :
    ∃ nativeTotal externalTotal lp,
      nativeTotal.val = pool.nativeAssetBalance.val + msg.nativeAssetAmount.val ∧
      externalTotal.val = pool.externalAssetBalance.val + msg.externalAssetAmount.val ∧
      contributor env state msg signer lpUnits = .ok lp ∧
      next = { state with
        pools := state.pools.set (poolKey pool.externalAsset.symbol)
          (contributed pool newPoolUnits nativeTotal externalTotal)
        providers := putRecord state.providers lp
        bank := next.bank } ∧
      ∀ denom, held env next denom = held env state denom + pairAmount msg.externalAsset.symbol
        msg.externalAssetAmount.val msg.nativeAssetAmount.val denom := by
  simp only [State.addLiquidity, Result.bind_ok, Outcome.wrapping_ok, decode_ok, signed,
    Option.some.injEq, setPool_ok, Uint.add_ok] at added
  obtain ⟨extInt, parseExt, nativeInt, parseNative, external, externalMade, first, firstAdded,
    native, nativeMade, coins, coinsAdded, addr, rfl, -, -, middle, collected, nativeTotal,
    nativeSum, externalTotal, externalSum, ⟨lp, units, later⟩, chosen, total, totalSum, stored,
    ⟨poolValid, rfl⟩, written⟩ := added
  obtain ⟨externalDenom, externalAmount⟩ := newCoin_parsed parseExt externalMade
  obtain ⟨nativeDenom, nativeAmount⟩ := newCoin_parsed parseNative nativeMade
  obtain ⟨frame, gained⟩ := collect_ok outside collected
  have grown : ∀ denom, held env middle denom = held env state denom +
      pairAmount msg.externalAsset.symbol msg.externalAssetAmount.val msg.nativeAssetAmount.val
        denom := by
    intro denom
    rw [gained denom, add_pair externalDenom nativeDenom firstAdded coinsAdded, externalAmount,
      nativeAmount]
  rw [frame] at chosen
  change (match state.getLiquidityProvider msg.externalAsset.symbol msg.signer with
    | some lp => _ | none => _) = _ at chosen
  cases found : state.getLiquidityProvider msg.externalAsset.symbol msg.signer with
  | some record =>
    simp only [found, Result.pure_ok, Prod.mk.injEq] at chosen
    obtain ⟨rfl, rfl, rfl⟩ := chosen
    dsimp only at written
    let grownRecord : LiquidityProvider := { record with liquidityProviderUnits := total }
    have written := setLiquidityProvider_ok written
    refine ⟨nativeTotal, externalTotal, grownRecord, nativeSum, externalSum, ?_, ?_, ?_⟩
    · simp only [contributor, found, Result.bind_ok, Uint.add_ok, Result.pure_ok]
      exact ⟨total, totalSum, rfl⟩
    · rw [written]
      rfl
    · rw [written]
      exact grown
  | none =>
    simp only [found, Result.bind_ok, Result.pure_ok, Prod.mk.injEq] at chosen
    obtain ⟨created, stored, rfl, rfl, rfl⟩ := chosen
    obtain ⟨record, after⟩ := createLiquidityProvider_ok stored
    rw [record] at totalSum
    rw [record, after] at written
    dsimp only at written
    rw [Uint.zero_val, Nat.add_zero] at totalSum
    have sameUnits : total = lpUnits := Uint.ext_val totalSum
    subst sameUnits
    let newRecord : LiquidityProvider := ⟨msg.externalAsset, total, env.accAddressText signer⟩
    have written := setLiquidityProvider_ok written
    dsimp only at written
    rw [putRecord_twice] at written
    refine ⟨nativeTotal, externalTotal, newRecord, nativeSum, externalSum, ?_, ?_, ?_⟩
    · simp only [contributor, found, newRecord]
    · rw [written]
      rfl
    · rw [written]
      exact grown

/-- Paying a provider out drops the record and costs the module at most the coins. -/
theorem removeLiquidityProvider_ok {coins : Coins} {lp : LiquidityProvider}
    (removed : state.removeLiquidityProvider env context coins lp = .ok next) :
    next = { state with
      providers := state.providers.delete
        (getLiquidityProviderKey lp.asset.symbol lp.liquidityProviderAddress)
      bank := next.bank } ∧
      ∀ denom, held env state denom ≤ held env next denom + coins.amountOf denom := by
  simp only [State.removeLiquidityProvider, Result.bind_ok, Outcome.wrapping_ok,
    Result.pure_ok] at removed
  obtain ⟨lpAddr, -, middle, paid, rfl⟩ := removed
  obtain ⟨frame, lost⟩ := pay_ok paid
  refine ⟨?_, lost⟩
  rw [frame]
  rfl

/-- The provider records after a withdrawal. -/
def withdrawn (providers : Store String LiquidityProvider) (lp : LiquidityProvider)
    (lpUnitsLeft : Uint) : Store String LiquidityProvider :=
  if lpUnitsLeft.isZero then
    providers.delete (getLiquidityProviderKey lp.asset.symbol lp.liquidityProviderAddress)
  else putRecord providers { lp with liquidityProviderUnits := lpUnitsLeft }

/-- The keeper's `RemoveLiquidity` writes the pool, rewrites or drops the record and pays the two
coins. -/
theorem removeLiquidity_ok {pool : Pool} {external native : Coin} {lp : LiquidityProvider}
    {lpUnitsLeft poolOriginalEB poolOriginalNB : Uint} {symbol : String}
    (externalDenom : external.denom = symbol) (nativeDenom : native.denom = nativeSymbol)
    (removed : state.removeLiquidity env context pool external native lp lpUnitsLeft
      poolOriginalEB poolOriginalNB = .ok next) :
    external.amount < poolOriginalEB.val ∧ native.amount < poolOriginalNB.val ∧
      next = { state with
        pools := state.pools.set (poolKey pool.externalAsset.symbol) pool
        providers := withdrawn state.providers lp lpUnitsLeft
        bank := next.bank } ∧
      ∀ denom, held env state denom ≤
        held env next denom + pairAmount symbol external.amount native.amount denom := by
  simp only [State.removeLiquidity, Result.bind_ok, Outcome.wrapping_ok, Outcome.require_ok,
    setPool_ok] at removed
  obtain ⟨lpAddr, -, first, firstAdded, coins, coinsAdded, -, ⟨externalLow, nativeLow⟩, stored,
    ⟨-, rfl⟩, later, paid, written⟩ := removed
  have payment : later = { state with
      pools := state.pools.set (poolKey pool.externalAsset.symbol) pool
      bank := later.bank } ∧
      ∀ denom, held env state denom ≤ held env later denom + coins.amountOf denom := by
    split at paid
    · cases paid
      exact ⟨rfl, fun denom => Nat.le_add_right _ _⟩
    · simp only [Result.bind_ok] at paid
      obtain ⟨-, -, paid⟩ := paid
      exact pay_ok paid
  obtain ⟨frame, lost⟩ := payment
  have amounts := add_pair externalDenom nativeDenom firstAdded coinsAdded
  have record : next = { later with providers := withdrawn later.providers lp lpUnitsLeft } := by
    unfold withdrawn
    split at written
    · rename_i zero
      cases written
      rw [if_pos zero]
      rfl
    · rename_i positive
      rw [if_neg positive]
      exact setLiquidityProvider_ok written
  refine ⟨externalLow, nativeLow, ?_, fun denom => ?_⟩
  · rw [record, frame]
  · rw [← amounts denom, record]
    exact lost denom

/-- The keeper's `InitiateSwap` collects the coin sold. -/
theorem initiateSwap_ok {sentCoin : Coin} {swapper : AccAddress}
    (outside : swapper ≠ env.clpAddress)
    (initiated : state.initiateSwap env context sentCoin swapper = .ok next) :
    next = { state with bank := next.bank } ∧ ∀ denom, held env next denom =
      held env state denom + if sentCoin.denom = denom then sentCoin.amount else 0 := by
  simp only [State.initiateSwap, Result.bind_ok] at initiated
  obtain ⟨-, -, coins, coinsMade, collected⟩ := initiated
  obtain ⟨frame, gained⟩ := collect_ok outside collected
  refine ⟨frame, fun denom => ?_⟩
  rw [gained denom, (Coins.newCoins_ok coinsMade).2]
  simp

/-- The keeper's `FinalizeSwap` writes the pool and pays the amount bought. -/
theorem finalizeSwap_ok {emitAmount : Uint} {finalPool : Pool} {msg : MsgSwap}
    (finalized : state.finalizeSwap env context emitAmount finalPool msg = .ok next) :
    next = { state with
      pools := state.pools.set (poolKey finalPool.externalAsset.symbol) finalPool
      bank := next.bank } ∧ ∀ denom, held env state denom ≤
      held env next denom + if msg.receivedAsset.symbol = denom then emitAmount.val else 0 := by
  simp only [State.finalizeSwap, Result.bind_ok, Outcome.wrapping_ok, setPool_ok] at finalized
  obtain ⟨stored, ⟨-, rfl⟩, parsed, parse, addr, -, coin, coinMade, coins, coinsMade, paid⟩ :=
    finalized
  obtain ⟨coinDenom, coinAmount⟩ := newCoin_parsed parse coinMade
  obtain ⟨frame, lost⟩ := pay_ok paid
  refine ⟨frame, fun denom => ?_⟩
  have bound := lost denom
  rw [(Coins.newCoins_ok coinsMade).2, Coins.amountOf_cons, Coins.amountOf_nil, Nat.add_zero,
    coinDenom, coinAmount] at bound
  exact bound

/-- Destroying a pool drops it. -/
theorem destroyPool_ok {symbol : String} (destroyed : state.destroyPool symbol = .ok next) :
    next = { state with pools := state.pools.delete (poolKey symbol) } := by
  simp only [State.destroyPool, Result.bind_ok, Result.pure_ok] at destroyed
  obtain ⟨pool, -, rfl⟩ := destroyed
  rfl

end Akhira.Verif.Clp
