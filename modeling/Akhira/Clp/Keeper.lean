import Akhira.Clp.Calculations

/-!
# The clp keeper

The clp store with the bank it moves coins in, the reads and writes of its records, and
the executors the message server calls. A write returns the new state, so an executor
that fails leaves the state of its caller untouched. The keeper asks for a page of records
with the highest limit, and takes what the loop of the SDK hands over: the number behind the
last record wraps to zero, so a first record of another asset ends the page.
-/
namespace Akhira.Clp

open Akhira.Base Akhira.Sdk Akhira.TokenRegistry

/-- What the clp module takes from its surroundings. -/
structure Environment extends Chain

/-- What a message finds besides the clp store and the balances. -/
structure Context where
  /-- The token registry. -/
  registry : Registry
  /-- The amounts still vesting. -/
  locked : Locked

/-- The loop of `query.FilteredPaginate`, as cosmos-sdk v0.43.0 has it, for a request without a key
that does not count the total. Its numbers have 64 bits. -/
def filteredPaginate {α : Type} (offset limit : UInt64) (onResult : α → Bool) :
    UInt64 → List α → List α
  | _, [] => []
  | numHits, value :: rest =>
    let hit := onResult value
    let page := if hit ∧ offset ≤ numHits ∧ numHits < offset + limit then [value] else []
    let numHits := if hit then numHits + 1 else numHits
    -- the next page begins here
    if numHits = offset + limit + 1 then page
    else page ++ filteredPaginate offset limit onResult numHits rest

/-- The clp store and the bank. -/
structure State where
  /-- The pools by key. -/
  pools : Store String Pool
  /-- The provider records by key. -/
  providers : Store String LiquidityProvider
  /-- The address texts of the clp administrators, when set. -/
  whiteList : Option (List String)
  /-- The balances. -/
  bank : Ledger

/-- The key of the pool of a symbol. -/
def poolKey (symbol : String) : String := getPoolKey symbol Asset.settlement.symbol

/-- The address of the clp module account, `GetCLPModuleAddress`. -/
def Environment.clpAddress (env : Environment) : AccAddress := env.moduleAddress moduleName

/-- `ParseToInt` of a `Uint`'s text. -/
def parseToInt (value : Uint) : Outcome SInt :=
  Outcome.present (SInt.ofText value.val) (.error errUnableToParseInt)

namespace State

/-- `SetPool`. -/
def setPool (state : State) (pool : Pool) : Outcome State := do
  let valid ← pool.externalAsset.validate
  Outcome.require (valid = true) errUnableToSetPool
  pure { state with pools := state.pools.set (poolKey pool.externalAsset.symbol) pool }

/-- `GetPool`. -/
def getPool (state : State) (symbol : String) : Outcome Pool :=
  Outcome.present (state.pools.get (poolKey symbol)) (.error errPoolDoesNotExist)

/-- `ExistsPool`. -/
def existsPool (state : State) (symbol : String) : Bool := state.pools.has (poolKey symbol)

/-- `DestroyPool`. -/
def destroyPool (state : State) (symbol : String) : Outcome State := do
  let _ ← state.getPool symbol
  pure { state with pools := state.pools.delete (poolKey symbol) }

/-- `SetLiquidityProvider`: an invalid record is dropped in silence. -/
def setLiquidityProvider (state : State) (lp : LiquidityProvider) : Outcome State := do
  let valid ← lp.asset.validate
  if valid then
    let key := getLiquidityProviderKey lp.asset.symbol lp.liquidityProviderAddress
    pure { state with providers := state.providers.set key lp }
  else pure state

/-- `GetLiquidityProvider`. -/
def getLiquidityProvider (state : State) (symbol lpAddress : String) : Option LiquidityProvider :=
  state.providers.get (getLiquidityProviderKey symbol lpAddress)

/-- `DestroyLiquidityProvider`. -/
def destroyLiquidityProvider (state : State) (symbol lpAddress : String) : State :=
  { state with providers := state.providers.delete (getLiquidityProviderKey symbol lpAddress) }

/-- `GetLiquidityProvidersForAssetPaginated` with the limit `math.MaxUint64`. -/
def getLiquidityProvidersForAsset (state : State) (asset : Asset) : List LiquidityProvider :=
  filteredPaginate 0 0xFFFFFFFFFFFFFFFF (fun lp => lp.asset = asset) 0 state.providers.values

/-- `ValidateAddress`: the address is an administrator. A stored text that does not decode panics. -/
def validateAddress (env : Environment) (state : State) (address : AccAddress) : Outcome Bool :=
  match state.whiteList with
  | none => .ok false
  | some entries => do
    let administrators ← entries.mapM fun entry =>
      Outcome.present (env.accAddressFromBech32 entry) (.panic "decoding bech32 failed")
    pure (administrators.contains address)

/-- Replace the balances by what a bank call leaves. -/
def withBank (state : State) (call : Outcome Ledger) : Outcome State := do
  let bank ← call
  pure { state with bank }

/-- Take coins from an account into the module. -/
def collect (env : Environment) (context : Context) (state : State) (sender : AccAddress)
    (coins : Coins) : Outcome State :=
  state.withBank
    (state.bank.sendCoinsFromAccountToModule env.toChain context.locked sender moduleName coins)

/-- Pay coins of the module to an account. -/
def pay (env : Environment) (context : Context) (state : State) (recipient : AccAddress)
    (coins : Coins) : Outcome State :=
  state.withBank
    (state.bank.sendCoinsFromModuleToAccount env.toChain context.locked moduleName recipient coins)

/-- `Keeper.CreatePool`. -/
def createPool (env : Environment) (context : Context) (state : State) (poolUnits : Uint)
    (msg : MsgCreatePool) : Outcome State := do
  let extInt ← parseToInt msg.externalAssetAmount
  let nativeInt ← parseToInt msg.nativeAssetAmount
  let addr ← env.decode msg.signer
  let externalAssetCoin ← Coin.newCoin msg.externalAsset.symbol extInt
  let nativeAssetCoin ← Coin.newCoin Asset.settlement.symbol nativeInt
  Outcome.require (state.bank.hasBalance addr externalAssetCoin = true ∨
    state.bank.hasBalance addr nativeAssetCoin = true) errBalanceNotAvailable
  let pool : Pool :=
    ⟨msg.externalAsset, msg.nativeAssetAmount, msg.externalAssetAmount, poolUnits⟩
  let coins ← Coins.newCoins [externalAssetCoin, nativeAssetCoin]
  let state ← state.collect env context addr coins
  (state.setPool pool).wrapping errUnableToSetPool

/-- `CreateLiquidityProvider`: store a record under the address's own text. -/
def createLiquidityProvider (env : Environment) (state : State) (asset : Asset) (lpUnits : Uint)
    (lpAddress : AccAddress) : Outcome (LiquidityProvider × State) := do
  let lp : LiquidityProvider := ⟨asset, lpUnits, env.accAddressText lpAddress⟩
  let state ← state.setLiquidityProvider lp
  pure (lp, state)

/-- The balance check of `Keeper.AddLiquidity`: the second coin is looked at only when the first
is not covered, and a list without it panics. -/
def requireEitherBalance (state : State) (address : AccAddress) (coins : Coins) : Outcome Unit := do
  let first ← Outcome.present coins[0]? (.panic "index out of range [0]")
  if state.bank.hasBalance address first then pure ()
  else do
    let second ← Outcome.present coins[1]? (.panic "index out of range [1]")
    Outcome.require (state.bank.hasBalance address second = true) errBalanceNotAvailable

/-- `Keeper.AddLiquidity`. The comparisons of the amounts with `sdk.ZeroInt()` compare
pointers and always hold, so both coins are added and the zero ones drop out. -/
def addLiquidity (env : Environment) (context : Context) (state : State) (msg : MsgAddLiquidity)
    (pool : Pool) (newPoolUnits lpUnits : Uint) : Outcome State := do
  let extInt ← parseToInt msg.externalAssetAmount
  let nativeInt ← parseToInt msg.nativeAssetAmount
  let externalAssetCoin ← Coin.newCoin msg.externalAsset.symbol extInt
  let coins ← Coins.add [] externalAssetCoin
  let nativeAssetCoin ← Coin.newCoin Asset.settlement.symbol nativeInt
  let coins ← coins.add nativeAssetCoin
  let addr ← env.decode msg.signer
  requireEitherBalance state addr coins
  let state ← state.collect env context addr coins
  let nativeAssetBalance ← pool.nativeAssetBalance.add msg.nativeAssetAmount
  let externalAssetBalance ← pool.externalAssetBalance.add msg.externalAssetAmount
  let pool := { pool with poolUnits := newPoolUnits, nativeAssetBalance, externalAssetBalance }
  let (lp, lpUnits, state) ←
    (match state.getLiquidityProvider msg.externalAsset.symbol msg.signer with
    | some lp => pure (lp, lpUnits, state)
    | none => do
      let (lp, state) ← state.createLiquidityProvider env msg.externalAsset lpUnits addr
      pure (lp, Uint.zero, state))
  let liquidityProviderUnits ← lp.liquidityProviderUnits.add lpUnits
  let lp := { lp with liquidityProviderUnits }
  let state ← (state.setPool pool).wrapping errUnableToSetPool
  state.setLiquidityProvider lp

/-- `Keeper.RemoveLiquidityProvider`: pay a provider out and forget the record. -/
def removeLiquidityProvider (env : Environment) (context : Context) (state : State) (coins : Coins)
    (lp : LiquidityProvider) : Outcome State := do
  let lpAddr ← env.decode lp.liquidityProviderAddress
  let state ← (state.pay env context lpAddr coins).wrapping errUnableToAddBalance
  pure (state.destroyLiquidityProvider lp.asset.symbol lp.liquidityProviderAddress)

/-- `Keeper.RemoveLiquidity`. -/
def removeLiquidity (env : Environment) (context : Context) (state : State) (pool : Pool)
    (externalAssetCoin nativeAssetCoin : Coin) (lp : LiquidityProvider)
    (lpUnitsLeft poolOriginalEB poolOriginalNB : Uint) : Outcome State := do
  let lpAddr ← env.decode lp.liquidityProviderAddress
  let sendCoins ← Coins.add [] externalAssetCoin
  let sendCoins ← sendCoins.add nativeAssetCoin
  Outcome.require (externalAssetCoin.amount < poolOriginalEB.val ∧
      nativeAssetCoin.amount < poolOriginalNB.val)
    (errPoolTooShallow.wrap "Pool Balance nil after adjusting asymmetry")
  let state ← (state.setPool pool).wrapping errUnableToSetPool
  let state ←
    (if sendCoins = [] then pure state
    else do
      Outcome.require (sendCoins.all fun coin => state.bank.hasBalance env.clpAddress coin)
        errNotEnoughLiquidity
      state.pay env context lpAddr sendCoins)
  if lpUnitsLeft.isZero then
    pure (state.destroyLiquidityProvider lp.asset.symbol lp.liquidityProviderAddress)
  else state.setLiquidityProvider { lp with liquidityProviderUnits := lpUnitsLeft }

/-- `Keeper.InitiateSwap`. -/
def initiateSwap (env : Environment) (context : Context) (state : State) (sentCoin : Coin)
    (swapper : AccAddress) : Outcome State := do
  Outcome.require (state.bank.hasBalance swapper sentCoin = true) errBalanceNotAvailable
  let coins ← Coins.newCoins [sentCoin]
  state.collect env context swapper coins

/-- `Keeper.FinalizeSwap`. -/
def finalizeSwap (env : Environment) (context : Context) (state : State) (emitAmount : Uint)
    (finalPool : Pool) (msg : MsgSwap) : Outcome State := do
  let state ← (state.setPool finalPool).wrapping errUnableToSetPool
  let sentAmountInt ← parseToInt emitAmount
  let addr ← env.decode msg.signer
  let sentCoin ← Coin.newCoin msg.receivedAsset.symbol sentAmountInt
  let coins ← Coins.newCoins [sentCoin]
  state.pay env context addr coins

end State

end Akhira.Clp
