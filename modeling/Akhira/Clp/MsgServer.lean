import Akhira.Base.Run
import Akhira.Clp.Keeper

/-!
# The clp message server

The five handlers and the delivery of a message: the stateless checks, the signature of
the named signer, then the handler. Events are left out, as no handler reads them back.
-/
namespace Akhira.Clp

open Akhira.Base Akhira.Sdk Akhira.TokenRegistry

/-- The registry entry of a symbol that may be used in pools. -/
def clpEntry (registry : Registry) (symbol : String) : Outcome RegistryEntry := do
  let entry ← (getEntry registry symbol).replacing errTokenNotSupported
  Outcome.require (checkEntryPermissions entry [Permission.clp] = true) errPermissionDenied
  pure entry

namespace State

/-- `msgServer.CreatePool`. -/
def handleCreatePool (env : Environment) (context : Context) (state : State)
    (msg : MsgCreatePool) : Outcome State := do
  Outcome.require (poolThrehold ≤ msg.nativeAssetAmount.val) errTotalAmountTooLow
  let eAsset ← clpEntry context.registry msg.externalAsset.symbol
  Outcome.require (state.existsPool msg.externalAsset.symbol = false) errUnableToCreatePool
  let (normalizationFactor, adjustExternalToken) ← getNormalizationFactor eAsset.decimals
  let (poolUnits, lpUnits) ←
    (calculatePoolUnits
      ⟨Uint.zero, Uint.zero, Uint.zero, msg.nativeAssetAmount, msg.externalAssetAmount⟩
      normalizationFactor adjustExternalToken).wrapping errUnableToCreatePool
  let state ← (state.createPool env context poolUnits msg).wrapping errUnableToSetPool
  let accAddr ← env.decode msg.signer
  let (_, state) ← state.createLiquidityProvider env msg.externalAsset lpUnits accAddr
  pure state

/-- The amounts that decide the units of a contribution. -/
def contribution (pool : Pool) (msg : MsgAddLiquidity) : UnitInputs :=
  ⟨pool.poolUnits, pool.nativeAssetBalance, pool.externalAssetBalance, msg.nativeAssetAmount,
    msg.externalAssetAmount⟩

/-- `msgServer.AddLiquidity`. -/
def handleAddLiquidity (env : Environment) (context : Context) (state : State)
    (msg : MsgAddLiquidity) : Outcome State := do
  let eAsset ← clpEntry context.registry msg.externalAsset.symbol
  let pool ← state.getPool msg.externalAsset.symbol
  let (normalizationFactor, adjustExternalToken) ← getNormalizationFactor eAsset.decimals
  let (newPoolUnits, lpUnits) ←
    calculatePoolUnits (contribution pool msg) normalizationFactor adjustExternalToken
  (state.addLiquidity env context msg pool newPoolUnits lpUnits).wrapping errUnableToAddLiquidity

/-- The coins and the pool of an asymmetric withdrawal after its swap. The coins change only
when the swap yields something; the pool is replaced in either case. -/
def adjustAsymmetry (fromAsset : Asset) (swapAmount : Uint) (toAsset : Asset) (pool : Pool)
    (decimals : Int) (sold bought : Coin) : Outcome (Coin × Coin × Pool) := do
  let (normalizationFactor, adjustExternalToken) ← getNormalizationFactor decimals
  let swapped ← (swapOne fromAsset swapAmount toAsset pool normalizationFactor
    adjustExternalToken).wrapping errUnableToSwap
  if swapped.swapResult.isZero then pure (sold, bought, swapped.pool)
  else do
    let swapResultInt ← parseToInt swapped.swapResult
    let swapAmountInt ← parseToInt swapAmount
    let swapCoin ← Coin.newCoin toAsset.symbol swapResultInt
    let swapAmountInCoin ← Coin.newCoin fromAsset.symbol swapAmountInt
    let bought ← bought.add swapCoin
    let sold ← sold.sub swapAmountInCoin
    pure (sold, bought, swapped.pool)

/-- `msgServer.RemoveLiquidity`. -/
def handleRemoveLiquidity (env : Environment) (context : Context) (state : State)
    (msg : MsgRemoveLiquidity) : Outcome State := do
  let eAsset ← clpEntry context.registry msg.externalAsset.symbol
  let pool ← state.getPool msg.externalAsset.symbol
  let lp ← Outcome.present (state.getLiquidityProvider msg.externalAsset.symbol msg.signer)
    (.error errLiquidityProviderDoesNotExist)
  let withdrawal ← calculateWithdrawal pool.poolUnits pool.nativeAssetBalance
    pool.externalAssetBalance lp.liquidityProviderUnits msg.wBasisPoints.val msg.asymmetry.val
  let withdrawExternalAssetAmountInt ← parseToInt withdrawal.external
  let withdrawNativeAssetAmountInt ← parseToInt withdrawal.native
  let externalAssetCoin ← Coin.newCoin msg.externalAsset.symbol withdrawExternalAssetAmountInt
  let nativeAssetCoin ← Coin.newCoin Asset.settlement.symbol withdrawNativeAssetAmountInt
  let unitsLess ← pool.poolUnits.sub lp.liquidityProviderUnits
  let poolUnits ← unitsLess.add withdrawal.lpUnitsLeft
  let nativeAssetBalance ← pool.nativeAssetBalance.sub withdrawal.native
  let externalAssetBalance ← pool.externalAssetBalance.sub withdrawal.external
  let reduced := { pool with poolUnits, nativeAssetBalance, externalAssetBalance }
  Outcome.require (msg.asymmetry.val = 0 ∨
      (externalAssetBalance.isZero = false ∧ nativeAssetBalance.isZero = false))
    (errPoolTooShallow.wrap "pool balance nil before adjusting asymmetry")
  let (nativeAssetCoin, externalAssetCoin, finalPool) ←
    (if 0 < msg.asymmetry.val then
      adjustAsymmetry Asset.settlement withdrawal.swapAmount msg.externalAsset reduced
        eAsset.decimals nativeAssetCoin externalAssetCoin
    else if msg.asymmetry.val < 0 then do
      let (external, native, swappedPool) ← adjustAsymmetry msg.externalAsset
        withdrawal.swapAmount Asset.settlement reduced eAsset.decimals externalAssetCoin
        nativeAssetCoin
      pure (native, external, swappedPool)
    else pure (nativeAssetCoin, externalAssetCoin, reduced))
  (state.removeLiquidity env context finalPool externalAssetCoin nativeAssetCoin lp
    withdrawal.lpUnitsLeft pool.externalAssetBalance pool.nativeAssetBalance).wrapping
      errUnableToRemoveLiquidity

/-- The first hop of a swap between two external assets: sell into the pool of the sent asset
and return the native amount, its fee and its price impact. -/
def firstHop (state : State) (msg : MsgSwap) (inPool : Pool) (decimals : Int) :
    Outcome (Swapped × State) := do
  let (normalizationFactor, adjustExternalToken) ← getNormalizationFactor decimals
  let swapped ← swapOne msg.sentAsset msg.sentAmount Asset.settlement inPool normalizationFactor
    adjustExternalToken
  let state ← (state.setPool swapped.pool).wrapping errUnableToSetPool
  pure (swapped, state)

/-- The total fee `msgServer.Swap` reports, which a fee of the first hop converts into the
received asset. -/
def totalLiquidityFee (liquidityFeeNative lp : Uint) (receivedAsset : Asset) (outPool : Pool)
    (decimals : Int) : Outcome Uint :=
  if 0 < liquidityFeeNative.val then do
    let (normalizationFactor, adjustExternalToken) ← getNormalizationFactor decimals
    let firstSwapFeeInOutputAsset ← getSwapFee liquidityFeeNative receivedAsset outPool
      normalizationFactor adjustExternalToken
    lp.add firstSwapFeeInOutputAsset
  else liquidityFeeNative.add lp

/-- `msgServer.Swap`. The fees and the price impact only feed events, but adding them up can
panic. -/
def handleSwap (env : Environment) (context : Context) (state : State) (msg : MsgSwap) :
    Outcome State := do
  let sAsset ← (getEntry context.registry msg.sentAsset.symbol).replacing errTokenNotSupported
  let rAsset ← (getEntry context.registry msg.receivedAsset.symbol).replacing errTokenNotSupported
  Outcome.require (checkEntryPermissions sAsset [Permission.clp] = true) errPermissionDenied
  Outcome.require (checkEntryPermissions rAsset [Permission.clp] = true) errPermissionDenied
  let inPool ←
    (if msg.sentAsset = Asset.settlement then pure none
    else do
      let pool ← (state.getPool msg.sentAsset.symbol).replacing
        (errPoolDoesNotExist.wrap msg.sentAsset.text)
      pure (some pool))
  let sentAmountInt ← parseToInt msg.sentAmount
  let accAddr ← env.decode msg.signer
  let sentCoin ← Coin.newCoin msg.sentAsset.symbol sentAmountInt
  let state ← (state.initiateSwap env context sentCoin accAddr).wrapping errUnableToSwap
  let (sentAsset, sentAmount, liquidityFeeNative, priceImpact, state) ←
    (match inPool with
    | some pool =>
      if msg.receivedAsset = Asset.settlement then
        pure (msg.sentAsset, msg.sentAmount, Uint.zero, Uint.zero, state)
      else do
        let (swapped, state) ← state.firstHop msg pool sAsset.decimals
        pure (Asset.settlement, swapped.swapResult, swapped.liquidityFee, swapped.priceImpact,
          state)
    | none => pure (msg.sentAsset, msg.sentAmount, Uint.zero, Uint.zero, state))
  let (poolAsset, decimals) :=
    if msg.receivedAsset = Asset.settlement then (msg.sentAsset, sAsset.decimals)
    else (msg.receivedAsset, rAsset.decimals)
  let outPool ← (state.getPool poolAsset.symbol).replacing
    (errPoolDoesNotExist.wrap poolAsset.text)
  let (normalizationFactor, adjustExternalToken) ← getNormalizationFactor decimals
  let swapped ← swapOne sentAsset sentAmount msg.receivedAsset outPool normalizationFactor
    adjustExternalToken
  Outcome.require (msg.minReceivingAmount.val ≤ swapped.swapResult.val)
    errReceivedAmountBelowExpected
  let state ← (state.finalizeSwap env context swapped.swapResult swapped.pool msg).wrapping
    errUnableToSwap
  let _ ← totalLiquidityFee liquidityFeeNative swapped.liquidityFee msg.receivedAsset outPool
    decimals
  let _ ← priceImpact.add swapped.priceImpact
  pure state

/-- What is left to refund while the providers of a pool are paid out. -/
structure Refund where
  /-- The state reached. -/
  state : State
  /-- The units not yet refunded. -/
  poolUnits : Uint
  /-- The native reserve not yet paid. -/
  nativeAssetBalance : Uint
  /-- The external reserve not yet paid. -/
  externalAssetBalance : Uint

/-- One round of the loop of `msgServer.DecommissionPool`. The withdrawal is computed from the
pool as it was before the loop. -/
def refundProvider (env : Environment) (context : Context) (symbol : String) (pool : Pool)
    (refund : Refund) (lp : LiquidityProvider) : Outcome Refund := do
  let withdrawal ← calculateAllAssetsForLP pool lp
  let poolUnits ← refund.poolUnits.sub lp.liquidityProviderUnits
  let nativeAssetBalance ← refund.nativeAssetBalance.sub withdrawal.native
  let externalAssetBalance ← refund.externalAssetBalance.sub withdrawal.external
  let withdrawNativeAssetInt ← parseToInt withdrawal.native
  let withdrawExternalAssetInt ← parseToInt withdrawal.external
  let withdrawNativeCoins ← Coin.newCoin Asset.settlement.symbol withdrawNativeAssetInt
  let withdrawExternalCoins ← Coin.newCoin symbol withdrawExternalAssetInt
  let refundingCoins ← Coins.newCoins [withdrawExternalCoins, withdrawNativeCoins]
  let state ← (refund.state.removeLiquidityProvider env context refundingCoins lp).wrapping
    errUnableToRemoveLiquidityProvider
  pure ⟨state, poolUnits, nativeAssetBalance, externalAssetBalance⟩

/-- `msgServer.DecommissionPool`. -/
def handleDecommissionPool (env : Environment) (context : Context) (state : State)
    (msg : MsgDecommissionPool) : Outcome State := do
  let pool ← state.getPool msg.symbol
  let addAddr ← env.decode msg.signer
  let permitted ← state.validateAddress env addAddr
  Outcome.require (permitted = true)
    (errInvalid.wrap "user does not have permission to decommission pool")
  Outcome.require (pool.nativeAssetBalance.val < poolThrehold) errBalanceTooHigh
  let lpList := state.getLiquidityProvidersForAsset pool.externalAsset
  let refund ← lpList.foldlM (refundProvider env context msg.symbol pool)
    ⟨state, pool.poolUnits, pool.nativeAssetBalance, pool.externalAssetBalance⟩
  ((refund.state.destroyPool pool.externalAsset.symbol).wrapping errUnableToDestroyPool).wrapping
    errUnableToDecommissionPool

/-- The handler of a message. -/
def handle (env : Environment) (context : Context) (state : State) : Msg → Outcome State
  | .createPool msg => state.handleCreatePool env context msg
  | .addLiquidity msg => state.handleAddLiquidity env context msg
  | .removeLiquidity msg => state.handleRemoveLiquidity env context msg
  | .swap msg => state.handleSwap env context msg
  | .decommissionPool msg => state.handleDecommissionPool env context msg

end State

/-- A message with what it finds besides the clp store and the balances. -/
structure Delivery where
  /-- The registry and the vesting amounts at delivery. -/
  context : Context
  /-- The message. -/
  msg : Msg

/-- The signer of a message. Signature verification refuses the module account, for whose
address nobody holds a key. -/
def authenticate (env : Environment) (msg : Msg) : Outcome AccAddress := do
  let signer ← Outcome.present (env.accAddressFromBech32 msg.signer)
    (.panic "decoding bech32 failed")
  Outcome.require (signer ≠ env.clpAddress) errUnauthorized
  pure signer

/-- Deliver a message: check it, authenticate its signer and run its handler. -/
def deliver (env : Environment) (state : State) (delivery : Delivery) : Outcome State := do
  delivery.msg.validateBasic
  let _ ← authenticate env delivery.msg
  state.handle env delivery.context delivery.msg

end Akhira.Clp
