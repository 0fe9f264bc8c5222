import Akhira.Base.Store
import Akhira.Sdk.Bank
import Akhira.TokenRegistry.Keeper

/-!
# Liquidity pool types

The records of the clp store, the keys they are stored under, the five messages with
their stateless checks and the errors of the module. Every asset of a message is
present: a missing one panics in `ValidateBasic` before the handler runs.
-/
namespace Akhira.Clp

open Akhira.Base Akhira.Sdk

/-- `types.ModuleName`. -/
def moduleName : String := "clp"

/-- `types.NativeSymbol`. -/
def nativeSymbol : String := "aku"

/-- `types.PoolThrehold`, the least native amount a pool is created with. -/
def poolThrehold : Nat := 1000000000000000000

/-- `types.MaxSymbolLength`. -/
def maxSymbolLength : Nat := 71

/-- `types.MaxWbasis`. -/
def maxWbasis : Int := 10000

/-- An error of the clp module. -/
def clpError (code : Nat) (description : String) : SdkError :=
  .register moduleName code description

-- The errors registered in types/errors.go that the modelled handlers return.

/-- A message that is not permitted. -/
def errInvalid : SdkError := clpError 1 "invalid"

/-- A pool that is not stored. -/
def errPoolDoesNotExist : SdkError := clpError 2 "pool does not exist"

/-- A provider that is not stored. -/
def errLiquidityProviderDoesNotExist : SdkError := clpError 3 "liquidity Provider does not exist"

/-- An asset with a symbol that is not allowed. -/
def errInValidAsset : SdkError := clpError 4 "asset is invalid"

/-- An amount that must not be zero. -/
def errInValidAmount : SdkError := clpError 5 "amount is invalid"

/-- A pool that is created below the threshold. -/
def errTotalAmountTooLow : SdkError := clpError 7 "total amount is less than minimum threshold"

/-- A swap that gives all of the reserve. -/
def errNotEnoughAssetTokens : SdkError := clpError 8 "not enough received asset tokens to swap"

/-- An asymmetry that is out of its range. -/
def errInvalidAsymmetry : SdkError := clpError 9 "Asymmetry has to be between -10000 and 10000"

/-- A share of units that is not positive or is too large. -/
def errInvalidWBasis : SdkError := clpError 10 "WBasisPoints has to be positive"

/-- A pool that is too large to decommission. -/
def errBalanceTooHigh : SdkError := clpError 11 "Pool Balance too high to be decommissioned"

/-- A pool that cannot be stored. -/
def errUnableToSetPool : SdkError := clpError 12 "Unable to set pool"

/-- A pool that cannot be deleted. -/
def errUnableToDestroyPool : SdkError := clpError 13 "Unable to destroy pool"

/-- A pool that cannot be created. -/
def errUnableToCreatePool : SdkError := clpError 14 "Unable to create pool"

/-- A user without the coins that are added or swapped. -/
def errBalanceNotAvailable : SdkError :=
  clpError 18 "user does not have enough balance of the required coin"

/-- An asset that the registry does not list. -/
def errTokenNotSupported : SdkError := clpError 19 "Token not supported by akhirachain"

/-- A refund that fails. -/
def errUnableToAddBalance : SdkError := clpError 20 "unable to add balance"

/-- A pool that has less than is asked of it. -/
def errNotEnoughLiquidity : SdkError := clpError 21 "pool does not have sufficient balance"

/-- A pool that would be left with an empty side. -/
def errPoolTooShallow : SdkError := clpError 23 "Cannot withdraw pool is too shallow"

/-- Liquidity that cannot be added. -/
def errUnableToAddLiquidity : SdkError := clpError 25 "Unable to add liquidity"

/-- Liquidity that cannot be removed. -/
def errUnableToRemoveLiquidity : SdkError := clpError 26 "Unable to remove liquidity"

/-- A swap that cannot be made. -/
def errUnableToSwap : SdkError := clpError 27 "Unable to swap"

/-- A provider that cannot be removed; the text of the source speaks of adding one. -/
def errUnableToRemoveLiquidityProvider : SdkError := clpError 28 "Unable to add liquidity provider"

/-- A pool that cannot be decommissioned. -/
def errUnableToDecommissionPool : SdkError := clpError 29 "Unable to decommission pool"

/-- An amount that does not parse. -/
def errUnableToParseInt : SdkError := clpError 30 "Unable to parse to Int"

/-- A swap that gives less than the user asks for. -/
def errReceivedAmountBelowExpected : SdkError :=
  clpError 31 "Unable to swap, received amount is below expected"

/-- Liquidity of nothing on both sides. -/
def errAmountTooLow : SdkError := clpError 32 "Tx amount is too low"

/-- `unicode.IsSpace`. -/
def isSpace (character : Char) : Bool :=
  let code := character.toNat
  (9 ≤ code && code ≤ 13) || code == 0x20 || code == 0x85 || code == 0xA0 || code == 0x1680 ||
    (0x2000 ≤ code && code ≤ 0x200A) || code == 0x2028 || code == 0x2029 || code == 0x202F ||
    code == 0x205F || code == 0x3000

/-- `len(strings.TrimSpace(text))`: the bytes left without surrounding white space. -/
def trimmedLength (text : String) : Nat :=
  let front := text.toList.dropWhile isSpace
  let trimmed := (front.reverse.dropWhile isSpace).reverse
  (trimmed.map Char.utf8Size).sum

/-- `VerifyRange`: strictly between the two ends. -/
def verifyRange (number low high : Nat) : Bool :=
  if high ≤ number then false else if number ≤ low then false else true

/-- `types.Asset`. -/
structure Asset where
  /-- The denomination of the asset. -/
  symbol : String
deriving DecidableEq, Repr

namespace Asset

/-- `Asset.Validate`: a symbol of the right length that is no denomination panics. -/
def validate (asset : Asset) : Outcome Bool :=
  if verifyRange (trimmedLength asset.symbol) 0 maxSymbolLength = false then .ok false
  else do
    let _ ← Coin.newCoin asset.symbol ⟨1, by decide⟩
    pure true

/-- `Asset.String`, the compact protobuf text. -/
def text (asset : Asset) : String := "symbol:\"" ++ asset.symbol ++ "\" "

/-- `GetSettlementAsset`. -/
def settlement : Asset := ⟨nativeSymbol⟩

/-- A validated asset is a denomination. -/
theorem validDenom_of_validate {asset : Asset} (valid : asset.validate = .ok true) :
    validDenom asset.symbol = true := by
  unfold validate at valid
  split at valid
  · cases valid
  · rw [Result.bind_ok] at valid
    obtain ⟨coin, made, -⟩ := valid
    rw [← (Coin.newCoin_ok made).1]
    exact coin.denomValid

end Asset

/-- `types.Pool`. -/
structure Pool where
  /-- The asset traded against the native one. -/
  externalAsset : Asset
  /-- The native reserve. -/
  nativeAssetBalance : Uint
  /-- The external reserve. -/
  externalAssetBalance : Uint
  /-- The units issued to the providers. -/
  poolUnits : Uint
deriving DecidableEq, Repr

/-- `types.LiquidityProvider`. -/
structure LiquidityProvider where
  /-- The external asset of the pool. -/
  asset : Asset
  /-- The units held. -/
  liquidityProviderUnits : Uint
  /-- The text of the provider's address. -/
  liquidityProviderAddress : String
deriving DecidableEq, Repr

/-- `GetPoolKey` without the store's prefix byte. -/
def getPoolKey (externalTicker nativeTicker : String) : String :=
  externalTicker ++ "_" ++ nativeTicker

/-- `GetLiquidityProviderKey` without the store's prefix byte. -/
def getLiquidityProviderKey (externalTicker lp : String) : String := externalTicker ++ "_" ++ lp

end Akhira.Clp
