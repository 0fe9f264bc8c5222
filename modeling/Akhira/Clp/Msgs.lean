import Akhira.Clp.Types

/-!
# Liquidity pool messages

The five messages of the module with the checks each makes before it reaches the chain.
A check that panics refuses the message like one that returns an error.
-/
namespace Akhira.Clp

open Akhira.Base Akhira.Sdk

/-- `MsgCreatePool`. -/
structure MsgCreatePool where
  /-- The address text of the creator, who becomes the first provider. -/
  signer : String
  /-- The asset to trade. -/
  externalAsset : Asset
  /-- The native reserve to start with. -/
  nativeAssetAmount : Uint
  /-- The external reserve to start with. -/
  externalAssetAmount : Uint
deriving DecidableEq, Repr

/-- `MsgAddLiquidity`. -/
structure MsgAddLiquidity where
  /-- The address text of the provider. -/
  signer : String
  /-- The asset of the pool. -/
  externalAsset : Asset
  /-- The native amount to add. -/
  nativeAssetAmount : Uint
  /-- The external amount to add. -/
  externalAssetAmount : Uint
deriving DecidableEq, Repr

/-- `MsgRemoveLiquidity`. -/
structure MsgRemoveLiquidity where
  /-- The address text of the provider. -/
  signer : String
  /-- The asset of the pool. -/
  externalAsset : Asset
  /-- The share to withdraw, in ten-thousandths of the provider's units. -/
  wBasisPoints : SInt
  /-- The share to take in one asset, positive for the external one. -/
  asymmetry : SInt
deriving DecidableEq, Repr

/-- `MsgSwap`. -/
structure MsgSwap where
  /-- The address text of the trader. -/
  signer : String
  /-- The asset sold. -/
  sentAsset : Asset
  /-- The asset bought. -/
  receivedAsset : Asset
  /-- The amount sold. -/
  sentAmount : Uint
  /-- The least amount to accept. -/
  minReceivingAmount : Uint
deriving DecidableEq, Repr

/-- `MsgDecommissionPool`. -/
structure MsgDecommissionPool where
  /-- The address text of a clp administrator. -/
  signer : String
  /-- The external asset of the pool. -/
  symbol : String
deriving DecidableEq, Repr

/-- A message of the module. -/
inductive Msg where
  /-- Open a pool. -/
  | createPool (msg : MsgCreatePool)
  /-- Add to a pool. -/
  | addLiquidity (msg : MsgAddLiquidity)
  /-- Withdraw from a pool. -/
  | removeLiquidity (msg : MsgRemoveLiquidity)
  /-- Trade through one or two pools. -/
  | swap (msg : MsgSwap)
  /-- Refund every provider and close a pool. -/
  | decommissionPool (msg : MsgDecommissionPool)
deriving DecidableEq, Repr

/-- Every message refuses an empty signer. -/
def requireSigner (signer : String) : Outcome Unit :=
  Outcome.require (signer ≠ "") (errInvalidAddress.wrap signer)

/-- Refuse an asset that does not validate. -/
def requireAsset (asset : Asset) : Outcome Unit := do
  let valid ← asset.validate
  Outcome.require (valid = true) (errInValidAsset.wrap asset.symbol)

/-- `MsgCreatePool.ValidateBasic`. The refusal of a zero external amount shows the native one. -/
def MsgCreatePool.validateBasic (msg : MsgCreatePool) : Outcome Unit := do
  requireSigner msg.signer
  requireAsset msg.externalAsset
  Outcome.require (msg.externalAsset ≠ Asset.settlement)
    (errInValidAsset.wrap "External Asset cannot be aku")
  Outcome.require (0 < msg.nativeAssetAmount.val)
    (errInValidAmount.wrap msg.nativeAssetAmount.text)
  Outcome.require (0 < msg.externalAssetAmount.val)
    (errInValidAmount.wrap msg.nativeAssetAmount.text)

/-- `MsgAddLiquidity.ValidateBasic`. -/
def MsgAddLiquidity.validateBasic (msg : MsgAddLiquidity) : Outcome Unit := do
  requireSigner msg.signer
  requireAsset msg.externalAsset
  Outcome.require (msg.externalAsset ≠ Asset.settlement)
    (errInValidAsset.wrap "External asset cannot be aku")
  Outcome.require (0 < msg.nativeAssetAmount.val ∨ 0 < msg.externalAssetAmount.val)
    (errInValidAmount.wrap ("Both asset ammounts cannot be 0 " ++ msg.nativeAssetAmount.text ++
      " / " ++ msg.externalAssetAmount.text))

/-- `MsgRemoveLiquidity.ValidateBasic`. -/
def MsgRemoveLiquidity.validateBasic (msg : MsgRemoveLiquidity) : Outcome Unit := do
  requireSigner msg.signer
  requireAsset msg.externalAsset
  Outcome.require (0 < msg.wBasisPoints.val ∧ msg.wBasisPoints.val ≤ maxWbasis)
    (errInvalidWBasis.wrap msg.wBasisPoints.text)
  Outcome.require (msg.asymmetry.val ≤ 10000 ∧ -10000 ≤ msg.asymmetry.val)
    (errInvalidAsymmetry.wrap msg.asymmetry.text)

/-- `MsgSwap.ValidateBasic`. -/
def MsgSwap.validateBasic (msg : MsgSwap) : Outcome Unit := do
  requireSigner msg.signer
  requireAsset msg.sentAsset
  requireAsset msg.receivedAsset
  Outcome.require (msg.sentAsset ≠ msg.receivedAsset)
    (errInValidAsset.wrap "Sent And Received asset cannot be the same")
  Outcome.require (msg.sentAmount.val ≠ 0) (errInValidAmount.wrap msg.sentAmount.text)

/-- `MsgDecommissionPool.ValidateBasic`. -/
def MsgDecommissionPool.validateBasic (msg : MsgDecommissionPool) : Outcome Unit := do
  requireSigner msg.signer
  Outcome.require (verifyRange (trimmedLength msg.symbol) 0 maxSymbolLength = true)
    (errInvalidRequest.wrap msg.symbol)

namespace Msg

/-- `ValidateBasic` of any message. -/
def validateBasic : Msg → Outcome Unit
  | createPool msg => msg.validateBasic
  | addLiquidity msg => msg.validateBasic
  | removeLiquidity msg => msg.validateBasic
  | swap msg => msg.validateBasic
  | decommissionPool msg => msg.validateBasic

/-- The signer named by any message. -/
def signer : Msg → String
  | createPool msg => msg.signer
  | addLiquidity msg => msg.signer
  | removeLiquidity msg => msg.signer
  | swap msg => msg.signer
  | decommissionPool msg => msg.signer

end Msg

/-- An asset that passes the check validates. -/
@[simp] theorem requireAsset_ok {asset : Asset} {done : Unit} :
    requireAsset asset = .ok done ↔ asset.validate = .ok true := by
  simp only [requireAsset, Result.bind_ok, Outcome.require_ok]
  constructor
  · rintro ⟨valid, checked, rfl⟩
    exact checked
  · exact fun checked => ⟨true, checked, rfl⟩

end Akhira.Clp
