import Akhira.Sdk.Coin
import Akhira.TokenRegistry.Keeper

/-!
# The minimum fee

Before the handlers of the SDK check a transaction, a decorator asks for a fee in the coin of the
chain that depends on the types of its messages. A transaction of one distribution message is given a
low gas price instead.
-/
namespace Akhira.Ante

open Akhira.Sdk Akhira.TokenRegistry

/-- `sdk.DecCoin`. -/
structure DecCoin where
  denom : Denom
  amount : Dec
deriving DecidableEq, Repr

/-- What the decorator may change of the context. -/
structure Context where
  minGasPrices : List DecCoin
deriving DecidableEq, Repr

/-- A transaction: the type URLs of its messages, which are ASCII, and its fee when it is a
`FeeTx`. -/
structure Tx where
  msgs : List String
  fee : Option Coins

/-- `strings.Contains`. -/
def contains (text part : String) : Bool := part.toList <:+: text.toList

/-- The message creates or runs a distribution. -/
def isDistribution (typeURL : String) : Bool :=
  contains typeURL.toLower "createDistribution".toLower ||
    contains typeURL.toLower "runDistribution".toLower

/-- The transaction is one distribution message. -/
def singleDistribution : List String → Bool
  | [typeURL] => isDistribution typeURL
  | _ => false

/-- The least fee of a transaction with a costly message. -/
def highFee : Nat := 100000000000000000

/-- The least fee of a transaction with a transfer and no costly message. -/
def lowFee : Nat := 10000000000000000

/-- The messages with the high fee. -/
def isCostly (typeURL : String) : Bool :=
  contains typeURL.toLower "send" || contains typeURL.toLower "multisend" ||
    contains typeURL.toLower "createuserclaim" || contains typeURL.toLower "swap" ||
    contains typeURL.toLower "removeliquidity" || contains typeURL.toLower "addliquidity"

/-- One round of the loop over the messages. -/
def raiseMinFee (minFee : Nat) (typeURL : String) : Nat :=
  if isCostly typeURL then highFee
  else if contains typeURL.toLower "transfer" ∧ minFee ≤ lowFee then lowFee
  else minFee

/-- One round of the loop over the coins. -/
def pickFee (akuFee : Nat) (coin : Coin) : Nat :=
  if equalFold "aku" coin.denom then coin.amount else akuFee

/-- The registered error for a fee that is missing or too low, and for an invalid gas price. -/
def errLogic : SdkError := .register "sdk" 35 "internal logic error"

/-- The registered error for a transaction without fees. -/
def errTxDecode : SdkError := .register "sdk" 2 "tx parse error"

/-- `0.00000005`. -/
def minGasPrice : DecCoin := ⟨"aku", ⟨50000000000⟩⟩

/-- `AdjustGasPriceDecorator.AnteHandle`, up to the call of the next handler: the context it is
called with. -/
def anteHandle (ctx : Context) (tx : Tx) : Outcome Context := do
  if singleDistribution tx.msgs then
    Outcome.require (validDenom minGasPrice.denom = true ∧ 0 ≤ minGasPrice.amount.raw)
      (errLogic.wrap "invalid gas price")
    pure { ctx with minGasPrices := [minGasPrice] }
  else
    let minFee := tx.msgs.foldl raiseMinFee 0
    if minFee = 0 then pure ctx
    else
      let fees ← Outcome.present tx.fee (.error (errTxDecode.wrap "tx must be a FeeTx"))
      let akuFee := fees.foldl pickFee 0
      Outcome.require (0 < akuFee) (errLogic.wrap "unsupported fee asset")
      Outcome.require (minFee ≤ akuFee) (errLogic.wrap "tx fee is too low")
      pure ctx

end Akhira.Ante
