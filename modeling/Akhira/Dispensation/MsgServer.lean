import Akhira.Base.Run
import Akhira.Dispensation.Keeper

/-!
# The dispensation message server

The three handlers and the delivery of a message. Events are left out, as no handler reads them.
-/
namespace Akhira.Dispensation

open Akhira.Base Akhira.Sdk

/-- `TotalOutput`. -/
def totalOutput : List (Output Coins) → Outcome Coins
  | [] => Outcome.fail (errNoOutputs.wrap "Outputlist is empty")
  | first :: rest => rest.foldlM (fun total out => total.safeAdd out.coins) first.coins

/-- The name of a distribution: the block height and the distributor. -/
def distributionNameOf (height : Int) (distributor : String) : String :=
  intText height ++ "_" ++ distributor

namespace State

/-- `msgServer.CreateDistribution`, on the outputs as `ValidateBasic` leaves them. -/
def createDistribution (env : Environment) (context : Context env) (state : State)
    (msg : MsgCreateDistribution) (output : List (Output Coins)) : Outcome State := do
  let distributionName := distributionNameOf context.blockHeight msg.distributor
  let state ← state.verifyAndSetDistribution distributionName msg.distributionType
    msg.authorizedRunner
  let total ← (totalOutput output).wrapping
    (errNoOutputs.wrap "Error calculating required amount from outputs")
  let state ← state.accumulateDrops env context msg.distributor total
  state.createDrops env context.blockHeight output distributionName msg.distributionType
    msg.authorizedRunner

/-- The seconds a timestamp can hold. -/
def validTimestamp (seconds : Int) : Prop := -62135596800 ≤ seconds ∧ seconds < 253402300800

/-- The bounds of a timestamp are compared. -/
instance (seconds : Int) : Decidable (validTimestamp seconds) := inferInstanceAs (Decidable (_ ∧ _))

/-- `msgServer.CreateUserClaim`. -/
def createUserClaim (env : Environment) (context : Context env) (state : State)
    (claim : MsgCreateUserClaim) : Outcome State := do
  let key := getUserClaimKey claim.userClaimAddress claim.userClaimType
  Outcome.require (state.claims.has key = false)
    (errInvalid.wrap "Claim already exists for user")
  Outcome.require (validTimestamp context.blockTime)
    (.register "undefined" 1 ("timestamp: " ++ intText context.blockTime ++ " out of range"))
  let newClaim : UserClaim := ⟨claim.userClaimAddress, claim.userClaimType, context.blockTime⟩
  Outcome.require (newClaim.validate = true)
    (errInvalid.wrap ("Claim Details : " ++ env.claimText newClaim))
  pure { state with claims := state.claims.set key newClaim }

/-- `msgServer.RunDistribution`. -/
def runDistribution (env : Environment) (context : Context env) (state : State)
    (msg : MsgRunDistribution) : Outcome State :=
  state.distributeDrops env context msg.distributionName msg.authorizedRunner msg.distributionType

end State

/-- The messages of the module. -/
inductive Msg where
  | createDistribution (msg : MsgCreateDistribution)
  | createUserClaim (msg : MsgCreateUserClaim)
  | runDistribution (msg : MsgRunDistribution)
deriving DecidableEq, Repr

/-- The text of the signer. -/
def Msg.signer : Msg → String
  | .createDistribution msg => msg.distributor
  | .createUserClaim msg => msg.userClaimAddress
  | .runDistribution msg => msg.authorizedRunner

/-- A message with the block it is delivered in. -/
structure Delivery (env : Environment) where
  context : Context env
  msg : Msg

/-- The signer of a message. Nobody holds a key of the module account. -/
def authenticate (env : Environment) (msg : Msg) : Outcome AccAddress := do
  let signer ← Outcome.present (env.accAddressFromBech32 msg.signer)
    (.panic "decoding bech32 failed")
  Outcome.require (signer ≠ env.moduleAccount) errUnauthorized
  pure signer

/-- Deliver a message: check it, authenticate its signer and run its handler. -/
def deliver (env : Environment) (state : State) (delivery : Delivery env) : Outcome State :=
  match delivery.msg with
  | .createDistribution msg => do
    let output ← msg.validateBasic env.toChain
    let _ ← authenticate env delivery.msg
    state.createDistribution env delivery.context msg output
  | .createUserClaim msg => do
    msg.validateBasic env.toChain
    let _ ← authenticate env delivery.msg
    state.createUserClaim env delivery.context msg
  | .runDistribution msg => do
    msg.validateBasic env.toChain
    let _ ← authenticate env delivery.msg
    state.runDistribution env delivery.context msg

end Akhira.Dispensation
