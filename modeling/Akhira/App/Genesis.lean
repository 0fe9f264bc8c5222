import Akhira.Clp.MsgServer
import Akhira.Dispensation.MsgServer
import Akhira.EthBridge.MsgServer

/-!
# Genesis

Export and import of the stores of the modules. An import writes into empty stores and panics on
what a keeper refuses. An absent list is told from an empty one where the source does.
-/
namespace Akhira.Sdk.Outcome

variable {α : Type}

/-- Panic with a text instead of returning an error. -/
def orCrash (call : Outcome α) (reason : String) : Outcome α :=
  match call with
  | .ok value => .ok value
  | .error (.error _) => crash reason
  | .error (.panic own) => crash own

/-- A start that does not crash is a call that succeeds. -/
@[simp] theorem orCrash_ok {call : Outcome α} {reason : String} {result : α} :
    orCrash call reason = .ok result ↔ call = .ok result := by
  match call with
  | .ok value => simp [orCrash]
  | .error (.error error) => simp [orCrash]
  | .error (.panic own) => simp [orCrash]

/-- What a call ensures, it ensures when its failure is a crash. -/
theorem ensures_orCrash {property : α → Prop} {call : Outcome α} {reason : String}
    (holds : Base.Result.Ensures property call) :
    Base.Result.Ensures property (call.orCrash reason) :=
  fun result returned => holds result (orCrash_ok.mp returned)

end Akhira.Sdk.Outcome

namespace Akhira.Sdk

/-- `sdk.AccAddressFromBech32` where an error panics. -/
def Chain.decodeOrPanic (chain : Chain) (text : String) : Outcome AccAddress :=
  Outcome.present (chain.accAddressFromBech32 text) (.panic "decoding bech32 failed")

end Akhira.Sdk

namespace Akhira.Clp

open Akhira.Base Akhira.Sdk

/-- `Params`. -/
structure Params where
  minCreatePoolThreshold : UInt64
deriving DecidableEq, Repr

/-- `SetParams`, which panics on a threshold that `validateMinCreatePoolThreshold` refuses. -/
def setParams (params : Params) : Outcome Params :=
  if params.minCreatePoolThreshold = 0 then
    Outcome.crash ("value from ParamSetPair is invalid: " ++
      "min create pool threshold must be positive: 0")
  else .ok params

/-- The stores of the module: its own and its parameters. -/
structure Module where
  state : State
  params : Params

/-- `GenesisState`. -/
structure GenesisState where
  params : Params
  addressWhitelist : List String
  poolList : List Pool
  liquidityProviders : List LiquidityProvider
deriving DecidableEq, Repr

/-- `Pool.String`. -/
def Pool.text (pool : Pool) : String :=
  "external_asset:<" ++ pool.externalAsset.text ++ "> native_asset_balance:\"" ++
    pool.nativeAssetBalance.text ++ "\" external_asset_balance:\"" ++
    pool.externalAssetBalance.text ++ "\" pool_units:\"" ++ pool.poolUnits.text ++ "\" "

/-- `GetClpWhiteList`. -/
def State.getClpWhiteList (env : Environment) (state : State) : Outcome (List AccAddress) :=
  (state.whiteList.getD []).mapM env.decodeOrPanic

/-- `SetClpWhiteList`. -/
def State.setClpWhiteList (env : Environment) (state : State) (validatorList : List AccAddress) :
    State :=
  { state with whiteList := some (validatorList.map env.textOf) }

/-- The decoded entries of the white list, which must be there. -/
def readWhitelist (env : Environment) (entries : List String) : Outcome (List AccAddress) :=
  if entries = [] then Outcome.crash "AddressWhiteList must be set."
  else entries.mapM env.decodeOrPanic

/-- `InitGenesis`, next to the balances that the bank imports. -/
def initGenesis (env : Environment) (bank : Ledger) (data : GenesisState) : Outcome Module := do
  let params ← setParams data.params
  let wl ← readWhitelist env data.addressWhitelist
  let state := State.setClpWhiteList env ⟨.empty, .empty, none, bank⟩ wl
  let state ← data.poolList.foldlM (fun state pool =>
    (state.setPool pool).orCrash ("Pool could not be set : " ++ pool.text)) state
  let state ← data.liquidityProviders.foldlM State.setLiquidityProvider state
  pure ⟨state, params⟩

/-- `ExportGenesis`; the pages have no limit. -/
def exportGenesis (env : Environment) (clp : Module) : Outcome GenesisState := do
  let whiteList ← clp.state.getClpWhiteList env
  pure {
    params := clp.params
    addressWhitelist := whiteList.map env.textOf
    poolList := clp.state.pools.values
    liquidityProviders := clp.state.providers.values }

end Akhira.Clp

namespace Akhira.Oracle

open Akhira.Base Akhira.Sdk

/-- The oracle store, where a white list that was never written is told from an empty one. -/
structure Stored extends State where
  whiteListSet : Bool

/-- `GenesisState`; the white list may be absent. -/
structure GenesisState where
  addressWhitelist : Option (List String)
  adminAddress : String
  prophecies : List DBProphecy

/-- Whether `strings.TrimSpace` leaves nothing. -/
def isBlank (text : String) : Bool := text.toList.all Clp.isSpace

/-- `SetDBProphecy`. -/
def setDBProphecy (prophecies : Store String DBProphecy) (prophecy : DBProphecy) :
    Store String DBProphecy :=
  prophecies.set (prophecyKey prophecy.id) prophecy

namespace Stored

/-- `ExistsOracleWhiteList`. -/
def existsOracleWhiteList (store : Stored) : Bool := store.whiteListSet

/-- `ValidateAddress`. -/
def validateAddress (store : Stored) (address : ValAddress) : Bool :=
  store.existsOracleWhiteList && store.whiteList.contains address

/-- `GetProphecies`; a prophecy that does not deserialize panics. -/
def getProphecies (codec : ValCodec) (store : Stored) : Outcome (List Prophecy) :=
  store.prophecies.values.mapM fun db =>
    Outcome.present (db.deserializeFromDB codec) (.panic "decoding bech32 failed")

end Stored

/-- Whether a message writes the white list. -/
def Msg.writesWhiteList : Msg → Bool
  | .claim _ => false
  | .updateWhiteListValidator _ _ _ => true

/-- Deliver a message to the store. -/
def deliverStored (env : Environment) (store : Stored) (delivery : Delivery) : Outcome Stored := do
  let state ← deliver env store.toState delivery
  pure ⟨state, store.whiteListSet || delivery.msg.writesWhiteList⟩

/-- The white list that `InitGenesis` writes; entries of white space are passed over. -/
def readWhiteList (codec : ValCodec) (entries : List String) : Outcome (List ValAddress) :=
  (entries.filter fun entry => isBlank entry = false).mapM fun entry =>
    Outcome.present (codec.valAddressFromBech32 entry) (.panic "decoding bech32 failed")

/-- `InitGenesis`. -/
def initGenesis (chain : Chain) (codec : ValCodec) (data : GenesisState) : Outcome Stored := do
  let whiteList ← readWhiteList codec (data.addressWhitelist.getD [])
  let adminAccount ←
    (if isBlank data.adminAddress then pure [] else chain.decodeOrPanic data.adminAddress)
  let prophecies := data.prophecies.foldl setDBProphecy .empty
  pure ⟨⟨whiteList, adminAccount, prophecies⟩, data.addressWhitelist.isSome⟩

/-- `ExportGenesis`. -/
def exportGenesis (chain : Chain) (codec : ValCodec) (store : Stored) : Outcome GenesisState := do
  let prophecies ← store.getProphecies codec
  pure {
    addressWhitelist := some (store.whiteList.map codec.text)
    adminAddress := chain.textOf store.adminAccount
    prophecies := prophecies.map fun prophecy => prophecy.serializeForDB codec }

end Akhira.Oracle

namespace Akhira.Dispensation

open Akhira.Base Akhira.Sdk

/-- `GenesisState`; each part may be absent. -/
structure GenesisState where
  distributionRecords : Option (List DistributionRecord)
  distributions : Option (List Distribution)
  claims : Option (List UserClaim)
deriving DecidableEq, Repr

/-- `Distribution.String`, which leaves out what is empty. -/
def Distribution.text (distribution : Distribution) : String :=
  (if distribution.distributionType = .unspecified then ""
    else "distribution_type:" ++ distribution.distributionType.text ++ " ") ++
  (if distribution.distributionName = "" then ""
    else "distribution_name:\"" ++ distribution.distributionName ++ "\" ") ++
  (if distribution.runner = "" then "" else "runner:\"" ++ distribution.runner ++ "\" ")

/-- The key of a distribution. -/
def Distribution.key (distribution : Distribution) : String :=
  getDistributionsKey distribution.distributionName distribution.distributionType
    distribution.runner

/-- The key of a claim. -/
def UserClaim.key (claim : UserClaim) : String :=
  getUserClaimKey claim.userAddress claim.userClaimType

namespace State

/-- `SetDistribution`. -/
def setDistribution (state : State) (distribution : Distribution) : Outcome State := do
  Outcome.require (distribution.validate = true)
    (errInvalid.wrap ("Record Details : " ++ distribution.text))
  pure { state with distributions := state.distributions.set distribution.key distribution }

/-- `SetClaim`. -/
def setClaim (env : Environment) (state : State) (claim : UserClaim) : Outcome State := do
  Outcome.require (claim.validate = true) (errInvalid.wrap ("Claim Details : " ++ env.claimText claim))
  pure { state with claims := state.claims.set claim.key claim }

/-- `GetRecords`: pending, completed, failed. -/
def getRecords (state : State) : List DistributionRecord :=
  state.pending.values ++ state.completed.values ++ state.failed.values

end State

/-- `InitGenesis`, next to the balances that the bank imports. -/
def initGenesis (env : Environment) (bank : Ledger) (data : GenesisState) : Outcome State := do
  let state ← (data.distributionRecords.getD []).foldlM (fun state record =>
    (state.setDistributionRecord env record).orCrash
      ("Error setting distribution record during init genesis : " ++ env.recordText record))
    (⟨.empty, .empty, .empty, .empty, .empty, bank⟩ : State)
  let state ← (data.distributions.getD []).foldlM (fun state dist =>
    (state.setDistribution dist).orCrash
      ("Error setting distribution during init genesis : " ++ dist.text)) state
  (data.claims.getD []).foldlM (fun state claim =>
    (state.setClaim env claim).orCrash
      ("Error setting claim during init genesis : " ++ env.claimText claim)) state

/-- `ExportGenesis`. -/
def exportGenesis (state : State) : GenesisState where
  distributionRecords := some state.getRecords
  distributions := some state.distributions.values
  claims := some state.claims.values

end Akhira.Dispensation

namespace Akhira.EthBridge

open Akhira.Base Akhira.Sdk

/-- `GenesisState`; it has no place for the blacklist. -/
structure GenesisState where
  cethReceiveAccount : String
  peggyTokens : List String
deriving DecidableEq, Repr

/-- `InitGenesis`, next to what the other modules import. -/
def initGenesis (chain : Chain) (oracle : Oracle.State) (bank : Bank)
    (accounts : AccAddress → Option Nat) (data : GenesisState) : Outcome State := do
  let cethReceiverAccount ←
    (if data.cethReceiveAccount = "" then pure ""
    else do
      let receiveAccount ← chain.decodeOrPanic data.cethReceiveAccount
      pure (chain.textOf receiveAccount))
  let state : State := ⟨oracle, bank, [], cethReceiverAccount, [], accounts⟩
  pure (data.peggyTokens.foldl State.addPeggyToken state)

/-- `ExportGenesis`. -/
def exportGenesis (chain : Chain) (state : State) : GenesisState where
  cethReceiveAccount := chain.textOf ((state.getCethReceiverAccount chain).getD [])
  peggyTokens := state.peggyTokens

end Akhira.EthBridge
