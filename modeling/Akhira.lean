import Akhira.Base.Result
import Akhira.Base.Store
import Akhira.Base.Run
import Akhira.Base.HalfEven
import Akhira.Base.Text
import Akhira.Sdk.Outcome
import Akhira.Sdk.Math
import Akhira.Sdk.Coin
import Akhira.Sdk.Bank
import Akhira.TokenRegistry.Keeper
import Akhira.Clp.Types
import Akhira.Clp.Msgs
import Akhira.Clp.Calculations
import Akhira.Clp.Keeper
import Akhira.Clp.MsgServer
import Akhira.Verif.ClpKeeper
import Akhira.Verif.ClpHandlers
import Akhira.Base.Custody
import Akhira.Verif.ClpSolvency
import Akhira.Verif.ClpUnits
import Akhira.Verif.ClpRecords
import Akhira.Verif.ClpAccounting
import Akhira.Base.BigEndian
import Akhira.Contracts.Evm
import Akhira.Contracts.Valset
import Akhira.Contracts.BridgeBank
import Akhira.Contracts.CosmosBridge
import Akhira.Base.Weight
import Akhira.Verif.BridgeContract
import Akhira.Verif.BridgePayout
import Akhira.Verif.BridgeQuorum
import Akhira.Oracle.Types
import Akhira.Oracle.Keeper
import Akhira.Base.Ballot
import Akhira.Verif.OracleTally
import Akhira.Verif.OracleProphecy
import Akhira.Verif.OracleSafety
import Akhira.EthBridge.Types
import Akhira.Verif.OracleOrder
import Akhira.EthBridge.Keeper
import Akhira.EthBridge.MsgServer
import Akhira.Verif.BridgeHandlers
import Akhira.Verif.BridgeMint
import Akhira.Verif.DepositIdentity
import Akhira.EthBridge.Transactions
import Akhira.Relayer.Parser
import Akhira.Verif.Withdrawals
import Akhira.Base.Rounding
import Akhira.Sdk.DecBounds
import Akhira.Verif.ClpDue
import Akhira.Verif.ClpLive
import Akhira.Dispensation.Types
import Akhira.Dispensation.Keeper
import Akhira.Dispensation.MsgServer
import Akhira.Verif.DispensationHandlers
import Akhira.Verif.DispensationSolvency
import Akhira.Verif.DispensationRecords
import Akhira.Verif.DispensationRunners
import Akhira.Verif.BridgeNamespace
import Akhira.Relayer.ToCosmos
import Akhira.Verif.DepositReports
import Akhira.Base.Span
import Akhira.Relayer.Ethereum
import Akhira.Verif.RelayerCoverage
import Akhira.Base.Bech32
import Akhira.Relayer.Cosmos
import Akhira.Verif.RelayerReplay
import Akhira.Sdk.AccAddress
import Akhira.Verif.RecipientChecks
import Akhira.Verif.BankSymbols
import Akhira.App.Genesis
import Akhira.Verif.SymbolRoundTrip
import Akhira.Verif.ValsetAccounting
import Akhira.Verif.Genesis
import Akhira.Base.IndexedList
import Akhira.Contracts.Blocklist
import Akhira.Verif.Blocklist
import Akhira.Verif.ClpSwapFormula
import Akhira.Verif.ClpSwapAccuracy
import Akhira.EthBridge.BridgeStore
import Akhira.Verif.BridgeBlacklist
import Akhira.Verif.ClpCredits
import Akhira.Verif.ClpRefunds
import Akhira.Verif.ClpArithmetic
import Akhira.Sdk.Transfers
import Akhira.Verif.ClpContributions
import Akhira.Verif.ClpUnitsFormula
import Akhira.Verif.DispensationQueue
import Akhira.Sdk.Backed
import Akhira.Verif.BridgePanics
import Akhira.Base.Json
import Akhira.Base.Utf8
import Akhira.Verif.ProphecyIds
import Akhira.EthBridge.ContentJson
import Akhira.Relayer.SymbolTranslator
import Akhira.Verif.ContentJson
import Akhira.Verif.RelayerParser
import Akhira.Verif.SymbolTranslator
import Akhira.App.Ante
import Akhira.IbcTransfer.OnRecvPacket
import Akhira.TokenRegistry.MsgServer
import Akhira.Verif.IbcConversion
import Akhira.Verif.MinFee
import Akhira.Verif.OracleRecords
import Akhira.Network.Chains
import Akhira.Verif.BankLog
import Akhira.Verif.NetworkDeposits
import Akhira.Verif.NetworkPeg
