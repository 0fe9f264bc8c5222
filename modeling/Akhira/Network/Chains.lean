import Akhira.EthBridge.Transactions
import Akhira.Relayer.Ethereum

/-!
# The two chains together

Calls of the contracts and transactions of the chain in any order. Each side keeps a log for the
other: the events of the bank contract, and the executed messages of the bridge module with
theirs. Between the logs stand the relayers. A log of the bank is an event id and the packed
arguments of the event, which the relayer unpacks.
-/
namespace Akhira.Network

open Akhira.Base Akhira.Contracts Akhira.EthBridge Akhira.Relayer

/-- The contracts on Ethereum and the bridge module, with what it has executed. -/
structure Chains where
  ethereum : BridgeSystem
  cosmos : EthBridge.State
  receipts : List Receipt

/-- A call on Ethereum, or a transaction on the Cosmos side. -/
inductive Step where
  | call (call : Call)
  | tx (tx : Tx)

/-- A step on one of the chains; a call may revert. -/
def step (keccak256 : Bytes → Word) (env : Environment) (chains : Chains) :
    Step → Revertible Chains
  | .call call => do
    let ethereum ← execute keccak256 chains.ethereum call
    pure { chains with ethereum }
  | .tx tx =>
    let delivered := deliverTx env chains.cosmos tx
    pure { chains with
      cosmos := delivered.1
      receipts := chains.receipts ++ delivered.2 }

/-- The arguments of a `LogLock` or `LogBurn`. -/
def argumentsOf : BankEvent → Option (LogName × LogArguments)
  | .logBurn sender recipient token symbol value nonce =>
    some (.logBurn, ⟨sender, recipient, token, symbol, value, nonce⟩)
  | .logLock sender recipient token symbol value nonce =>
    some (.logLock, ⟨sender, recipient, token, symbol, value, nonce⟩)
  | _ => none

/-- The log of an event: the first topic is its id, and the data are its arguments. -/
def Logged (abi : BridgeBankABI) (event : BankEvent) (cLog : Log) : Prop :=
  ∃ name arguments, argumentsOf event = some (name, arguments) ∧
    cLog.topics.head? = some (abi.eventID name) ∧ abi.unpack name cLog.data = some arguments

end Akhira.Network
