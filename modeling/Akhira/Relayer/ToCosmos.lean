import Akhira.EthBridge.Transactions

/-!
# Relaying to the chain

The claims of one round of the Ethereum relayer are broadcast as one transaction.
-/
namespace Akhira.Relayer

open Akhira.EthBridge

/-- The claims that pass their stateless checks; the others are logged and left out. -/
def messagesOf (claims : List EthBridgeClaim) : List EthBridgeClaim :=
  claims.filter fun claim => claim.validateBasic.isOk

/-- `RelayToCosmos`: the messages of one transaction. -/
def relayToCosmos (context : Context) (claims : List EthBridgeClaim) : Tx where
  context := context
  msgs := (messagesOf claims).map fun claim => .bridge (.createEthBridgeClaim claim)

end Akhira.Relayer
