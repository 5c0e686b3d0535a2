import GrinPlusPlus.P2P.SendTxHashSet
import GrinPlusPlus.Except
import Mathlib.Logic.Basic

/-!
# Handling one message

`MessageProcessor::ProcessMessage` and `ProcessMessageInternal`
(`MessageProcessor.cpp`, lines 66-406).

`ProcessMessageInternal` switches on the message type.  Every call it makes to
the rest of the node (the payload's `Deserialize`, the chain server, the peer
manager, the pipelines, the connection manager) may answer or throw, and every
reply it sends may fail; `Env` holds one outcome per call.  `ProcessMessage`
turns a `BadDataException`, `BlockChainException` or
`DeserializationException` that escapes into `BAN_PEER`, whichever call threw
it, and lets any other exception through.

So `BAN_PEER` is returned for the peer's own faults (`PeerAtFault`), but also,
by `ProcessMessage`'s design, when a purely local query throws a chain
exception, for instance reading our tip to answer a `Ping`
(`ProcessMessage_ban_local_query`).  `ProcessMessage_BAN_PEER` says these two
are the only ways to `BAN_PEER` outside a cut TxHashSet stream, whose `BAN_PEER`
on our own failed send or shutdown `SendTxHashSet_eq_ban_iff` describes.
-/

namespace GrinPlusPlus.P2P

/-- `MessageTypes::EMessageType`, in wire order. -/
inductive EMessageType where
  | Error
  | Hand
  | Shake
  | Ping
  | Pong
  | GetPeerAddrs
  | PeerAddrs
  | GetHeaders
  | Header
  | Headers
  | GetBlock
  | Block
  | GetCompactBlock
  | CompactBlockMsg
  | StemTransaction
  | TransactionMsg
  | TxHashSetRequest
  | TxHashSetArchive
  | BanReasonMsg
  | GetTransactionMsg
  | TransactionKernelMsg
  deriving DecidableEq, Repr

end GrinPlusPlus.P2P
