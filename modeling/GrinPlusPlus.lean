import GrinPlusPlus.Except
import GrinPlusPlus.PoW.Cuckarooz
import GrinPlusPlus.PoW.CycleWalk
import GrinPlusPlus.PoW.Verify
import GrinPlusPlus.PoW.SipBlock
import GrinPlusPlus.PoW.Termination
import GrinPlusPlus.PoW.Outcomes
import GrinPlusPlus.Wire.Codec
import GrinPlusPlus.Slate.Basic
import GrinPlusPlus.Slate.Binary
import GrinPlusPlus.Slate.Json
import GrinPlusPlus.Slate.Commitments
import GrinPlusPlus.Core.OutputDTO
import GrinPlusPlus.Core.KernelSignatureValidator
import GrinPlusPlus.P2P.SendTxHashSet
import GrinPlusPlus.P2P.MessageProcessor
import GrinPlusPlus.P2P.HandShake
import GrinPlusPlus.P2P.MessageRetriever
import GrinPlusPlus.P2P.PerformHandshake
import GrinPlusPlus.Wallet.ReceiveSlateBuilder
import GrinPlusPlus.Wallet.ReceiveRuns
import GrinPlusPlus.Wallet.WalletSummary
import GrinPlusPlus.Wallet.UserMetadata
