import GrinPlusPlus.Wire.Codec

/-!
# Slates

`class Slate` (`include/Wallet/Models/Slate/Slate.h`, lines 29-147): the fields,
the default constructor, `GetLockHeight` and `operator==`.

The component types (`SlateSignature`, `SlateCommitment`, `SlatePaymentProof`,
`SlateFeatureArgs`, `SlateStage`) and the key and commitment types they hold
are declared in headers that are not in the sources.  They are modelled with
the fields `Slate.h` and `ReceiveSlateBuilder.cpp` use; keys, commitments,
signatures and range proofs are byte strings of the size they are serialized
at.  `EKernelFeatures` is an `enum class` over a byte: a value read from the
wire is any byte (`(EKernelFeatures)byteBuffer.ReadU8()`), so it is modelled
as that byte.
-/

namespace GrinPlusPlus

open Wire

/-- A compressed secp256k1 point, as `PublicKey` serializes it. -/
abbrev PublicKey := Bytes 33
/-- A Pedersen commitment, as `Commitment` serializes it. -/
abbrev Commitment := Bytes 33
/-- A compact Schnorr signature. -/
abbrev CompactSignature := Bytes 64
/-- A Bulletproof, at its serialized size. -/
abbrev RangeProof := Bytes 675
/-- An ed25519 public key (a Tor or Slatepack address). -/
abbrev ED25519PublicKey := Bytes 32
/-- An ed25519 signature. -/
abbrev ED25519Signature := Bytes 64
/-- `uuids::uuid`. -/
abbrev Uuid := Bytes 16
/-- `BlindingFactor`, a 32-byte scalar. -/
abbrev BlindingFactor := Bytes 32

/-- `EKernelFeatures`, an `enum class` over its byte. -/
structure EKernelFeatures where
  toByte : UInt8
  deriving DecidableEq, Repr

namespace EKernelFeatures

/-- `DEFAULT_KERNEL`, Grin's plain kernel. -/
def DEFAULT_KERNEL : EKernelFeatures := ⟨0⟩
/-- `COINBASE_KERNEL`. -/
def COINBASE_KERNEL : EKernelFeatures := ⟨1⟩
/-- `HEIGHT_LOCKED`. -/
def HEIGHT_LOCKED : EKernelFeatures := ⟨2⟩
/-- `NO_RECENT_DUPLICATE`. -/
def NO_RECENT_DUPLICATE : EKernelFeatures := ⟨3⟩

end EKernelFeatures

/-- `EOutputFeatures`, an `enum class` over its byte. -/
structure EOutputFeatures where
  toByte : UInt8
  deriving DecidableEq, Repr

/-- `ESlateStage`: the standard flow (sent, received, finalized) and the
invoice flow (sent, paid, finalized), the slate's status byte. -/
inductive SlateStage where
  | STANDARD_SENT
  | STANDARD_RECEIVED
  | STANDARD_FINALIZED
  | INVOICE_SENT
  | INVOICE_PAID
  | INVOICE_FINALIZED
  deriving DecidableEq, Repr

/-- `SlateSignature`: a participant's public excess and nonce, and its
partial signature once made. -/
structure SlateSignature where
  excess : PublicKey
  nonce : PublicKey
  partialOpt : Option CompactSignature
  deriving DecidableEq, Repr

/-- `SlateCommitment`: an input when `proofOpt` is empty, an output otherwise. -/
structure SlateCommitment where
  features : EOutputFeatures
  commitment : Commitment
  proofOpt : Option RangeProof
  deriving DecidableEq, Repr

/-- `SlatePaymentProof`: the sender and receiver addresses, and the receiver's
signature once made. -/
structure SlatePaymentProof where
  senderAddress : ED25519PublicKey
  receiverAddress : ED25519PublicKey
  receiverSignatureOpt : Option ED25519Signature
  deriving DecidableEq, Repr

/-- `SlateFeatureArgs`: the lock height of a height-locked kernel. -/
structure SlateFeatureArgs where
  lockHeightOpt : Option UInt64
  deriving DecidableEq, Repr

/-- `class Slate`, its public fields in declaration order. -/
structure Slate where
  slateId : Uuid
  stage : SlateStage
  version : UInt16
  blockVersion : UInt16
  numParticipants : UInt8
  ttl : UInt64
  kernelFeatures : EKernelFeatures
  featureArgsOpt : Option SlateFeatureArgs
  offset : BlindingFactor
  amount : UInt64
  fee : UInt64
  sigs : List SlateSignature
  commitments : List SlateCommitment
  proofOpt : Option SlatePaymentProof
  deriving DecidableEq, Repr

namespace Slate

/-- The all-zero `BlindingFactor{}`. -/
def zeroBlindingFactor : BlindingFactor := ⟨List.replicate 32 0, by simp⟩

/-- `Slate(uuid)`, the default constructor. -/
def new (uuid : Uuid) : Slate where
  slateId := uuid
  stage := .STANDARD_SENT
  version := 4
  blockVersion := 4
  numParticipants := 2
  ttl := 0
  kernelFeatures := .DEFAULT_KERNEL
  featureArgsOpt := none
  offset := zeroBlindingFactor
  amount := 0
  fee := 0
  sigs := []
  commitments := []
  proofOpt := none

/-- `GetLockHeight`: the feature args' lock height, `0` when absent. -/
def GetLockHeight (s : Slate) : UInt64 :=
  match s.featureArgsOpt with
  | some featureArgs => featureArgs.lockHeightOpt.getD 0
  | none => 0

/-- `operator==`.  The fourth conjunct is `blockVersion && rhs.blockVersion`,
both block versions nonzero, and `featureArgsOpt` is not compared. -/
def beq (s rhs : Slate) : Bool :=
  s.slateId == rhs.slateId &&
  s.stage == rhs.stage &&
  s.version == rhs.version &&
  (s.blockVersion != 0 && rhs.blockVersion != 0) &&
  s.amount == rhs.amount &&
  s.fee == rhs.fee &&
  s.offset == rhs.offset &&
  s.numParticipants == rhs.numParticipants &&
  s.kernelFeatures == rhs.kernelFeatures &&
  s.ttl == rhs.ttl &&
  s.sigs == rhs.sigs &&
  s.commitments == rhs.commitments &&
  s.proofOpt == rhs.proofOpt

/-- The lock height is set only on a height-locked kernel. -/
def LockHeightOnlyIfHeightLocked (s : Slate) : Prop :=
  ∀ featureArgs ∈ s.featureArgsOpt, featureArgs.lockHeightOpt.isSome →
    s.kernelFeatures = .HEIGHT_LOCKED

/-- `t` carries what `s` carries: every field a slate codec writes, the lock
height in place of the feature args. -/
def Agree (t s : Slate) : Prop :=
  t.version = s.version ∧ t.blockVersion = s.blockVersion ∧ t.slateId = s.slateId ∧
  t.stage = s.stage ∧ t.offset = s.offset ∧ t.numParticipants = s.numParticipants ∧
  t.amount = s.amount ∧ t.fee = s.fee ∧ t.kernelFeatures = s.kernelFeatures ∧
  t.ttl = s.ttl ∧ t.sigs = s.sigs ∧ t.commitments = s.commitments ∧
  t.proofOpt = s.proofOpt ∧ t.GetLockHeight = s.GetLockHeight

end Slate

end GrinPlusPlus
