import GrinPlusPlus.Slate.Basic

/-!
# The binary slate codec

`Slate::Serialize` and `Slate::Deserialize` (`Slate.h`, lines 205-356).

After the versions, the id, the stage and the offset, one byte
(`OptionalFieldStatus`) says which of five fields follow: each is written only
when it differs from the default `Slate()` gives it, and read only when its bit
is set.  The signatures follow with a one-byte count; a second byte
(`OptionalStructStatus`) says whether the commitments (with a two-byte count)
and the payment proof follow; a height-locked kernel ends with its lock height.

`Deserialize_Serialize`: for every slate with at most 255 signatures and at
most 65535 commitments whose lock height is set only on a height-locked
kernel, and for every component codec with a round trip, reading what
`Serialize` wrote gives back a slate that agrees with it in every field
(`Slate.Agree`) and consumes exactly those bytes.  No hypothesis on the kernel
features is needed: any byte is written and read back.
-/

namespace GrinPlusPlus

open Wire

/-- The codecs of the components `Slate::Serialize` calls, whose headers are
not in the sources: the stage byte, `SlateSignature`, `SlateCommitment` and
`SlatePaymentProof`, each with its round trip. -/
structure SlateCodecs where
  stage : Codec SlateStage
  sig : Codec SlateSignature
  com : Codec SlateCommitment
  proof : Codec SlatePaymentProof

namespace Slate

/-- `BitUtil::IsSet`: bit `i` of `byte`. -/
def IsSet (byte : UInt8) (i : Nat) : Bool := byte.toNat.testBit i

/-- `OptionalFieldStatus`: bits 0 to 4 say whether `num_parts`, `amt`, `fee`,
`feat` and `ttl` are present. -/
structure OptionalFieldStatus where
  include_num_parts : Bool
  include_amt : Bool
  include_fee : Bool
  include_feat : Bool
  include_ttl : Bool
  deriving DecidableEq, Repr

/-- `OptionalFieldStatus::ToByte`. -/
def OptionalFieldStatus.ToByte (status : OptionalFieldStatus) : UInt8 :=
  (if status.include_num_parts then (1 : UInt8) else 0) |||
    (if status.include_amt then (1 : UInt8) <<< 1 else 0) |||
    (if status.include_fee then (1 : UInt8) <<< 2 else 0) |||
    (if status.include_feat then (1 : UInt8) <<< 3 else 0) |||
    (if status.include_ttl then (1 : UInt8) <<< 4 else 0)

/-- `OptionalFieldStatus::FromByte`. -/
def OptionalFieldStatus.FromByte (byte : UInt8) : OptionalFieldStatus :=
  ⟨IsSet byte 0, IsSet byte 1, IsSet byte 2, IsSet byte 3, IsSet byte 4⟩

@[simp] theorem OptionalFieldStatus.FromByte_ToByte (status : OptionalFieldStatus) :
    FromByte status.ToByte = status := by
  rcases status with ⟨_ | _, _ | _, _ | _, _ | _, _ | _⟩ <;> decide

/-- `OptionalStructStatus`: bits 0 and 1 say whether `coms` and `proof` are
present. -/
structure OptionalStructStatus where
  include_coms : Bool
  include_proof : Bool
  deriving DecidableEq, Repr

/-- `OptionalStructStatus::ToByte`. -/
def OptionalStructStatus.ToByte (status : OptionalStructStatus) : UInt8 :=
  (if status.include_coms then (1 : UInt8) else 0) ||| (if status.include_proof then (1 : UInt8) <<< 1 else 0)

/-- `OptionalStructStatus::FromByte`. -/
def OptionalStructStatus.FromByte (byte : UInt8) : OptionalStructStatus :=
  ⟨IsSet byte 0, IsSet byte 1⟩

@[simp] theorem OptionalStructStatus.FromByte_ToByte (status : OptionalStructStatus) :
    FromByte status.ToByte = status := by
  rcases status with ⟨_ | _, _ | _⟩ <;> decide

/-- `(uint8_t)kernelFeatures` and `(EKernelFeatures)byteBuffer.ReadU8()`. -/
def kernelFeaturesCodec : Codec EKernelFeatures :=
  u8.map EKernelFeatures.mk EKernelFeatures.toByte fun _ => rfl

/-- The field status `Serialize` writes: a field is present when it differs
from its default. -/
def fieldStatusOf (s : Slate) : OptionalFieldStatus where
  include_num_parts := s.numParticipants != 2
  include_amt := s.amount != 0
  include_fee := s.fee != 0
  include_feat := s.kernelFeatures != .DEFAULT_KERNEL
  include_ttl := s.ttl != 0

/-- The struct status `Serialize` writes. -/
def structStatusOf (s : Slate) : OptionalStructStatus where
  include_coms := !s.commitments.isEmpty
  include_proof := s.proofOpt.isSome

/-- `Slate::Serialize`. -/
def Serialize (c : SlateCodecs) (s : Slate) : List UInt8 :=
  u16.write s.version ++ u16.write s.blockVersion ++ (bytes 16).write s.slateId ++
    c.stage.write s.stage ++ (bytes 32).write s.offset ++
    u8.write (fieldStatusOf s).ToByte ++
    writeIf (fieldStatusOf s).include_num_parts u8.write s.numParticipants ++
    writeIf (fieldStatusOf s).include_amt u64.write s.amount ++
    writeIf (fieldStatusOf s).include_fee u64.write s.fee ++
    writeIf (fieldStatusOf s).include_feat kernelFeaturesCodec.write s.kernelFeatures ++
    writeIf (fieldStatusOf s).include_ttl u64.write s.ttl ++
    u8.write (UInt8.ofNat s.sigs.length) ++ s.sigs.flatMap c.sig.write ++
    u8.write (structStatusOf s).ToByte ++
    (if (structStatusOf s).include_coms then
      u16.write (UInt16.ofNat s.commitments.length) ++ s.commitments.flatMap c.com.write
    else []) ++
    writeOptional c.proof.write s.proofOpt ++
    (if s.kernelFeatures = .HEIGHT_LOCKED then u64.write s.GetLockHeight else [])

/-- Lines 334-341: the commitments, after a two-byte count, when their bit is set. -/
def readComs (c : SlateCodecs) (include_coms : Bool) : Reader (List SlateCommitment) :=
  if include_coms then u16.read >>= fun numComs => readMany c.com.read numComs.toNat
  else pure []

/-- Lines 347-353: feature args for a kernel other than `DEFAULT_KERNEL`, with
the lock height of a `HEIGHT_LOCKED` one. -/
def readFeatureArgs (kernelFeatures : EKernelFeatures) : Reader (Option SlateFeatureArgs) :=
  if kernelFeatures ≠ .DEFAULT_KERNEL then
    readOptional (kernelFeatures == .HEIGHT_LOCKED) u64.read >>= fun lockHeightOpt =>
      pure (some ⟨lockHeightOpt⟩)
  else pure none

/-- `Slate::Deserialize`.  A field that is not read keeps the value of the
default constructor `Slate()`. -/
def Deserialize (c : SlateCodecs) : Reader Slate := do
  let version ← u16.read
  let blockVersion ← u16.read
  let slateId ← (bytes 16).read
  let stage ← c.stage.read
  let offset ← (bytes 32).read
  let fieldStatus := OptionalFieldStatus.FromByte (← u8.read)
  let numParticipants ← readIf fieldStatus.include_num_parts u8.read 2
  let amount ← readIf fieldStatus.include_amt u64.read 0
  let fee ← readIf fieldStatus.include_fee u64.read 0
  let kernelFeatures ← readIf fieldStatus.include_feat kernelFeaturesCodec.read .DEFAULT_KERNEL
  let ttl ← readIf fieldStatus.include_ttl u64.read 0
  let numSigs ← u8.read
  let sigs ← readMany c.sig.read numSigs.toNat
  let structStatus := OptionalStructStatus.FromByte (← u8.read)
  let commitments ← readComs c structStatus.include_coms
  let proofOpt ← readOptional structStatus.include_proof c.proof.read
  let featureArgsOpt ← readFeatureArgs kernelFeatures
  pure ⟨slateId, stage, version, blockVersion, numParticipants, ttl, kernelFeatures,
    featureArgsOpt, offset, amount, fee, sigs, commitments, proofOpt⟩

@[simp] theorem ite_bne_self {α : Type} [DecidableEq α] (a d : α) :
    (if (a != d) = true then a else d) = a := by
  by_cases h : a = d <;> simp [h]

theorem readComs_bind {β : Type} (c : SlateCodecs) (l : List SlateCommitment)
    (hl : l.length ≤ 65535) (f : List SlateCommitment → Reader β) (rest : List UInt8) :
    (readComs c (!l.isEmpty) >>= f).run
      ((if (!l.isEmpty) = true then
        u16.write (UInt16.ofNat l.length) ++ l.flatMap c.com.write else []) ++ rest) =
      (f l).run rest := by
  cases l with
  | nil => rfl
  | cons a l =>
    have h16 : (UInt16.ofNat (a :: l).length).toNat = (a :: l).length :=
      UInt16.toNat_ofNat_of_lt (by unfold UInt16.size; omega)
    simp only [readComs, List.isEmpty_cons, Bool.not_false, if_true, bind_assoc,
      List.append_assoc, Codec.read_bind, h16, Codec.readMany_bind]

theorem readFeatureArgs_bind {β : Type} (kernelFeatures : EKernelFeatures) (lockHeight : UInt64)
    (f : Option SlateFeatureArgs → Reader β) (rest : List UInt8) :
    (readFeatureArgs kernelFeatures >>= f).run
      ((if kernelFeatures = .HEIGHT_LOCKED then u64.write lockHeight else []) ++ rest) =
      (f (if kernelFeatures = .HEIGHT_LOCKED then some ⟨some lockHeight⟩
        else if kernelFeatures ≠ .DEFAULT_KERNEL then some ⟨none⟩ else none)).run rest := by
  by_cases hh : kernelFeatures = .HEIGHT_LOCKED
  · subst hh
    simp only [readFeatureArgs, if_true, ne_eq, show EKernelFeatures.HEIGHT_LOCKED ≠ .DEFAULT_KERNEL
      by decide, not_false_eq_true, beq_self_eq_true, readOptional, bind_assoc, pure_bind,
      u64.read_bind]
  · by_cases hd : kernelFeatures = .DEFAULT_KERNEL
    · simp only [readFeatureArgs, if_neg hh, hd, ne_eq, not_true_eq_false, if_false,
        List.nil_append]
      rfl
    · simp [readFeatureArgs, hh, hd, readOptional]

/-- The lock height of a slate whose lock height is set only on a
height-locked kernel is `0` on any other kernel. -/
theorem GetLockHeight_eq_zero {s : Slate} (hlock : s.LockHeightOnlyIfHeightLocked)
    (hk : s.kernelFeatures ≠ .HEIGHT_LOCKED) : s.GetLockHeight = 0 := by
  unfold GetLockHeight
  split
  · rename_i featureArgs h
    cases hl : featureArgs.lockHeightOpt with
    | none => rfl
    | some _ => exact absurd (hlock featureArgs h (by simp [hl])) hk
  · rfl

/-- **`Deserialize` reads back what `Serialize` wrote, and exactly that.** -/
theorem Deserialize_Serialize (c : SlateCodecs) (s : Slate) (rest : List UInt8)
    (hsigs : s.sigs.length ≤ 255) (hcoms : s.commitments.length ≤ 65535)
    (hlock : s.LockHeightOnlyIfHeightLocked) :
    ∃ t, (Deserialize c).run (Serialize c s ++ rest) = .ok (t, rest) ∧ t.Agree s := by
  have h8 : (UInt8.ofNat s.sigs.length).toNat = s.sigs.length :=
    UInt8.toNat_ofNat_of_lt (by unfold UInt8.size; omega)
  simp only [Deserialize, Serialize, List.append_assoc, Codec.read_bind,
    OptionalFieldStatus.FromByte_ToByte, Codec.readIf_bind, h8, Codec.readMany_bind,
    OptionalStructStatus.FromByte_ToByte, structStatusOf, readComs_bind _ _ hcoms,
    Codec.readOptional_bind, fieldStatusOf, ite_bne_self, readFeatureArgs_bind]
  refine ⟨_, rfl, rfl, rfl, rfl, rfl, rfl, rfl, rfl, rfl, rfl, rfl, rfl, rfl, rfl, ?_⟩
  by_cases hk : s.kernelFeatures = .HEIGHT_LOCKED
  · simp [GetLockHeight, hk]
  · rw [GetLockHeight_eq_zero hlock hk]
    simp only [GetLockHeight, if_neg hk]
    split_ifs <;> rfl

end Slate

/-- The first four bytes `Serialize` writes are the two versions. -/
theorem Slate.take_four_Serialize (c : SlateCodecs) (s : Slate) :
    (Slate.Serialize c s).take 4 = u16.write s.version ++ u16.write s.blockVersion := by
  simp only [Slate.Serialize, List.append_assoc]
  rw [← List.append_assoc]
  exact List.take_left' (by rw [List.length_append]; rfl)

/-! ## One set of component codecs -/

/-- The status byte of a stage, `1` to `6`. -/
def SlateStage.ToByte : SlateStage → UInt8
  | .STANDARD_SENT => 1
  | .STANDARD_RECEIVED => 2
  | .STANDARD_FINALIZED => 3
  | .INVOICE_SENT => 4
  | .INVOICE_PAID => 5
  | .INVOICE_FINALIZED => 6

/-- The stage of a status byte. -/
def SlateStage.FromByte : UInt8 → Option SlateStage
  | 1 => some .STANDARD_SENT
  | 2 => some .STANDARD_RECEIVED
  | 3 => some .STANDARD_FINALIZED
  | 4 => some .INVOICE_SENT
  | 5 => some .INVOICE_PAID
  | 6 => some .INVOICE_FINALIZED
  | _ => none

/-- Component codecs in the v4 layout: fixed-size keys, commitments, proofs
and signatures, a presence byte before each optional one. -/
def SlateCodecs.v4 : SlateCodecs where
  stage := Codec.byteEnum SlateStage.ToByte SlateStage.FromByte fun a => by cases a <;> rfl
  sig := ((bytes 33).prod ((bytes 33).prod (bytes 64).option)).map
    (fun p => ⟨p.1, p.2.1, p.2.2⟩) (fun s => (s.excess, s.nonce, s.partialOpt)) fun _ => rfl
  com := (u8.prod ((bytes 33).prod (bytes 675).option)).map
    (fun p => ⟨⟨p.1⟩, p.2.1, p.2.2⟩) (fun c => (c.features.toByte, c.commitment, c.proofOpt))
    fun _ => rfl
  proof := ((bytes 32).prod ((bytes 32).prod (bytes 64).option)).map
    (fun p => ⟨p.1, p.2.1, p.2.2⟩)
    (fun p => (p.senderAddress, p.receiverAddress, p.receiverSignatureOpt)) fun _ => rfl

/-- The nil uuid. -/
def nilUuid : Uuid := ⟨List.replicate 16 0, by simp⟩

/-- A height-locked slate with lock height `1000`. -/
def heightLockedSlate : Slate :=
  { Slate.new nilUuid with
    kernelFeatures := .HEIGHT_LOCKED, featureArgsOpt := some ⟨some 1000⟩ }

theorem Deserialize_Serialize_heightLocked :
    heightLockedSlate.sigs.length ≤ 255 ∧ heightLockedSlate.commitments.length ≤ 65535 ∧
      heightLockedSlate.LockHeightOnlyIfHeightLocked ∧
      ∃ t, (Slate.Deserialize SlateCodecs.v4).run (Slate.Serialize SlateCodecs.v4 heightLockedSlate) =
        .ok (t, []) ∧ t.Agree heightLockedSlate := by
  have hlock : heightLockedSlate.LockHeightOnlyIfHeightLocked := fun _ _ _ => rfl
  have h := Slate.Deserialize_Serialize SlateCodecs.v4 heightLockedSlate [] (by decide) (by decide)
    hlock
  rw [List.append_nil] at h
  exact ⟨by decide, by decide, hlock, h⟩

/-- The default slate with block version `3`. -/
def blockVersion3Slate : Slate := { Slate.new nilUuid with blockVersion := 3 }

/-- **`operator==` does not compare block versions**: it tests both for
nonzero, so the default slate equals its copy with block version `3`, which
`Serialize` writes differently, whatever the component codecs. -/
theorem beq_blockVersion3Slate (c : SlateCodecs) :
    (Slate.new nilUuid).beq blockVersion3Slate = true ∧
      Slate.Serialize c (Slate.new nilUuid) ≠ Slate.Serialize c blockVersion3Slate := by
  refine ⟨by decide, fun h => ?_⟩
  have h4 := congrArg (List.take 4) h
  rw [Slate.take_four_Serialize, Slate.take_four_Serialize] at h4
  exact absurd h4 (by decide)

end GrinPlusPlus
