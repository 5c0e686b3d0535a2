import GrinPlusPlus.Wire.Codec

/-!
# The wallet's user metadata record

`UserMetadata::Serialize` and `UserMetadata::Deserialize`
(`Wallet/WalletDB/UserMetadata.h`): a format byte `USER_METADATA_FORMAT`, the
next transaction id as a `uint32_t` and the refresh block height as a
`uint64_t`.  `Deserialize` throws a `DeserializationException` on any other
format byte, and the byte readers throw past the end of the buffer.

The record is read back as it was written, and nothing else is read:
`Deserialize` succeeds on a byte string exactly when it starts with the
encoding of the record it returns, and leaves the rest
(`Deserialize_eq_ok_iff`).  Its half "only encodings" rests on each integer
reader accepting only what its writer writes (`Codec.Faithful`).
-/

namespace GrinPlusPlus
namespace Wallet

open Wire

/-- `USER_METADATA_FORMAT`. -/
def USER_METADATA_FORMAT : UInt8 := 0

/-- `UserMetadata`. -/
structure UserMetadata where
  nextTxId : UInt32
  refreshBlockHeight : UInt64
  deriving DecidableEq, Repr

namespace UserMetadata

/-- `UserMetadata::Serialize`. -/
def Serialize (m : UserMetadata) : List UInt8 :=
  u8.write USER_METADATA_FORMAT ++ u32.write m.nextTxId ++ u64.write m.refreshBlockHeight

/-- `UserMetadata::Deserialize`. -/
def Deserialize : Reader UserMetadata := do
  if (← u8.read) ≠ USER_METADATA_FORMAT then
    throw {}
  else
    let nextTxId ← u32.read
    let refreshBlockHeight ← u64.read
    pure ⟨nextTxId, refreshBlockHeight⟩

/-- **`UserMetadata` is read back as it was written, and nothing else is
read.**  For every byte string, `Deserialize` returns a record and leaves
`rest` exactly when the string is that record's encoding followed by `rest`:
it reads back every record `Serialize` writes, and it throws on anything that
is not such an encoding (a wrong format byte, fewer than thirteen bytes). -/
theorem Deserialize_eq_ok_iff (bytes rest : List UInt8) (m : UserMetadata) :
    Deserialize.run bytes = .ok (m, rest) ↔ bytes = Serialize m ++ rest := by
  constructor
  · intro h
    obtain ⟨b, s₁, hb, h⟩ := run_bind_eq_ok.1 h
    split at h
    · cases h
    rename_i hb0
    obtain ⟨x, s₃, hx, h⟩ := run_bind_eq_ok.1 h
    obtain ⟨y, s₄, hy, h⟩ := run_bind_eq_ok.1 h
    cases h
    rw [u8_faithful _ _ _ hb, u32_faithful _ _ _ hx, u64_faithful _ _ _ hy, not_not.1 hb0]
    simp [Serialize]
  · rintro rfl
    simp only [Deserialize, Serialize, List.append_assoc, bind_assoc]
    rw [u8.read_bind, if_neg (not_not.2 rfl), u32.read_bind, u64.read_bind]
    rfl

end UserMetadata

end Wallet
end GrinPlusPlus
