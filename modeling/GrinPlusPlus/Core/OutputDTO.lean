import GrinPlusPlus.Slate.Json
import GrinPlusPlus.Except

/-!
# The output DTO and its JSON

`OutputDTO::ToJSON` and `OutputDTO::FromJSON` (`Core/Models/DTOs/OutputDTO.h`,
lines 37-72).

`ToJSON` writes `"spent": false` whatever the DTO's own flag, and `FromJSON`
reads `spent` back: a spent output comes back unspent whatever the helpers do
(`spent_FromJSON_ToJSON`).  Where the helpers
read back what their partners wrote, the identifier and the range proof
survive, and the location is whatever `OutputLocation::FromJSON` makes of the
`block_height` and the shifted `mmr_index` (`FromJSON_ToJSON`).

The conversions the two call are not in the sources: `OutputFeatures`'
strings, the commitment's hex, the range proof's format and hash, the `JsonUtil`
readers of a commitment and a range proof, and `OutputLocation::FromJSON`.
They are the parameters `OutputJsonCodecs`, with the laws that each reader
undoes its writer; `OutputLocation::FromJSON` gets none.  `byteCodecs`, which
writes every byte as one character, meets the laws.
-/

namespace GrinPlusPlus

namespace JsonUtil

/-- `JsonUtil::GetRequiredBool`: a boolean member; missing or of another type,
a `DESERIALIZE_FIELD_EXCEPTION`. -/
def GetRequiredBool (json : Json) (key : String) : Except JsonException Bool :=
  match json.get? key with
  | some (.bool b) => .ok b
  | _ => .error (.deserializeField key)

end JsonUtil

/-- `OutputIdentifier`: features and commitment. -/
structure OutputIdentifier where
  features : EOutputFeatures
  commitment : Commitment
  deriving DecidableEq, Repr

/-- `OutputLocation`: the MMR index and the block height of an output. -/
structure OutputLocation where
  mmrIndex : UInt64
  blockHeight : UInt64
  deriving DecidableEq, Repr

/-- `OutputDTO`. -/
structure OutputDTO where
  spent : Bool
  identifier : OutputIdentifier
  location : OutputLocation
  rangeProof : RangeProof
  deriving DecidableEq, Repr

/-- The conversions `OutputDTO::ToJSON` and `FromJSON` call that are not in the
sources. -/
structure OutputJsonCodecs where
  /-- `OutputFeatures::ToString`. -/
  featuresToString : EOutputFeatures → String
  /-- `OutputFeatures::FromString`. -/
  featuresFromString : String → Except JsonException EOutputFeatures
  /-- `Commitment::ToHex`. -/
  commitmentToHex : Commitment → String
  /-- `JsonUtil::GetCommitment`. -/
  GetCommitment : Json → String → Except JsonException Commitment
  /-- `RangeProof::Format`. -/
  proofFormat : RangeProof → String
  /-- `Crypto::Blake2b` of the serialized range proof, in hex. -/
  proofHash : RangeProof → String
  /-- `JsonUtil::GetRangeProof`. -/
  GetRangeProof : Json → String → Except JsonException RangeProof
  /-- `OutputLocation::FromJSON`. -/
  locationFromJSON : Json → Except JsonException OutputLocation

/-- Each reader reads back what its writer wrote. -/
structure OutputJsonCodecs.Lawful (cj : OutputJsonCodecs) : Prop where
  featuresFromString_featuresToString :
    ∀ features, cj.featuresFromString (cj.featuresToString features) = .ok features
  GetCommitment_commitmentToHex : ∀ json key commitment,
    json.get? key = some (.str (cj.commitmentToHex commitment)) →
      cj.GetCommitment json key = .ok commitment
  GetRangeProof_proofFormat : ∀ json key proof,
    json.get? key = some (.str (cj.proofFormat proof)) → cj.GetRangeProof json key = .ok proof

namespace OutputDTO

/-- `OutputDTO::ToJSON`.  `mmr_index` is the `uint64_t` sum `GetMMRIndex() + 1`. -/
def ToJSON (cj : OutputJsonCodecs) (d : OutputDTO) : Json :=
  .obj [("output_type", .str (cj.featuresToString d.identifier.features)),
    ("commit", .str (cj.commitmentToHex d.identifier.commitment)),
    ("spent", .bool false),
    ("proof", .str (cj.proofFormat d.rangeProof)),
    ("proof_hash", .str (cj.proofHash d.rangeProof)),
    ("block_height", .num d.location.blockHeight.toNat),
    ("merkle_proof", .null),
    ("mmr_index", .num (d.location.mmrIndex + 1).toNat)]

/-- `OutputDTO::FromJSON`. -/
def FromJSON (cj : OutputJsonCodecs) (json : Json) : Except JsonException OutputDTO := do
  let spent ← JsonUtil.GetRequiredBool json "spent"
  let features ← cj.featuresFromString (← JsonUtil.GetRequiredString json "output_type")
  let commit ← cj.GetCommitment json "commit"
  let proof ← cj.GetRangeProof json "proof"
  let location ← cj.locationFromJSON json
  pure ⟨spent, ⟨features, commit⟩, location, proof⟩

/-- **A DTO read back from its JSON.**  With lawful helpers, `FromJSON` of
`ToJSON d` is `d` with `spent` cleared and the location `OutputLocation::FromJSON`
reads, and throws only where that does. -/
theorem FromJSON_ToJSON {cj : OutputJsonCodecs} (hc : cj.Lawful) (d : OutputDTO) :
    FromJSON cj (ToJSON cj d) =
      (cj.locationFromJSON (ToJSON cj d)).map fun location =>
        ⟨false, d.identifier, location, d.rangeProof⟩ := by
  have hcommit := hc.GetCommitment_commitmentToHex (ToJSON cj d) "commit"
    d.identifier.commitment rfl
  have hproof := hc.GetRangeProof_proofFormat (ToJSON cj d) "proof" d.rangeProof rfl
  have hfeatures := hc.featuresFromString_featuresToString d.identifier.features
  cases hl : cj.locationFromJSON (ToJSON cj d) <;>
    simp [FromJSON, JsonUtil.GetRequiredBool, JsonUtil.GetRequiredString, hl, hcommit, hproof,
      hfeatures, bind, Except.bind, pure, Except.pure, Except.map,
      show (ToJSON cj d).get? "spent" = some (.bool false) from rfl,
      show (ToJSON cj d).get? "output_type" =
        some (.str (cj.featuresToString d.identifier.features)) from rfl]

/-! ## A lawful set of helpers

Helpers that write each byte as the character of that code and read it back,
so that `FromJSON_ToJSON` applies to a concrete output. -/

/-- Each byte as the character of that code. -/
def byteChars (bytes : List UInt8) : String :=
  String.mk (bytes.map fun b => Char.ofNat b.toNat)

/-- The bytes of a string written by `byteChars`. -/
def charBytes (s : String) : List UInt8 :=
  s.data.map fun c => c.toNat.toUInt8

theorem charBytes_byteChars (bytes : List UInt8) : charBytes (byteChars bytes) = bytes := by
  have hbyte (b : UInt8) : (Char.ofNat b.toNat).toNat.toUInt8 = b := by
    have hb : b.toNat < 256 := b.val.isLt
    rw [Char.ofNat, dif_pos (Or.inl (by omega))]
    exact UInt8.toNat.inj (by
      simp only [Char.ofNatAux, Char.toNat, Nat.toUInt8, UInt32.toNat, BitVec.toNat_ofNatLt]
      exact UInt8.toNat_ofNat_of_lt hb)
  simp only [charBytes, byteChars, List.map_map, Function.comp_def, hbyte, List.map_id']

/-- `n` bytes read back from a string member. -/
def readBytesMember (n : Nat) (json : Json) (key : String) :
    Except JsonException (Wire.Bytes n) :=
  match JsonUtil.GetRequiredString json key with
  | .ok s => if h : (charBytes s).length = n then .ok ⟨charBytes s, h⟩ else .error .exception
  | .error e => .error e

theorem readBytesMember_byteChars {n : Nat} {json : Json} {key : String} {b : Wire.Bytes n}
    (h : json.get? key = some (.str (byteChars b.data))) : readBytesMember n json key = .ok b := by
  have hlen : (charBytes (byteChars b.data)).length = n := by
    rw [charBytes_byteChars]; exact b.length_eq
  simp only [readBytesMember, JsonUtil.GetRequiredString, h, dif_pos hlen]
  congr 1
  cases b
  simp only [charBytes_byteChars]

/-- Helpers whose readers undo their writers byte by byte; the location is read
back from `block_height` and `mmr_index`. -/
def byteCodecs : OutputJsonCodecs where
  featuresToString features := byteChars [features.toByte]
  featuresFromString s := match charBytes s with
    | [b] => .ok ⟨b⟩
    | _ => .error .exception
  commitmentToHex commitment := byteChars commitment.data
  GetCommitment := readBytesMember 33
  proofFormat proof := byteChars proof.data
  proofHash _ := ""
  GetRangeProof := readBytesMember 675
  locationFromJSON json := match json.get? "block_height", json.get? "mmr_index" with
    | some (.num blockHeight), some (.num mmrIndex) =>
      .ok ⟨UInt64.ofNat mmrIndex - 1, UInt64.ofNat blockHeight⟩
    | _, _ => .error .exception

theorem byteCodecs_lawful : byteCodecs.Lawful where
  featuresFromString_featuresToString features := by
    simp only [byteCodecs, charBytes_byteChars]
  GetCommitment_commitmentToHex _ _ _ h := readBytesMember_byteChars h
  GetRangeProof_proofFormat _ _ _ h := readBytesMember_byteChars h

/-- A spent plain output at block height 7 and MMR index 41. -/
def spentOutput : OutputDTO :=
  ⟨true, ⟨⟨0⟩, ⟨List.replicate 33 9, List.length_replicate _ _⟩⟩, ⟨41, 7⟩,
    ⟨List.replicate 675 0, List.length_replicate _ _⟩⟩

/-- With `byteCodecs`, `spentOutput` comes back whole but unspent. -/
theorem FromJSON_ToJSON_spentOutput :
    byteCodecs.Lawful ∧ FromJSON byteCodecs (ToJSON byteCodecs spentOutput) =
      (byteCodecs.locationFromJSON (ToJSON byteCodecs spentOutput)).map fun location =>
        ⟨false, spentOutput.identifier, location, spentOutput.rangeProof⟩ :=
  ⟨byteCodecs_lawful, FromJSON_ToJSON byteCodecs_lawful spentOutput⟩

/-- What `FromJSON` returns has the `spent` member of its JSON. -/
theorem GetRequiredBool_of_FromJSON {cj : OutputJsonCodecs} {json : Json} {r : OutputDTO}
    (h : FromJSON cj json = .ok r) : JsonUtil.GetRequiredBool json "spent" = .ok r.spent := by
  simp only [FromJSON, Except.bind_eq_ok_iff, Except.pure_eq_ok_iff] at h
  obtain ⟨spent, hspent, h⟩ := h
  repeat obtain ⟨_, -, h⟩ := h
  exact hspent

/-- **`ToJSON` loses the spent flag.**  Whatever the helpers do,
`FromJSON (ToJSON d)` never returns a spent output. -/
theorem spent_FromJSON_ToJSON (cj : OutputJsonCodecs) (d : OutputDTO) :
    (FromJSON cj (ToJSON cj d)).map OutputDTO.spent ≠ .ok true := by
  intro h
  obtain ⟨r, hr, hspent⟩ := Except.map_eq_ok_iff.1 h
  have hread := GetRequiredBool_of_FromJSON hr
  rw [hspent] at hread
  cases hread

end OutputDTO

end GrinPlusPlus
