import GrinPlusPlus.Slate.Binary
import GrinPlusPlus.Except

/-!
# The JSON slate codec

`Slate::ToJSON` and `Slate::FromJSON` (`Slate.h`, lines 358-460).

`ToJSON` writes `feat` and, under `assert(featureArgsOpt.has_value())`,
`feat_args` for every kernel other than `DEFAULT_KERNEL`.  `FromJSON` reads
`feat` but never `feat_args`: the line where it would is `// TODO: Feat args`.
So a slate `FromJSON` returns never has feature args (`featureArgsOpt_FromJSON`)
and its lock height is `0`, and a height-locked slate loses its lock height
through `FromJSON (ToJSON s)` (`FromJSON_ToJSON_heightLocked`), whatever the
JSON helpers and component codecs do.

`Json::Value` is a tree of objects, arrays, strings, numbers and booleans.
`JsonUtil`'s readers and the component `ToJSON`/`FromJSON` are not in the
sources; the component conversions are parameters (`SlateJsonCodecs`), and the
readers are modelled from their names: a required field throws when absent, an
optional one is absent when missing or `null`, and a number may be given as a
decimal string.
-/

namespace GrinPlusPlus

open Wire

/-- `Json::Value`. -/
inductive Json where
  | null
  | bool (b : Bool)
  | num (n : Nat)
  | str (s : String)
  | arr (elems : List Json)
  | obj (fields : List (String × Json))
  deriving Repr

/-- The exceptions `FromJSON` throws: `std::exception`, a
`DESERIALIZE_FIELD_EXCEPTION` naming its field, and `std::invalid_argument`
from `std::stoul`. -/
inductive JsonException where
  | exception
  | deserializeField (field : String)
  | invalidArgument
  deriving DecidableEq, Repr

namespace Json

/-- The member `key` of an object. -/
def get? (json : Json) (key : String) : Option Json :=
  match json with
  | obj fields => fields.lookup key
  | _ => none

end Json

namespace JsonUtil

/-- `JsonUtil::GetOptionalField`: the member, absent when missing or `null`. -/
def GetOptionalField (json : Json) (key : String) : Option Json :=
  match json.get? key with
  | some .null => none
  | v => v

/-- `JsonUtil::GetRequiredString`. -/
def GetRequiredString (json : Json) (key : String) : Except JsonException String :=
  match json.get? key with
  | some (.str s) => .ok s
  | _ => .error (.deserializeField key)

/-- `std::stoul`: the decimal value of a string. -/
def stoul (s : String) : Except JsonException Nat :=
  match s.toNat? with
  | some n => .ok n
  | none => .error .invalidArgument

/-- A number member, given as a number or as a decimal string. -/
def GetNatOpt (json : Json) (key : String) : Except JsonException (Option Nat) :=
  match GetOptionalField json key with
  | some (.num n) => .ok (some n)
  | some (.str s) => some <$> stoul s
  | some _ => .error (.deserializeField key)
  | none => .ok none

/-- `JsonUtil::GetUInt8Opt`. -/
def GetUInt8Opt (json : Json) (key : String) : Except JsonException (Option UInt8) :=
  (·.map UInt8.ofNat) <$> GetNatOpt json key

/-- `JsonUtil::GetUInt64Opt`. -/
def GetUInt64Opt (json : Json) (key : String) : Except JsonException (Option UInt64) :=
  (·.map UInt64.ofNat) <$> GetNatOpt json key

/-- `JsonUtil::GetRequiredArray`. -/
def GetRequiredArray (json : Json) (key : String) : Except JsonException (List Json) :=
  match json.get? key with
  | some (.arr elems) => .ok elems
  | _ => .error (.deserializeField key)

/-- `JsonUtil::GetArray`: an absent member is the empty array. -/
def GetArray (json : Json) (key : String) : Except JsonException (List Json) :=
  match GetOptionalField json key with
  | some (.arr elems) => .ok elems
  | some _ => .error (.deserializeField key)
  | none => .ok []

end JsonUtil

/-- The conversions `Slate::ToJSON` and `Slate::FromJSON` call that are not in
the sources: uuid strings, stage strings, the offset's hex, and the component
`ToJSON`/`FromJSON`. -/
structure SlateJsonCodecs where
  uuidToString : Uuid → String
  uuidFromString : String → Option Uuid
  stageToString : SlateStage → String
  stageFromString : String → Except JsonException SlateStage
  offsetToHex : BlindingFactor → String
  getBlindingFactorOpt : Json → String → Except JsonException (Option BlindingFactor)
  featureArgsToJSON : SlateFeatureArgs → Json
  sigToJSON : SlateSignature → Json
  sigFromJSON : Json → Except JsonException SlateSignature
  comToJSON : SlateCommitment → Json
  comFromJSON : Json → Except JsonException SlateCommitment
  proofToJSON : SlatePaymentProof → Json
  proofFromJSON : Json → Except JsonException SlatePaymentProof

namespace Slate

/-- `StringUtil::Format("{}:{}", version, blockVersion)`. -/
def versionString (s : Slate) : String := toString s.version ++ ":" ++ toString s.blockVersion

/-- `json[key] = value` when `present`. -/
def member (present : Bool) (key : String) (value : Json) : List (String × Json) :=
  if present then [(key, value)] else []

/-- `Slate::ToJSON`.  `none` is the failed `assert(featureArgsOpt.has_value())`
(and the `bad_optional_access` of `featureArgsOpt.value()` after it): a kernel
other than `DEFAULT_KERNEL` without feature args. -/
def ToJSON (cj : SlateJsonCodecs) (s : Slate) : Option Json := do
  let featMembers ← if s.kernelFeatures ≠ .DEFAULT_KERNEL then do
      let featureArgs ← s.featureArgsOpt
      pure [("feat", Json.num s.kernelFeatures.toByte.toNat),
        ("feat_args", cj.featureArgsToJSON featureArgs)]
    else pure []
  pure <| .obj <|
    [("ver", .str s.versionString), ("id", .str (cj.uuidToString s.slateId)),
      ("sta", .str (cj.stageToString s.stage))] ++
    member (s.offset != zeroBlindingFactor) "off" (.str (cj.offsetToHex s.offset)) ++
    member (s.numParticipants != 2) "num_parts" (.str (toString s.numParticipants)) ++
    member (s.fee != 0) "fee" (.str (toString s.fee)) ++
    member (s.amount != 0) "amt" (.str (toString s.amount)) ++
    featMembers ++
    member (s.ttl != 0) "ttl" (.str (toString s.ttl)) ++
    [("sigs", .arr (s.sigs.map cj.sigToJSON)), ("coms", .arr (s.commitments.map cj.comToJSON))] ++
    (match s.proofOpt with
      | some proof => [("proof", cj.proofToJSON proof)]
      | none => [])

/-- `Slate::FromJSON`.  It reads `feat` into `kernelFeatures` and leaves
`featureArgsOpt` at the default of `Slate()` (`// TODO: Feat args`). -/
def FromJSON (cj : SlateJsonCodecs) (json : Json) : Except JsonException Slate := do
  let versionParts := (← JsonUtil.GetRequiredString json "ver").splitOn ":"
  if versionParts.length ≠ 2 then throw .exception
  let some slateId := cj.uuidFromString (← JsonUtil.GetRequiredString json "id")
    | throw (.deserializeField "id")
  let version := UInt16.ofNat (← JsonUtil.stoul (versionParts.getD 0 ""))
  let blockVersion := UInt16.ofNat (← JsonUtil.stoul (versionParts.getD 1 ""))
  let stage ← cj.stageFromString (← JsonUtil.GetRequiredString json "sta")
  let offset := (← cj.getBlindingFactorOpt json "off").getD zeroBlindingFactor
  let numParticipants := (← JsonUtil.GetUInt8Opt json "num_parts").getD 2
  let fee := (← JsonUtil.GetUInt64Opt json "fee").getD 0
  let amount := (← JsonUtil.GetUInt64Opt json "amt").getD 0
  let kernelFeatures : EKernelFeatures := ⟨(← JsonUtil.GetUInt8Opt json "feat").getD 0⟩
  let ttl := (← JsonUtil.GetUInt64Opt json "ttl").getD 0
  let sigs ← (← JsonUtil.GetRequiredArray json "sigs").mapM cj.sigFromJSON
  let commitments ← (← JsonUtil.GetArray json "coms").mapM cj.comFromJSON
  let proofOpt ← match JsonUtil.GetOptionalField json "proof" with
    | some proofJson => some <$> cj.proofFromJSON proofJson
    | none => pure none
  pure { Slate.new slateId with
    version, blockVersion, stage, offset, numParticipants, fee, amount, kernelFeatures, ttl,
    sigs, commitments, proofOpt }

/-- **`FromJSON` never sets feature args** (`// TODO: Feat args`): every path
through it throws or ends in `pure { Slate.new slateId with … }`. -/
theorem featureArgsOpt_FromJSON {cj : SlateJsonCodecs} {json : Json} {t : Slate}
    (h : FromJSON cj json = .ok t) : t.featureArgsOpt = none := by
  simp only [FromJSON] at h
  repeat' first | obtain ⟨_, -, h⟩ := Except.bind_eq_ok_iff.mp h | split at h
  all_goals first | cases h; done | (injection h with h; subst h; rfl)

theorem GetLockHeight_FromJSON {cj : SlateJsonCodecs} {json : Json} {t : Slate}
    (h : FromJSON cj json = .ok t) : t.GetLockHeight = 0 := by
  rw [GetLockHeight, featureArgsOpt_FromJSON h]

end Slate

/-- **A height-locked slate loses its lock height through JSON.**  Whatever the
conversions, `ToJSON` of the height-locked slate with lock height `1000`
succeeds (its feature args are present), and `FromJSON` of that JSON throws
or returns lock height `0`. -/
theorem FromJSON_ToJSON_heightLocked (cj : SlateJsonCodecs) :
    heightLockedSlate.GetLockHeight = 1000 ∧ ∃ json, heightLockedSlate.ToJSON cj = some json ∧
      ∀ t, Slate.FromJSON cj json = .ok t → t.GetLockHeight = 0 :=
  ⟨rfl, _, rfl, fun _ h => Slate.GetLockHeight_FromJSON h⟩

end GrinPlusPlus
