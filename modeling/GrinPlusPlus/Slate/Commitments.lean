import GrinPlusPlus.Slate.Binary
import Mathlib.Data.List.Nodup

/-!
# Inputs and outputs of a slate

`Slate::GetInputs`, `Slate::GetOutputs`, `Slate::AddInput` and
`Slate::AddOutput` (`Slate.h`, lines 151-203).

A slate keeps its inputs and outputs in one list of `SlateCommitment`s: an
entry without a range proof is an input, one with a proof an output.
`AddInput` appends an input unless some entry already has the commitment;
`AddOutput` gives the first entry with the commitment the proof if it has
none, and appends an output when there is no such entry.  So a commitment added
as an input and later as an output becomes an output in place, and one that is
an output stays one when it is added as an input.

Every call appends at most its own commitment and changes no commitment, so a
run of calls keeps the entries' commitments distinct and in order.  What a run
leaves a commitment held as depends only on what it was held as and on which
calls named it (`heldAs_applyCalls`): an output if it was one or went to
`AddOutput`, otherwise an input if it was one or went to `AddInput`.  On a
slate whose commitments are distinct, that is what `GetInputs` and
`GetOutputs` report.
-/

namespace GrinPlusPlus
namespace Slate

/-- `TransactionInput`: the features and commitment of an input. -/
structure TransactionInput where
  features : EOutputFeatures
  commitment : Commitment
  deriving DecidableEq, Repr

/-- `TransactionOutput`: the features, commitment and range proof of an output. -/
structure TransactionOutput where
  features : EOutputFeatures
  commitment : Commitment
  proof : RangeProof
  deriving DecidableEq, Repr

/-- `Slate::GetInputs`: the entries without a range proof, in order. -/
def GetInputs (s : Slate) : List TransactionInput :=
  s.commitments.filterMap fun com =>
    match com.proofOpt with
    | none => some ⟨com.features, com.commitment⟩
    | some _ => none

/-- `Slate::GetOutputs`: the entries with a range proof, in order. -/
def GetOutputs (s : Slate) : List TransactionOutput :=
  s.commitments.filterMap fun com =>
    com.proofOpt.map fun proof => ⟨com.features, com.commitment, proof⟩

/-- `Slate::AddInput`: an input, unless some entry already has the commitment. -/
def AddInput (s : Slate) (features : EOutputFeatures) (commitment : Commitment) : Slate :=
  if s.commitments.any (·.commitment == commitment) then s
  else { s with commitments := s.commitments ++ [⟨features, commitment, none⟩] }

/-- The loop of `Slate::AddOutput`: the first entry with the commitment takes
the proof if it has none, and the loop returns; past the last entry the output
is appended. -/
def addOutputLoop (features : EOutputFeatures) (commitment : Commitment) (proof : RangeProof) :
    List SlateCommitment → List SlateCommitment
  | [] => [⟨features, commitment, some proof⟩]
  | com :: coms =>
    if com.commitment = commitment then
      (match com.proofOpt with
        | none => { com with proofOpt := some proof }
        | some _ => com) :: coms
    else com :: addOutputLoop features commitment proof coms

/-- `Slate::AddOutput`. -/
def AddOutput (s : Slate) (features : EOutputFeatures) (commitment : Commitment)
    (proof : RangeProof) : Slate :=
  { s with commitments := addOutputLoop features commitment proof s.commitments }

/-- The commitments of `GetInputs`. -/
def inputCommitments (s : Slate) : List Commitment := (GetInputs s).map (·.commitment)

/-- The commitments of `GetOutputs`. -/
def outputCommitments (s : Slate) : List Commitment := (GetOutputs s).map (·.commitment)

/-- The commitments of all entries, in order. -/
def entryCommitments (s : Slate) : List Commitment := s.commitments.map (·.commitment)

/-- What the first entry with a commitment holds it as: `none` when there is no
such entry, `some false` as an input, `some true` as an output. -/
def heldAs (coms : List SlateCommitment) (commitment : Commitment) : Option Bool :=
  (coms.find? (·.commitment == commitment)).map (·.proofOpt.isSome)

/-- `c` appended unless it is there already. -/
def insertNew (c : Commitment) (cs : List Commitment) : List Commitment :=
  if c ∈ cs then cs else cs ++ [c]

/-! ## One call -/

theorem mem_inputCommitments {s : Slate} {d : Commitment} :
    d ∈ s.inputCommitments ↔
      ∃ com ∈ s.commitments, com.commitment = d ∧ com.proofOpt.isSome = false := by
  simp only [inputCommitments, GetInputs, List.mem_map, List.mem_filterMap]
  constructor
  · rintro ⟨_, ⟨com, hcom, h⟩, rfl⟩
    cases hp : com.proofOpt <;> simp [hp] at h
    exact ⟨com, hcom, by rw [← h], by simp [hp]⟩
  · rintro ⟨com, hcom, rfl, hp⟩
    cases hq : com.proofOpt with
    | none => exact ⟨⟨com.features, com.commitment⟩, ⟨com, hcom, by simp [hq]⟩, rfl⟩
    | some _ => simp [hq] at hp

theorem mem_outputCommitments {s : Slate} {d : Commitment} :
    d ∈ s.outputCommitments ↔
      ∃ com ∈ s.commitments, com.commitment = d ∧ com.proofOpt.isSome = true := by
  simp only [outputCommitments, GetOutputs, List.mem_map, List.mem_filterMap, Option.map_eq_some']
  constructor
  · rintro ⟨_, ⟨com, hcom, p, hp, rfl⟩, rfl⟩
    exact ⟨com, hcom, rfl, by simp [hp]⟩
  · rintro ⟨com, hcom, rfl, hp⟩
    obtain ⟨p, hp⟩ := Option.isSome_iff_exists.1 hp
    exact ⟨_, ⟨com, hcom, p, hp, rfl⟩, rfl⟩

/-- With distinct commitments, the first entry with a commitment is the only one. -/
theorem heldAs_eq_some {coms : List SlateCommitment} (h : (coms.map (·.commitment)).Nodup)
    {d : Commitment} {b : Bool} :
    heldAs coms d = some b ↔
      ∃ com ∈ coms, com.commitment = d ∧ com.proofOpt.isSome = b := by
  induction coms with
  | nil => simp [heldAs]
  | cons com coms ih =>
    rw [List.map_cons, List.nodup_cons] at h
    by_cases hd : com.commitment = d
    · subst hd
      simp only [heldAs, List.find?_cons, beq_self_eq_true, Option.map_some', Option.some.injEq,
        List.mem_cons]
      refine ⟨fun hb => ⟨com, .inl rfl, rfl, hb⟩, ?_⟩
      rintro ⟨x, rfl | hx, hxc, hb⟩
      · exact hb
      · exact absurd (List.mem_map.2 ⟨x, hx, hxc⟩) h.1
    · have hb : (com.commitment == d) = false := by simp [hd]
      simp only [heldAs, List.find?_cons, hb] at ih ⊢
      simp [ih h.2, hd]

theorem heldAs_eq_none {coms : List SlateCommitment} {d : Commitment} :
    heldAs coms d = none ↔ coms.any (·.commitment == d) = false := by
  simp [heldAs, List.find?_eq_none]

theorem heldAs_append (coms : List SlateCommitment) (com : SlateCommitment) (d : Commitment) :
    heldAs (coms ++ [com]) d =
      (heldAs coms d).or (if com.commitment = d then some com.proofOpt.isSome else none) := by
  unfold heldAs
  rw [List.find?_append]
  cases coms.find? (·.commitment == d) <;> by_cases h : com.commitment = d <;> simp [h]

/-- `AddInput` makes a commitment that no entry has an input. -/
theorem heldAs_AddInput (s : Slate) (features : EOutputFeatures) (c d : Commitment) :
    heldAs (s.AddInput features c).commitments d =
      (heldAs s.commitments d).or (if c = d then some false else none) := by
  unfold AddInput
  by_cases hcd : c = d
  · subst hcd
    cases hb : heldAs s.commitments c with
    | none => simp [heldAs_eq_none.1 hb, heldAs_append, hb]
    | some b =>
      have hany : s.commitments.any (·.commitment == c) = true := by
        simpa using mt heldAs_eq_none.2 (by simp [hb])
      simp [hany, hb]
  · split <;> simp [heldAs_append, hcd]

/-- `AddOutput` makes its commitment an output and leaves every other as it was. -/
theorem heldAs_addOutputLoop (features : EOutputFeatures) (c : Commitment) (proof : RangeProof)
    (coms : List SlateCommitment) (d : Commitment) :
    heldAs (addOutputLoop features c proof coms) d =
      if c = d then some true else heldAs coms d := by
  induction coms with
  | nil => by_cases hcd : c = d <;> simp [addOutputLoop, heldAs, hcd]
  | cons com coms ih =>
    by_cases hc : com.commitment = c
    · subst hc
      by_cases hcd : com.commitment = d <;> cases hp : com.proofOpt <;>
        simp [addOutputLoop, heldAs, hp, hcd]
    · by_cases hcd : c = d <;> by_cases hd : com.commitment = d <;>
        simp_all [addOutputLoop, heldAs, List.find?_cons]

/-! ## The entries' commitments -/

theorem nodup_insertNew {c : Commitment} {cs : List Commitment} (h : cs.Nodup) :
    (insertNew c cs).Nodup := by
  unfold insertNew
  split
  · exact h
  · exact h.append (List.nodup_singleton c) (List.disjoint_singleton.2 ‹_›)

theorem prefix_insertNew (c : Commitment) (cs : List Commitment) : cs <+: insertNew c cs := by
  unfold insertNew
  split
  · exact List.prefix_refl cs
  · exact List.prefix_append cs [c]

theorem entryCommitments_AddInput (s : Slate) (features : EOutputFeatures) (c : Commitment) :
    (s.AddInput features c).entryCommitments = insertNew c s.entryCommitments := by
  unfold AddInput insertNew entryCommitments
  by_cases h : ∃ x ∈ s.commitments, x.commitment = c <;> simp [h]

theorem map_addOutputLoop (features : EOutputFeatures) (c : Commitment) (proof : RangeProof)
    (coms : List SlateCommitment) :
    (addOutputLoop features c proof coms).map (·.commitment) =
      insertNew c (coms.map (·.commitment)) := by
  induction coms with
  | nil => rfl
  | cons com coms ih =>
    by_cases hc : com.commitment = c
    · cases hp : com.proofOpt <;> simp [addOutputLoop, insertNew, hc, hp]
    · simp only [addOutputLoop, hc, if_false, List.map_cons, ih, insertNew]
      by_cases hm : c ∈ coms.map (·.commitment) <;> simp [hm, Ne.symm hc]

/-! ## Runs of calls -/

/-- A call on a slate's inputs and outputs. -/
inductive CommitmentCall where
  | addInput (features : EOutputFeatures) (commitment : Commitment)
  | addOutput (features : EOutputFeatures) (commitment : Commitment) (proof : RangeProof)
  deriving DecidableEq, Repr

/-- The commitment a call names. -/
def CommitmentCall.commitment : CommitmentCall → Commitment
  | .addInput _ commitment => commitment
  | .addOutput _ commitment _ => commitment

/-- One call on a slate. -/
def CommitmentCall.apply (s : Slate) : CommitmentCall → Slate
  | .addInput features commitment => s.AddInput features commitment
  | .addOutput features commitment proof => s.AddOutput features commitment proof

/-- A run of calls, in order. -/
def applyCalls (s : Slate) (calls : List CommitmentCall) : Slate :=
  calls.foldl CommitmentCall.apply s

/-- The commitments passed to `AddInput`. -/
def inputArgs (calls : List CommitmentCall) : List Commitment :=
  calls.filterMap fun
    | .addInput _ commitment => some commitment
    | .addOutput .. => none

/-- The commitments passed to `AddOutput`. -/
def outputArgs (calls : List CommitmentCall) : List Commitment :=
  calls.filterMap fun
    | .addInput .. => none
    | .addOutput _ commitment _ => some commitment

theorem entryCommitments_apply (s : Slate) (call : CommitmentCall) :
    (call.apply s).entryCommitments = insertNew call.commitment s.entryCommitments := by
  cases call with
  | addInput features c => exact entryCommitments_AddInput s features c
  | addOutput features c proof => exact map_addOutputLoop features c proof s.commitments

/-- A run keeps the entries' commitments distinct. -/
theorem nodup_applyCalls (calls : List CommitmentCall) :
    ∀ s : Slate, s.entryCommitments.Nodup → (applyCalls s calls).entryCommitments.Nodup := by
  induction calls with
  | nil => exact fun _ h => h
  | cons call calls ih =>
    intro s h
    apply ih
    rw [entryCommitments_apply]
    exact nodup_insertNew h

/-- A run removes no entry and changes no entry's commitment or place. -/
theorem prefix_applyCalls (calls : List CommitmentCall) :
    ∀ s : Slate, s.entryCommitments <+: (applyCalls s calls).entryCommitments := by
  induction calls with
  | nil => exact fun s => List.prefix_refl _
  | cons call calls ih =>
    intro s
    refine List.IsPrefix.trans ?_ (ih (call.apply s))
    rw [entryCommitments_apply]
    exact prefix_insertNew _ _

/-- **What a run leaves a commitment held as**: an output if it was one or was
passed to `AddOutput`, otherwise an input if it was one or was passed to
`AddInput`, otherwise nothing. -/
theorem heldAs_applyCalls (calls : List CommitmentCall) :
    ∀ (s : Slate) (d : Commitment), heldAs (applyCalls s calls).commitments d =
      if d ∈ outputArgs calls ∨ heldAs s.commitments d = some true then some true
      else if d ∈ inputArgs calls ∨ heldAs s.commitments d = some false then some false
      else none := by
  induction calls with
  | nil =>
    intro s d
    rcases h : heldAs s.commitments d with _ | _ | _ <;> simp [applyCalls, outputArgs, inputArgs, h]
  | cons call calls ih =>
    intro s d
    rw [show applyCalls s (call :: calls) = applyCalls (call.apply s) calls from rfl, ih]
    cases call with
    | addInput features c =>
      simp only [CommitmentCall.apply, heldAs_AddInput, inputArgs, outputArgs,
        List.filterMap_cons, List.mem_cons]
      by_cases hcd : c = d
      · subst hcd
        rcases heldAs s.commitments c with _ | _ | _ <;> simp
      · simp [hcd, Ne.symm hcd]
    | addOutput features c proof =>
      simp only [CommitmentCall.apply, AddOutput, heldAs_addOutputLoop, inputArgs, outputArgs,
        List.filterMap_cons, List.mem_cons]
      by_cases hcd : c = d
      · subst hcd; simp
      · simp [Ne.symm hcd, hcd]

theorem mem_outputCommitments_iff {s : Slate} (h : s.entryCommitments.Nodup) {d : Commitment} :
    d ∈ s.outputCommitments ↔ heldAs s.commitments d = some true :=
  mem_outputCommitments.trans (heldAs_eq_some h).symm

theorem mem_inputCommitments_iff {s : Slate} (h : s.entryCommitments.Nodup) {d : Commitment} :
    d ∈ s.inputCommitments ↔ heldAs s.commitments d = some false :=
  mem_inputCommitments.trans (heldAs_eq_some h).symm

/-- `AddInput` with a commitment that is there changes nothing. -/
theorem AddInput_AddInput (s : Slate) (features : EOutputFeatures) (c : Commitment) :
    (s.AddInput features c).AddInput features c = s.AddInput features c := by
  unfold AddInput
  split <;> simp [*]

/-- A second `AddOutput` of the same output finds it with its proof. -/
theorem addOutputLoop_addOutputLoop (features : EOutputFeatures) (c : Commitment)
    (proof : RangeProof) (coms : List SlateCommitment) :
    addOutputLoop features c proof (addOutputLoop features c proof coms) =
      addOutputLoop features c proof coms := by
  induction coms with
  | nil => simp [addOutputLoop]
  | cons com coms ih =>
    by_cases hc : com.commitment = c
    · cases hp : com.proofOpt <;> simp [addOutputLoop, hc, hp]
    · simp [addOutputLoop, hc, ih]

theorem CommitmentCall.apply_apply (s : Slate) (call : CommitmentCall) :
    call.apply (call.apply s) = call.apply s := by
  cases call with
  | addInput features c => exact AddInput_AddInput s features c
  | addOutput features c proof =>
    simp only [CommitmentCall.apply, AddOutput, addOutputLoop_addOutputLoop]

/-! ## Inputs and outputs after a run -/

theorem perm_inputArgs {calls calls' : List CommitmentCall} (hp : calls.Perm calls') :
    (inputArgs calls).Perm (inputArgs calls') :=
  hp.filterMap _

theorem perm_outputArgs {calls calls' : List CommitmentCall} (hp : calls.Perm calls') :
    (outputArgs calls).Perm (outputArgs calls') :=
  hp.filterMap _

section Run

variable {s : Slate} (h : s.entryCommitments.Nodup)
include h

theorem mem_outputCommitments_applyCalls (calls : List CommitmentCall) (d : Commitment) :
    d ∈ (s.applyCalls calls).outputCommitments ↔
      d ∈ s.outputCommitments ∨ d ∈ outputArgs calls := by
  rw [mem_outputCommitments_iff (nodup_applyCalls calls s h), heldAs_applyCalls,
    mem_outputCommitments_iff h]
  split_ifs <;> simp_all [or_comm]

theorem mem_inputCommitments_applyCalls (calls : List CommitmentCall) (d : Commitment) :
    d ∈ (s.applyCalls calls).inputCommitments ↔
      (d ∈ s.inputCommitments ∨ d ∈ inputArgs calls) ∧
        ¬(d ∈ s.outputCommitments ∨ d ∈ outputArgs calls) := by
  rw [mem_inputCommitments_iff (nodup_applyCalls calls s h), heldAs_applyCalls,
    mem_inputCommitments_iff h, mem_outputCommitments_iff h]
  split_ifs <;> simp_all [or_comm]

end Run

/-- **Inputs and outputs after a run of `AddInput` and `AddOutput` calls.**
From a slate whose entries have distinct commitments, a run keeps them
distinct, removes no entry and moves none; the outputs are the initial outputs
and the commitments passed to `AddOutput`; the inputs are the initial inputs
and the commitments passed to `AddInput`, less every commitment that was an
output or was passed to `AddOutput`.  Each call is idempotent on every slate,
and the input and output commitments do not depend on the order of the calls. -/
theorem applyCalls_inputs_outputs (s : Slate) (calls : List CommitmentCall)
    (h : s.entryCommitments.Nodup) :
    (s.applyCalls calls).entryCommitments.Nodup ∧
      s.entryCommitments <+: (s.applyCalls calls).entryCommitments ∧
      (∀ d, d ∈ (s.applyCalls calls).outputCommitments ↔
        d ∈ s.outputCommitments ∨ d ∈ outputArgs calls) ∧
      (∀ d, d ∈ (s.applyCalls calls).inputCommitments ↔
        (d ∈ s.inputCommitments ∨ d ∈ inputArgs calls) ∧
          ¬(d ∈ s.outputCommitments ∨ d ∈ outputArgs calls)) ∧
      (∀ (t : Slate) (call : CommitmentCall), call.apply (call.apply t) = call.apply t) ∧
      (∀ calls', calls.Perm calls' →
        (∀ d, d ∈ (s.applyCalls calls).inputCommitments ↔
          d ∈ (s.applyCalls calls').inputCommitments) ∧
        (∀ d, d ∈ (s.applyCalls calls).outputCommitments ↔
          d ∈ (s.applyCalls calls').outputCommitments)) := by
  refine ⟨nodup_applyCalls calls s h, prefix_applyCalls calls s,
    mem_outputCommitments_applyCalls h calls, mem_inputCommitments_applyCalls h calls,
    CommitmentCall.apply_apply, fun calls' hp => ⟨fun d => ?_, fun d => ?_⟩⟩
  · rw [mem_inputCommitments_applyCalls h, mem_inputCommitments_applyCalls h,
      (perm_inputArgs hp).mem_iff, (perm_outputArgs hp).mem_iff]
  · rw [mem_outputCommitments_applyCalls h, mem_outputCommitments_applyCalls h,
      (perm_outputArgs hp).mem_iff]

/-- The all-zero commitment. -/
def zeroCommitment : Commitment := ⟨List.replicate 33 0, List.length_replicate _ _⟩

/-- A slate holding one output, of the zero commitment. -/
def ownOutputSlate : Slate :=
  { Slate.new nilUuid with
    commitments :=
      [⟨⟨0⟩, zeroCommitment, some ⟨List.replicate 675 0, List.length_replicate _ _⟩⟩] }

theorem applyCalls_inputs_outputs_ownOutput :
    ownOutputSlate.entryCommitments.Nodup ∧
      (ownOutputSlate.applyCalls [.addInput ⟨0⟩ zeroCommitment]).entryCommitments.Nodup ∧
      ownOutputSlate.entryCommitments <+:
        (ownOutputSlate.applyCalls [.addInput ⟨0⟩ zeroCommitment]).entryCommitments ∧
      (∀ d,
        d ∈ (ownOutputSlate.applyCalls [.addInput ⟨0⟩ zeroCommitment]).outputCommitments ↔
          d ∈ ownOutputSlate.outputCommitments ∨
            d ∈ outputArgs [.addInput ⟨0⟩ zeroCommitment]) ∧
      (∀ d,
        d ∈ (ownOutputSlate.applyCalls [.addInput ⟨0⟩ zeroCommitment]).inputCommitments ↔
          (d ∈ ownOutputSlate.inputCommitments ∨
              d ∈ inputArgs [.addInput ⟨0⟩ zeroCommitment]) ∧
            ¬(d ∈ ownOutputSlate.outputCommitments ∨
            d ∈ outputArgs [.addInput ⟨0⟩ zeroCommitment])) ∧
      (∀ (t : Slate) (call : CommitmentCall), call.apply (call.apply t) = call.apply t) ∧
      (∀ calls', [CommitmentCall.addInput ⟨0⟩ zeroCommitment].Perm calls' →
        (∀ d,
          d ∈ (ownOutputSlate.applyCalls [.addInput ⟨0⟩ zeroCommitment]).inputCommitments ↔
            d ∈ (ownOutputSlate.applyCalls calls').inputCommitments) ∧
        (∀ d,
          d ∈ (ownOutputSlate.applyCalls [.addInput ⟨0⟩ zeroCommitment]).outputCommitments ↔
            d ∈ (ownOutputSlate.applyCalls calls').outputCommitments)) :=
  ⟨by decide, applyCalls_inputs_outputs _ _ (by decide)⟩

/-- **An output added as an input stays an output.**  `AddInput` of the
commitment of the slate's own output finds it and returns, so that commitment
is no input afterwards, though it went to `AddInput` and to no `AddOutput`. -/
theorem AddInput_ownOutput_not_input :
    ownOutputSlate.entryCommitments.Nodup ∧
      ¬∀ d,
        d ∈ (ownOutputSlate.applyCalls [.addInput ⟨0⟩ zeroCommitment]).inputCommitments ↔
          (d ∈ ownOutputSlate.inputCommitments ∨
              d ∈ inputArgs [.addInput ⟨0⟩ zeroCommitment]) ∧
            d ∉ outputArgs [.addInput ⟨0⟩ zeroCommitment] :=
  ⟨by decide,
    fun h => absurd ((h zeroCommitment).2 ⟨.inr (by decide), by decide⟩) (by decide)⟩

end Slate
end GrinPlusPlus
