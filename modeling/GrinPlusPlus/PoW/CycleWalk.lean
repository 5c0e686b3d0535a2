import GrinPlusPlus.PoW.Cuckarooz
import Mathlib.Data.List.Nodup
import Mathlib.Data.Finset.Card
import Mathlib.Data.Nat.Find

/-!
# The cycle walk of `verify_cuckarooz`

`cuckarooz.hpp`, lines 61-74.  The inner `for k` loop returns the unique other
position holding the endpoint at `i`, keeps `j = i` when there is none, and
fails with `POW_BRANCH` on a second one (`matchEndpoint_of_unique`,
`unique_of_matchEndpoint`, `matchEndpoint_error`).  `followCycle_eq_ok_iff`
then says when the do-while loop returns `POW_OK`, in terms of the positions
`walkPos uv s` it visits.

The walk's one structural fact: matching is an involution on the positions
that have a unique match (`UniqueMatch.symm`), and a step is "match, then
partner" (`unique_walkPos`).  So the walk can neither come back to a position
nor to the partner of one before it is back at `0` (`walkPos_ne`,
`walkPos_ne_xor_one`): its positions lie on distinct edges
(`walkPos_div_two_ne`), and by pigeonhole it is back at `0` within
`PROOFSIZE` steps or stops (`lt_of_walk`, `exists_first_return`).
-/

namespace GrinPlusPlus
namespace Cuckarooz

/-! ## Partners and edges of positions -/

/-- `p ^ 1` flips the low bit: the other endpoint of the same edge. -/
theorem xor_one_eq (p : Nat) : p ^^^ 1 = p + 1 - 2 * (p % 2) := by
  obtain ⟨b, n, rfl⟩ : ∃ b n, p = Nat.bit b n := ⟨_, _, (Nat.bit_decomp p).symm⟩
  rw [show (1 : Nat) = Nat.bit true 0 from rfl, Nat.xor_bit, Nat.xor_zero]
  cases b <;> simp [Nat.bit]
  omega

@[simp] theorem xor_one_xor_one (p : Nat) : p ^^^ 1 ^^^ 1 = p := by
  rw [Nat.xor_assoc, Nat.xor_self, Nat.xor_zero]

theorem xor_one_ne (p : Nat) : p ^^^ 1 ≠ p := by
  rw [xor_one_eq]; omega

theorem xor_one_lt {p : Nat} (h : p < 2 * PROOFSIZE) : p ^^^ 1 < 2 * PROOFSIZE := by
  rw [xor_one_eq]; simp only [PROOFSIZE] at *; omega

/-- Two positions of one edge are equal or partners. -/
theorem eq_or_eq_xor_one_of_div_two {p q : Nat} (h : p / 2 = q / 2) : p = q ∨ p = q ^^^ 1 := by
  rw [xor_one_eq]; omega

/-! ## The inner `for k` loop -/

theorem mem_scanFrom {i k : Nat} (hi : i < 2 * PROOFSIZE) :
    k ∈ scanFrom i ↔ k < 2 * PROOFSIZE ∧ k ≠ i := by
  simp only [scanFrom, List.mem_map, List.mem_range, PROOFSIZE] at *
  constructor
  · rintro ⟨d, hd, rfl⟩; omega
  · rintro ⟨hk, hki⟩; exact ⟨(k + 83 - i) % 84, by omega, by omega⟩

theorem nodup_scanFrom (i : Nat) : (scanFrom i).Nodup :=
  (List.nodup_range _).map_on fun d hd d' hd' h => by
    simp only [List.mem_range, PROOFSIZE] at hd hd' h; omega


variable {uv : List Nat} {i : Nat}

theorem matchStep_of_match {j k : Nat} (hk : uv.getD k 0 = uv.getD i 0) :
    matchStep uv i j k = if j ≠ i then .error .branch else .ok k := by
  simp only [matchStep, hk, if_true]

theorem matchStep_of_not_match {j k : Nat} (hk : uv.getD k 0 ≠ uv.getD i 0) :
    matchStep uv i j k = .ok j := by
  simp only [matchStep, hk, if_false]

/-- From a position `j` that has found a match, any further match is a branch. -/
theorem foldlM_matchStep_of_ne {j : Nat} (hj : j ≠ i) (l : List Nat) :
    l.foldlM (matchStep uv i) j =
      if l.filter (fun k => uv.getD k 0 = uv.getD i 0) = [] then .ok j else .error .branch := by
  induction l with
  | nil => rfl
  | cons k l ih =>
    rw [List.foldlM_cons]
    by_cases hk : uv.getD k 0 = uv.getD i 0
    · rw [matchStep_of_match hk, if_pos hj, List.filter_cons_of_pos (by simpa using hk)]
      rfl
    · rw [matchStep_of_not_match hk, List.filter_cons_of_neg (by simpa using hk)]
      exact ih

/-- The inner loop from `j = i` over positions other than `i`: no match leaves
`i`, one match `k` gives `k`, two or more are a branch. -/
theorem foldlM_matchStep_start (l : List Nat) (hi : i ∉ l) :
    l.foldlM (matchStep uv i) i =
      match l.filter (fun k => uv.getD k 0 = uv.getD i 0) with
      | [] => .ok i
      | [k] => .ok k
      | _ => .error .branch := by
  induction l with
  | nil => rfl
  | cons k l ih =>
    have hki : k ≠ i := fun h => hi (h ▸ List.mem_cons_self k l)
    rw [List.foldlM_cons]
    by_cases hk : uv.getD k 0 = uv.getD i 0
    · rw [matchStep_of_match hk, if_neg (not_not.2 rfl),
        List.filter_cons_of_pos (by simpa using hk)]
      show l.foldlM (matchStep uv i) k = _
      rw [foldlM_matchStep_of_ne hki]
      cases l.filter (fun k => uv.getD k 0 = uv.getD i 0) <;> rfl
    · rw [matchStep_of_not_match hk, List.filter_cons_of_neg (by simpa using hk)]
      exact ih (fun h => hi (List.mem_cons_of_mem k h))


/-! ## What the inner loop finds -/

/-- Position `k` is another position holding the endpoint at `i`. -/
def Matches (uv : List Nat) (i k : Nat) : Prop :=
  k < 2 * PROOFSIZE ∧ k ≠ i ∧ uv.getD k 0 = uv.getD i 0

/-- `j` is the only other position holding the endpoint at `i`. -/
def UniqueMatch (uv : List Nat) (i j : Nat) : Prop :=
  Matches uv i j ∧ ∀ k, Matches uv i k → k = j

theorem mem_filter_scanFrom {k : Nat} (hi : i < 2 * PROOFSIZE) :
    k ∈ (scanFrom i).filter (fun k => uv.getD k 0 = uv.getD i 0) ↔ Matches uv i k := by
  rw [List.mem_filter, mem_scanFrom hi, decide_eq_true_iff, and_assoc]; rfl

theorem matchEndpoint_eq (hi : i < 2 * PROOFSIZE) :
    matchEndpoint uv i =
      match (scanFrom i).filter (fun k => uv.getD k 0 = uv.getD i 0) with
      | [] => .ok i
      | [k] => .ok k
      | _ => .error .branch :=
  foldlM_matchStep_start _ fun h => ((mem_scanFrom hi).1 h).2 rfl

/-- A nodup list whose every element is `j`, and that holds `j`, is `[j]`. -/
theorem eq_singleton_of_nodup {l : List Nat} {j : Nat} (hl : l.Nodup)
    (hall : ∀ x ∈ l, x = j) (hj : j ∈ l) : l = [j] := by
  rw [List.eq_replicate_of_mem hall] at hl hj ⊢
  have := List.nodup_replicate.1 hl
  have := List.length_pos_of_mem hj
  rw [show l.length = 1 by simp_all; omega]; rfl

/-- **A unique match is what the inner loop returns.** -/
theorem matchEndpoint_of_unique {j : Nat} (hi : i < 2 * PROOFSIZE) (h : UniqueMatch uv i j) :
    matchEndpoint uv i = .ok j := by
  rw [matchEndpoint_eq hi, eq_singleton_of_nodup ((nodup_scanFrom i).filter _)
    (fun x hx => h.2 x ((mem_filter_scanFrom hi).1 hx)) ((mem_filter_scanFrom hi).2 h.1)]

/-- **The inner loop returns another position only when it is the unique match.** -/
theorem unique_of_matchEndpoint {j : Nat} (hi : i < 2 * PROOFSIZE)
    (h : matchEndpoint uv i = .ok j) (hj : j ≠ i) : UniqueMatch uv i j := by
  rw [matchEndpoint_eq hi] at h
  split at h
  · exact absurd (Except.ok.inj h).symm hj
  · rename_i k hk
    obtain rfl := Except.ok.inj h
    have hmem : ∀ x, Matches uv i x ↔ x = k := fun x => by
      rw [← mem_filter_scanFrom hi, hk, List.mem_singleton]
    exact ⟨(hmem k).2 rfl, fun x hx => (hmem x).1 hx⟩
  · cases h

/-- The inner loop fails only with `POW_BRANCH`. -/
theorem matchEndpoint_error {r : PowResult} (hi : i < 2 * PROOFSIZE)
    (h : matchEndpoint uv i = .error r) : r = .branch := by
  rw [matchEndpoint_eq hi] at h
  split at h <;> cases h; rfl

theorem lt_of_matchEndpoint {j : Nat} (hi : i < 2 * PROOFSIZE)
    (h : matchEndpoint uv i = .ok j) : j < 2 * PROOFSIZE := by
  by_cases hj : j = i
  · exact hj ▸ hi
  · exact (unique_of_matchEndpoint hi h hj).1.1

theorem UniqueMatch.eq {j j' : Nat} (h : UniqueMatch uv i j) (h' : UniqueMatch uv i j') :
    j' = j :=
  h.2 j' h'.1

/-- Matching is symmetric. -/
theorem UniqueMatch.symm {j : Nat} (hi : i < 2 * PROOFSIZE) (h : UniqueMatch uv i j) :
    UniqueMatch uv j i := by
  obtain ⟨⟨hj, hji, hv⟩, hu⟩ := h
  refine ⟨⟨hi, hji.symm, hv.symm⟩, fun k ⟨hk, hkj, hkv⟩ => ?_⟩
  by_contra hki
  exact hkj (hu k ⟨hk, hki, hkv.trans hv⟩)


/-! ## The walk -/

/-- The position the do-while loop moves to from `i`: the partner `j ^ 1` of
the position `j` the inner loop returns. -/
def nextPos (uv : List Nat) (i : Nat) : Nat :=
  match matchEndpoint uv i with
  | .ok j => j ^^^ 1
  | .error _ => i

/-- The position after `s` iterations of the do-while loop from `i = 0`. -/
def walkPos (uv : List Nat) (s : Nat) : Nat := (nextPos uv)^[s] 0

@[simp] theorem walkPos_zero : walkPos uv 0 = 0 := rfl

theorem walkPos_succ (s : Nat) : walkPos uv (s + 1) = nextPos uv (walkPos uv s) :=
  Function.iterate_succ_apply' _ _ _

theorem nextPos_of_unique {j : Nat} (hi : i < 2 * PROOFSIZE) (h : UniqueMatch uv i j) :
    nextPos uv i = j ^^^ 1 := by
  rw [nextPos, matchEndpoint_of_unique hi h]

theorem nextPos_lt (hi : i < 2 * PROOFSIZE) : nextPos uv i < 2 * PROOFSIZE := by
  unfold nextPos
  split
  · exact xor_one_lt (lt_of_matchEndpoint hi ‹_›)
  · exact hi

theorem walkPos_lt (s : Nat) : walkPos uv s < 2 * PROOFSIZE := by
  induction s with
  | zero => simp [PROOFSIZE]
  | succ s ih => rw [walkPos_succ]; exact nextPos_lt ih

/-- At a position with a unique match the walk moves on to the match's partner. -/
theorem walkPos_succ_of_unique {t j : Nat} (h : UniqueMatch uv (walkPos uv t) j) :
    walkPos uv (t + 1) = j ^^^ 1 := by
  rw [walkPos_succ, nextPos_of_unique (walkPos_lt t) h]

/-- One iteration of the do-while loop at a position with a unique match. -/
theorem followCycle_of_unique {fuel n j : Nat} (hi : i < 2 * PROOFSIZE) (h : UniqueMatch uv i j) :
    followCycle uv (fuel + 1) n i =
      if j ^^^ 1 = 0 then some (if n + 1 = PROOFSIZE then .ok else .shortCycle)
      else followCycle uv fuel (n + 1) (j ^^^ 1) := by
  rw [followCycle, matchEndpoint_of_unique hi h]
  exact if_neg h.1.2.1

/-- The do-while loop reaches `POW_OK` only through positions with a unique match. -/
theorem unique_of_followCycle {fuel n : Nat} (hi : i < 2 * PROOFSIZE)
    (h : followCycle uv (fuel + 1) n i = some .ok) : ∃ j, UniqueMatch uv i j := by
  rw [followCycle] at h
  split at h
  · cases matchEndpoint_error hi ‹_›; cases h
  · rename_i j hj
    by_cases hji : j = i
    · rw [if_pos hji] at h; cases h
    · exact ⟨j, unique_of_matchEndpoint hi hj hji⟩

/-- **When the do-while loop returns `POW_OK`.**  Entered after `t` steps at
`walkPos uv t` with `fuel` iterations left, it returns `POW_OK` exactly when the
walk goes on through positions with a unique match and is first back at `0`
after `PROOFSIZE` steps in all. -/
theorem followCycle_eq_ok_iff (fuel t : Nat) :
    followCycle uv fuel t (walkPos uv t) = some .ok ↔
      t < PROOFSIZE ∧ PROOFSIZE ≤ t + fuel ∧
      (∀ s, t ≤ s → s < PROOFSIZE → ∃ j, UniqueMatch uv (walkPos uv s) j) ∧
      walkPos uv PROOFSIZE = 0 ∧ ∀ s, t < s → s < PROOFSIZE → walkPos uv s ≠ 0 := by
  induction fuel generalizing t with
  | zero => simp only [followCycle, reduceCtorEq, false_iff]; omega
  | succ fuel ih =>
    constructor
    · intro h
      obtain ⟨j, hj⟩ := unique_of_followCycle (walkPos_lt t) h
      rw [followCycle_of_unique (walkPos_lt t) hj, ← walkPos_succ_of_unique hj] at h
      split at h
      · rename_i h0
        have ht : t + 1 = PROOFSIZE := by split at h <;> simp_all
        refine ⟨by omega, by omega, fun s hs hs' => ?_, ht ▸ h0, fun s hs hs' => by omega⟩
        exact ⟨j, by rwa [show s = t by omega]⟩
      · rename_i h0
        obtain ⟨h1, h2, h3, h4, h5⟩ := (ih (t + 1)).1 h
        refine ⟨by omega, by omega, fun s hs hs' => ?_, h4, fun s hs hs' => ?_⟩
        · rcases Nat.eq_or_lt_of_le hs with rfl | hs
          · exact ⟨j, hj⟩
          · exact h3 s hs hs'
        · rcases Nat.eq_or_lt_of_le (Nat.succ_le_of_lt hs) with rfl | hs
          · exact h0
          · exact h5 s hs hs'
    · rintro ⟨h1, h2, h3, h4, h5⟩
      obtain ⟨j, hj⟩ := h3 t le_rfl h1
      rw [followCycle_of_unique (walkPos_lt t) hj, ← walkPos_succ_of_unique hj]
      by_cases ht : t + 1 = PROOFSIZE
      · rw [if_pos (ht ▸ h4), if_pos ht]
      · rw [if_neg (h5 (t + 1) (by omega) (by omega))]
        exact (ih (t + 1)).2 ⟨by omega, by omega, fun s hs hs' => h3 s (by omega) hs', h4,
          fun s hs hs' => h5 s (by omega) hs'⟩


/-! ## The walk never reuses an edge -/

section Distinct

variable {T : Nat} (hU : ∀ r < T, ∃ j, UniqueMatch uv (walkPos uv r) j)
include hU

/-- Step `r` of the walk matches position `r + 1` through its partner. -/
theorem unique_walkPos {r : Nat} (hr : r < T) :
    UniqueMatch uv (walkPos uv r) (walkPos uv (r + 1) ^^^ 1) := by
  obtain ⟨j, hj⟩ := hU r hr
  rwa [walkPos_succ_of_unique hj, xor_one_xor_one]

/-- The walk is not at the partner of an earlier position, within `T` steps. -/
theorem walkPos_ne_xor_one : ∀ g s, 0 < g → s + g ≤ T →
    walkPos uv (s + g) ≠ walkPos uv s ^^^ 1 := by
  intro g
  induction g using Nat.strong_induction_on with
  | _ g ih =>
    intro s hg hT he
    obtain ⟨t, ht⟩ : ∃ t, s + g = t + 1 := ⟨s + g - 1, by omega⟩
    rw [ht] at he
    have hts : UniqueMatch uv (walkPos uv s) (walkPos uv t) := by
      have := (unique_walkPos hU (show t < T by omega)).symm (walkPos_lt t)
      rwa [he, xor_one_xor_one] at this
    have hst := hts.eq (unique_walkPos hU (show s < T by omega))
    rcases Nat.lt_trichotomy t (s + 1) with h | h | h
    · exact hts.1.2.1 (by rw [show t = s by omega])
    · exact xor_one_ne _ (h ▸ hst)
    · exact ih (g - 2) (by omega) (s + 1) (by omega) (by omega)
        (by rw [show s + 1 + (g - 2) = t by omega]; exact hst.symm)

/-- The walk does not revisit a position before it is back at `0`. -/
theorem walkPos_ne (hZ : ∀ r, 0 < r → r ≤ T → walkPos uv r ≠ 0) :
    ∀ s t, s < t → t ≤ T → walkPos uv s ≠ walkPos uv t := by
  intro s
  induction s with
  | zero => intro t ht hT; exact (hZ t ht hT).symm
  | succ s ih =>
    intro t ht hT he
    obtain ⟨t, rfl⟩ : ∃ t', t = t' + 1 := ⟨t - 1, by omega⟩
    have h1 := (unique_walkPos hU (show s < T by omega)).symm (walkPos_lt _)
    have h2 := (unique_walkPos hU (show t < T by omega)).symm (walkPos_lt _)
    rw [he] at h1
    exact ih t (by omega) (by omega) (h1.eq h2).symm

/-- **Within `T` steps the walk visits pairwise distinct edges.** -/
theorem walkPos_div_two_ne (hZ : ∀ r, 0 < r → r ≤ T → walkPos uv r ≠ 0) {s t : Nat}
    (hst : s < t) (ht : t ≤ T) : walkPos uv s / 2 ≠ walkPos uv t / 2 := by
  intro h
  rcases eq_or_eq_xor_one_of_div_two h.symm with h | h
  · exact walkPos_ne hU hZ s t hst ht h.symm
  · exact walkPos_ne_xor_one hU (t - s) s (by omega) (by omega)
      (by rw [show s + (t - s) = t by omega]; exact h)

/-- **Pigeonhole: a walk that stays away from `0` takes fewer than `PROOFSIZE`
steps.**  Its `T + 1` positions lie on distinct edges among `PROOFSIZE`. -/
theorem lt_of_walk (hZ : ∀ r, 0 < r → r ≤ T → walkPos uv r ≠ 0) : T < PROOFSIZE := by
  have := Finset.card_le_card_of_injOn (fun s => walkPos uv s / 2)
    (fun s (_ : s ∈ Finset.range (T + 1)) => show walkPos uv s / 2 ∈ Finset.range PROOFSIZE from
      Finset.mem_range.2 (by have := @walkPos_lt uv s; omega))
    (fun s hs t ht h => by
      simp only [Finset.coe_range, Set.mem_Iio] at hs ht
      by_contra hne
      rcases Nat.lt_or_gt_of_ne hne with hlt | hlt
      · exact walkPos_div_two_ne hU hZ hlt (by omega) h
      · exact walkPos_div_two_ne hU hZ hlt (by omega) h.symm)
  simpa using this

end Distinct


/-- **When every position has a unique match, the walk is back at `0` within
`PROOFSIZE` steps**, at a first return `m`. -/
theorem exists_first_return (hall : ∀ p < 2 * PROOFSIZE, ∃ j, UniqueMatch uv p j) :
    ∃ m, 0 < m ∧ m ≤ PROOFSIZE ∧ walkPos uv m = 0 ∧ ∀ s, 0 < s → s < m → walkPos uv s ≠ 0 := by
  have hex : ∃ r, 0 < r ∧ r ≤ PROOFSIZE ∧ walkPos uv r = 0 := by
    by_contra hne
    push_neg at hne
    exact lt_irrefl _ (lt_of_walk (fun r (_ : r < PROOFSIZE) => hall _ (walkPos_lt r)) hne)
  classical
  refine ⟨Nat.find hex, (Nat.find_spec hex).1, (Nat.find_spec hex).2.1, (Nat.find_spec hex).2.2,
    fun s hs hsm h0 => Nat.find_min hex hsm ⟨hs, ?_, h0⟩⟩
  exact le_trans hsm.le (Nat.find_spec hex).2.1

end Cuckarooz
end GrinPlusPlus
