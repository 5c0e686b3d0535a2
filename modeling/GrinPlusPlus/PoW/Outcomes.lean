import GrinPlusPlus.PoW.Verify

/-!
# Every result of `verify_cuckarooz`

`cuckarooz.hpp`, lines 45-75.  `verifyCuckarooz_eq_some_iff` says, for every
keyed hash, every `PROOFSIZE` edge indices and every result, when
`verify_cuckarooz` returns it.

The first loop reports the first index at fault: `POW_TOO_BIG` when it is above
`EDGEMASK`, otherwise `POW_TOO_SMALL` when it is not above its predecessor
(`endpointLoop_eq_error_iff`).  On valid indices the XOR check gives
`POW_NON_MATCHING`, and otherwise the walk decides at the first step where it
stops: `POW_DEAD_END` at a position whose endpoint no other position holds,
`POW_BRANCH` at one whose endpoint two or more others hold, and `POW_OK` or
`POW_SHORT_CYCLE` when it is back at position `0`, after `PROOFSIZE` steps or
fewer (`followCycle_eq_some_iff`).  The inner loop's three outcomes are
`matchEndpoint_cases`.
-/

namespace GrinPlusPlus
namespace Cuckarooz

variable {uv : List Nat} {i : Nat}

/-! ## The inner loop's three outcomes -/

/-- **The inner `for k` loop**: no other position holds the endpoint at `i`
and `j` stays `i`; two or more do and it fails with `POW_BRANCH`; or exactly
one does and it returns that one. -/
theorem matchEndpoint_cases (hi : i < 2 * PROOFSIZE) :
    (matchEndpoint uv i = .ok i ∧ ∀ k, ¬Matches uv i k) ∨
      (matchEndpoint uv i = .error .branch ∧
        ∃ k k', k ≠ k' ∧ Matches uv i k ∧ Matches uv i k') ∨
      ∃ j, matchEndpoint uv i = .ok j ∧ UniqueMatch uv i j := by
  have hmem : ∀ k, k ∈ (scanFrom i).filter (fun k => uv.getD k 0 = uv.getD i 0) ↔
      Matches uv i k := fun k => mem_filter_scanFrom hi
  have hnodup := (nodup_scanFrom i).filter (fun k => uv.getD k 0 = uv.getD i 0)
  rw [matchEndpoint_eq hi]
  revert hmem hnodup
  generalize (scanFrom i).filter (fun k => uv.getD k 0 = uv.getD i 0) = l
  intro hmem hnodup
  match l with
  | [] => exact .inl ⟨rfl, fun k hk => by simpa using (hmem k).2 hk⟩
  | [j] =>
    refine .inr (.inr ⟨j, rfl, (hmem j).1 (List.mem_singleton_self j), fun k hk => ?_⟩)
    simpa using (hmem k).2 hk
  | k :: k' :: _ =>
    refine .inr (.inl ⟨rfl, k, k', ?_, (hmem k).1 (by simp), (hmem k').1 (by simp)⟩)
    exact fun h => (List.nodup_cons.1 hnodup).1 (h ▸ List.mem_cons_self _ _)

theorem not_uniqueMatch_of_two {k k' : Nat} (hkk : k ≠ k') (hk : Matches uv i k)
    (hk' : Matches uv i k') (j : Nat) : ¬UniqueMatch uv i j :=
  fun h => hkk ((h.2 k hk).trans (h.2 k' hk').symm)

/-! ## Where the walk stops -/

/-- The do-while loop stops at step `T` with result `r`: at a position whose
endpoint no other position holds (`POW_DEAD_END`), at one whose endpoint two
or more others hold (`POW_BRANCH`), or when the unique match's partner is
position `0`, which is `POW_OK` at step `PROOFSIZE` and `POW_SHORT_CYCLE`
before. -/
def StopsAt (uv : List Nat) (T : Nat) (r : PowResult) : Prop :=
  (r = .deadEnd ∧ ∀ k, ¬Matches uv (walkPos uv T) k) ∨
    (r = .branch ∧ ∃ k k', k ≠ k' ∧ Matches uv (walkPos uv T) k ∧ Matches uv (walkPos uv T) k') ∨
    ((∃ j, UniqueMatch uv (walkPos uv T) j) ∧ walkPos uv (T + 1) = 0 ∧
      r = if T + 1 = PROOFSIZE then .ok else .shortCycle)

/-- **One iteration of the do-while loop**, entered after `t` steps at
`walkPos uv t`: it stops there with `r`, or it moves on through a unique match
to a position other than `0` and the rest of the loop returns `r`. -/
theorem followCycle_succ_iff (fuel t : Nat) (r : PowResult) :
    followCycle uv (fuel + 1) t (walkPos uv t) = some r ↔
      StopsAt uv t r ∨ ((∃ j, UniqueMatch uv (walkPos uv t) j) ∧ walkPos uv (t + 1) ≠ 0 ∧
        followCycle uv fuel (t + 1) (walkPos uv (t + 1)) = some r) := by
  have hi := @walkPos_lt uv t
  rw [followCycle]
  rcases matchEndpoint_cases hi with ⟨hm, hno⟩ | ⟨hm, k, k', hkk, hk, hk'⟩ | ⟨j, hm, hj⟩
  · have hnu : ∀ j, ¬UniqueMatch uv (walkPos uv t) j := fun j h => hno j h.1
    simp only [hm, if_true, Option.some.injEq, StopsAt]
    constructor
    · rintro rfl; exact .inl (.inl ⟨rfl, hno⟩)
    · rintro ((⟨rfl, -⟩ | ⟨-, k, -, -, hk, -⟩ | ⟨⟨j, hj⟩, -⟩) | ⟨⟨j, hj⟩, -⟩)
      · rfl
      all_goals first | exact absurd hk (hno k) | exact absurd hj (hnu j)
  · have hnu := not_uniqueMatch_of_two hkk hk hk'
    simp only [hm, Option.some.injEq, StopsAt]
    constructor
    · rintro rfl; exact .inl (.inr (.inl ⟨rfl, k, k', hkk, hk, hk'⟩))
    · rintro ((⟨-, hno⟩ | ⟨rfl, -⟩ | ⟨⟨j, hj⟩, -⟩) | ⟨⟨j, hj⟩, -⟩)
      · exact absurd hk (hno k)
      · rfl
      all_goals exact absurd hj (hnu j)
  · have hnext := walkPos_succ_of_unique hj
    have hnd : ¬∀ k, ¬Matches uv (walkPos uv t) k := fun h => h j hj.1
    have hnb : ¬∃ k k', k ≠ k' ∧ Matches uv (walkPos uv t) k ∧ Matches uv (walkPos uv t) k' :=
      fun ⟨k, k', hkk, hk, hk'⟩ => not_uniqueMatch_of_two hkk hk hk' j hj
    simp only [hm, if_neg hj.1.2.1, StopsAt, hnd, hnb, and_false, false_or, hnext]
    by_cases h0 : j ^^^ 1 = 0
    · simp only [h0, if_true, Option.some.injEq, ne_eq, not_true_eq_false, false_and, and_false,
        true_and, or_false]
      exact ⟨fun h => ⟨⟨j, hj⟩, h.symm⟩, fun h => h.2.symm⟩
    · simp only [h0, if_false, false_and, and_false, false_or, ne_eq, not_false_eq_true, true_and]
      exact ⟨fun h => ⟨⟨j, hj⟩, h⟩, fun h => h.2⟩

/-- **What the do-while loop returns**, entered after `t` steps with `fuel`
iterations left: `r` exactly when the walk stops with `r` at some step `T`
within the fuel, having gone through positions with a unique match and not
back to `0` before. -/
theorem followCycle_eq_some_iff (fuel t : Nat) (r : PowResult) :
    followCycle uv fuel t (walkPos uv t) = some r ↔
      ∃ T, t ≤ T ∧ T < t + fuel ∧
        (∀ s, t ≤ s → s < T → ∃ j, UniqueMatch uv (walkPos uv s) j) ∧
        (∀ s, t < s → s ≤ T → walkPos uv s ≠ 0) ∧ StopsAt uv T r := by
  induction fuel generalizing t with
  | zero => simp only [followCycle, reduceCtorEq, false_iff]; omega
  | succ fuel ih =>
    rw [followCycle_succ_iff, ih]
    constructor
    · rintro (h | ⟨hU, h0, T, hT, hT', hUs, hZs, hS⟩)
      · exact ⟨t, le_rfl, by omega, fun s hs hs' => by omega, fun s hs hs' => by omega, h⟩
      · refine ⟨T, by omega, by omega, fun s hs hs' => ?_, fun s hs hs' => ?_, hS⟩
        · rcases Nat.eq_or_lt_of_le hs with rfl | hs
          · exact hU
          · exact hUs s hs hs'
        · rcases Nat.eq_or_lt_of_le (Nat.succ_le_of_lt hs) with rfl | hs
          · exact h0
          · exact hZs s hs hs'
    · rintro ⟨T, hT, hT', hUs, hZs, hS⟩
      rcases Nat.eq_or_lt_of_le hT with rfl | hT
      · exact .inl hS
      · exact .inr ⟨hUs t le_rfl hT, hZs (t + 1) (by omega) hT, T, hT, by omega,
          fun s hs hs' => hUs s (by omega) hs', fun s hs hs' => hZs s (by omega) hs', hS⟩

/-! ## The first loop's faults -/

/-- The first loop's first index at fault is `e`, after the indices `pre` it
accepted (`prev` is the index before them, if any): `POW_TOO_BIG` when `e` is
above `EDGEMASK`, otherwise `POW_TOO_SMALL` when it is not above the index
before it. -/
def FirstFault (prev : Option Nat) (es : List Nat) (r : PowResult) : Prop :=
  ∃ pre e post, es = pre ++ e :: post ∧ (∀ x ∈ pre, x ≤ EDGEMASK) ∧
    (prev.toList ++ pre).Chain' (· < ·) ∧
    ((EDGEMASK < e ∧ r = .tooBig) ∨
      (e ≤ EDGEMASK ∧ (∃ a, (prev.toList ++ pre).getLast? = some a ∧ e ≤ a) ∧ r = .tooSmall))

/-- The first index at fault is the head, or the head is valid and the fault
lies further on. -/
theorem firstFault_cons (prev : Option Nat) (e : Nat) (es : List Nat) (r : PowResult) :
    FirstFault prev (e :: es) r ↔
      ((EDGEMASK < e ∧ r = .tooBig) ∨
        (e ≤ EDGEMASK ∧ (∃ a, prev = some a ∧ e ≤ a) ∧ r = .tooSmall)) ∨
      (e ≤ EDGEMASK ∧ (∀ a, prev = some a → a < e) ∧ FirstFault (some e) es r) := by
  have hchain : ∀ pre : List Nat, (prev.toList ++ e :: pre).Chain' (· < ·) ↔
      (∀ a, prev = some a → a < e) ∧ ((some e).toList ++ pre).Chain' (· < ·) := fun pre => by
    cases prev <;> simp [List.chain'_cons]
  have hlast : ∀ pre : List Nat,
      (prev.toList ++ e :: pre).getLast? = ((some e).toList ++ pre).getLast? := fun pre => by
    cases prev <;> simp [List.getLast?_cons]
  have hprev : (prev.toList ++ []).getLast? = prev := by cases prev <;> rfl
  constructor
  · rintro ⟨_ | ⟨x, pre⟩, e', post, heq, hpre, hch, hr⟩
    · obtain ⟨rfl, rfl⟩ := List.cons.inj heq
      exact .inl (by simpa only [hprev] using hr)
    · obtain ⟨rfl, rfl⟩ := List.cons.inj heq
      rw [hchain] at hch
      exact .inr ⟨hpre _ (List.mem_cons_self _ _), hch.1, pre, e', post, rfl,
        fun y hy => hpre y (List.mem_cons_of_mem _ hy), hch.2, by rwa [← hlast]⟩
  · rintro (hr | ⟨he, hlt, pre, e', post, rfl, hpre, hch, hr⟩)
    · exact ⟨[], e, es, rfl, by simp, by cases prev <;> simp, by simpa only [hprev] using hr⟩
    · refine ⟨e :: pre, e', post, rfl, ?_, (hchain pre).2 ⟨hlt, hch⟩, by rwa [hlast]⟩
      simpa only [List.mem_cons, forall_eq_or_imp] using ⟨he, hpre⟩

/-- **The first loop fails exactly at its first index at fault**, with
`POW_TOO_BIG` or `POW_TOO_SMALL` as `FirstFault` says. -/
theorem endpointLoop_eq_error_iff (sip : SipHash) (prev : Option Nat) (es : List Nat)
    (r : PowResult) : endpointLoop sip prev es = .error r ↔ FirstFault prev es r := by
  induction es generalizing prev with
  | nil => simp [endpointLoop, FirstFault]
  | cons e es ih =>
    rw [firstFault_cons, ← ih, endpointLoop]
    have hany : prev.any (e ≤ ·) = true ↔ ∃ a, prev = some a ∧ e ≤ a := by
      cases prev <;> simp
    split_ifs with h1 h2
    · simp only [Except.error.injEq, gt_iff_lt, h1, true_and, not_le.2 h1, false_and, or_false]
      exact eq_comm
    · simp only [Except.error.injEq, gt_iff_lt, h1, false_and, false_or]
      simp only [gt_iff_lt, not_lt] at h1
      rw [hany] at h2
      obtain ⟨a, rfl, ha⟩ := h2
      simp only [h1, true_and, Option.some.injEq, exists_eq_left', ha, forall_eq', not_lt.2 ha,
        false_and, or_false]
      exact eq_comm
    · simp only [gt_iff_lt, not_lt] at h1
      rw [hany] at h2
      have hlt : (∀ a, prev = some a → a < e) = True := eq_true fun a ha => by
        by_contra h; exact h2 ⟨a, ha, by omega⟩
      simp only [not_lt.2 h1, false_and, h2, and_false, or_self, false_or, h1, hlt, true_and]
      cases endpointLoop sip (some e) es <;> simp [Except.map]

/-! ## `verify_cuckarooz` -/

/-- **Every result of `verify_cuckarooz`.**  For every keyed hash, every
`PROOFSIZE` edge indices and every result `r`, `verify_cuckarooz` returns `r`
exactly when the first loop fails with it at the first index at fault, or the
indices are valid and either the XOR of the endpoints is not zero and `r` is
`POW_NON_MATCHING`, or it is zero and the cycle walk over the endpoints stops
with `r` at some step `T < PROOFSIZE`, after positions with a unique match and
without coming back to `0` before. -/
theorem verifyCuckarooz_eq_some_iff (sip : SipHash) (edges : Edges) (r : PowResult) :
    verifyCuckarooz sip edges = some r ↔
      FirstFault none edges.toList r ∨
        ((∀ e ∈ edges.toList, e ≤ EDGEMASK) ∧ edges.toList.Chain' (· < ·) ∧
          ((r = .nonMatching ∧ xoruv (endpoints sip edges.toList) ≠ 0) ∨
            (xoruv (endpoints sip edges.toList) = 0 ∧ ∃ T < PROOFSIZE,
              (∀ s < T, ∃ j, UniqueMatch (endpoints sip edges.toList)
                (walkPos (endpoints sip edges.toList) s) j) ∧
              (∀ s, 0 < s → s ≤ T → walkPos (endpoints sip edges.toList) s ≠ 0) ∧
              StopsAt (endpoints sip edges.toList) T r))) := by
  have hloop := endpointLoop_eq_ok sip none edges.toList (endpoints sip edges.toList)
  simp only [Option.toList_none, List.nil_append, and_true] at hloop
  unfold verifyCuckarooz
  cases h : endpointLoop sip none edges.toList with
  | error e =>
    have hvalid : ¬((∀ e ∈ edges.toList, e ≤ EDGEMASK) ∧ edges.toList.Chain' (· < ·)) :=
      fun hv => by rw [hloop.2 hv] at h; cases h
    rw [← endpointLoop_eq_error_iff, h, Option.some.injEq, Except.error.injEq]
    constructor
    · exact .inl
    · rintro (h | ⟨h1, h2, -⟩)
      · exact h
      · exact absurd ⟨h1, h2⟩ hvalid
  | ok uv =>
    obtain ⟨h1, h2, rfl⟩ := (endpointLoop_eq_ok sip none _ uv).1 h
    simp only [Option.toList_none, List.nil_append] at h2
    have hfault : ¬FirstFault none edges.toList r := by
      rw [← endpointLoop_eq_error_iff, h]; exact fun h => by cases h
    have hwalk := @followCycle_eq_some_iff (endpoints sip edges.toList) PROOFSIZE 0 r
    simp only [walkPos_zero, Nat.zero_le, true_implies, zero_add, true_and] at hwalk
    simp only [hfault, false_or, eq_true h1, eq_true h2, true_and]
    by_cases hx : xoruv (endpoints sip edges.toList) = 0
    · simp only [hx, ne_eq, not_true_eq_false, if_false, and_false, true_and, false_or, hwalk]
    · simp only [hx, ne_eq, not_false_eq_true, if_true, Option.some.injEq, and_true, false_and,
        or_false]
      exact eq_comm

end Cuckarooz
end GrinPlusPlus
