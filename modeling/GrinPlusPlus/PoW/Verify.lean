import GrinPlusPlus.PoW.CycleWalk
import GrinPlusPlus.Except
import Mathlib.Data.List.Perm.Basic
import Mathlib.Data.List.Dedup
import Mathlib.Logic.Relation
import Mathlib.Data.Finset.Card

/-!
# When `verify_cuckarooz` accepts

`verifyCuckarooz_eq_ok_iff`: for every key set and every `PROOFSIZE` edge
indices, `verify_cuckarooz` returns `POW_OK` exactly when the indices are at
most `EDGEMASK`, strictly increasing, and their `PROOFSIZE` edges form a
single cycle through all of them (`IsCycle`): every node occurs exactly twice
among the `2 * PROOFSIZE` endpoints and the edges are connected.  Two or more
disjoint cycles, a self-loop and a node of degree three or more are all
rejected, and the XOR pre-check rejects no cycle (`xoruv_eq_zero`).

Counting occurrences of a node is counting the positions that hold it
(`count_eq_length_positions`); a node occurs twice exactly when each of its
positions has a unique match (`unique_iff_count`).  The walk lemmas of
`CycleWalk` then give both directions: a walk of
`PROOFSIZE` steps visits every edge (`cover_of_closes`), and a walk over a
connected graph of degree-two nodes cannot close early, because the edges it
visits are closed under sharing a node (`mem_visited_of_reach`).
-/

namespace GrinPlusPlus
namespace Cuckarooz

/-! ## The endpoint loop -/

/-- The endpoints `u_n, v_n` of every edge, in the order the first loop writes
them to `uv`. -/
def endpoints (sip : SipHash) (es : List Nat) : List Nat :=
  es.flatMap fun e => [uNode (sipblock sip e), vNode (sipblock sip e)]

@[simp] theorem length_endpoints (sip : SipHash) (es : List Nat) :
    (endpoints sip es).length = 2 * es.length := by
  induction es with
  | nil => rfl
  | cons e es ih => simp [endpoints, List.flatMap_cons] at *; omega

/-- **The first loop completes exactly on bounded, strictly increasing
indices**, and then it has written `endpoints`. -/
theorem endpointLoop_eq_ok (sip : SipHash) (prev : Option Nat) (es : List Nat) (uv : List Nat) :
    endpointLoop sip prev es = .ok uv ↔
      (∀ e ∈ es, e ≤ EDGEMASK) ∧ (prev.toList ++ es).Chain' (· < ·) ∧ uv = endpoints sip es := by
  induction es generalizing prev uv with
  | nil => cases prev <;> simp [endpointLoop, endpoints, eq_comm]
  | cons e es ih =>
    have hchain : (prev.toList ++ e :: es).Chain' (· < ·) ↔
        ¬prev.any (e ≤ ·) ∧ ((some e).toList ++ es).Chain' (· < ·) := by
      cases prev <;> simp [List.chain'_cons]
    simp only [endpointLoop, gt_iff_lt, hchain]
    split_ifs with h1 h2
    · simp only [reduceCtorEq, false_iff]
      exact fun ⟨h, _⟩ => absurd (h e (List.mem_cons_self e es)) (by omega)
    · simp [h2]
    · rw [Except.map_eq_ok_iff]
      simp only [ih, List.mem_cons, forall_eq_or_imp, h2, Bool.false_eq_true, not_false_eq_true,
        true_and, endpoints, List.flatMap_cons]
      constructor
      · rintro ⟨a, ⟨h3, h4, rfl⟩, rfl⟩; exact ⟨⟨by omega, h3⟩, h4, rfl⟩
      · rintro ⟨⟨-, h3⟩, h4, rfl⟩; exact ⟨_, ⟨h3, h4, rfl⟩, rfl⟩

/-- The first loop fails only with `POW_TOO_BIG` or `POW_TOO_SMALL`. -/
theorem endpointLoop_error {sip : SipHash} {prev : Option Nat} {es : List Nat} {r : PowResult}
    (h : endpointLoop sip prev es = .error r) : r = .tooBig ∨ r = .tooSmall := by
  induction es generalizing prev with
  | nil => cases h
  | cons e es ih =>
    simp only [endpointLoop] at h
    split_ifs at h
    · cases h; simp
    · cases h; simp
    · cases hx : endpointLoop sip (some e) es <;> simp [hx, Except.map] at h
      exact ih (h ▸ hx)


/-! ## Nodes that occur twice -/

/-- Occurrences of `x` are the positions holding it. -/
theorem count_eq_length_positions (l : List Nat) (x : Nat) :
    l.count x = ((List.range l.length).filter (fun k => l.getD k 0 = x)).length := by
  have hl : l = (List.range l.length).map (fun k => l.getD k 0) :=
    List.ext_getElem (by simp) (fun n h₁ _ => by simp [List.getElem?_eq_getElem h₁])
  conv_lhs => rw [hl]
  rw [List.count, List.countP_map, List.countP_eq_length_filter]
  congr 2

/-- In a nodup list holding `p`, length two is exactly one other element. -/
theorem length_eq_two_iff {F : List Nat} {p : Nat} (hF : F.Nodup) (hp : p ∈ F) :
    F.length = 2 ↔ ∃ j, j ≠ p ∧ j ∈ F ∧ ∀ k ∈ F, k = p ∨ k = j := by
  constructor
  · intro h
    obtain ⟨a, b, rfl⟩ := List.length_eq_two.1 h
    have hab : a ≠ b := by simpa using hF
    simp only [List.mem_cons, List.mem_singleton, List.not_mem_nil, or_false] at hp
    rcases hp with rfl | rfl
    · exact ⟨b, hab.symm, by simp, fun k hk => by simpa using hk⟩
    · exact ⟨a, hab, by simp, fun k hk => by simp at hk; tauto⟩
  · rintro ⟨j, hjp, hj, hall⟩
    have h₁ := (hF.subperm (show F ⊆ [p, j] from fun k hk => by
      rcases hall k hk with rfl | rfl <;> simp)).length_le
    have h₂ := (List.Nodup.subperm (by simpa using hjp.symm) fun k (hk : k ∈ [p, j]) => by
      simp only [List.mem_cons, List.mem_singleton, List.not_mem_nil, or_false] at hk
      rcases hk with rfl | rfl <;> assumption).length_le
    simp at h₁ h₂
    omega

variable {uv : List Nat}

/-- **A node occurs twice exactly when its position has a unique match.** -/
theorem unique_iff_count (hlen : uv.length = 2 * PROOFSIZE) {p : Nat} (hp : p < 2 * PROOFSIZE) :
    (∃ j, UniqueMatch uv p j) ↔ uv.count (uv.getD p 0) = 2 := by
  rw [count_eq_length_positions, hlen]
  have hmem : ∀ k, k ∈ (List.range (2 * PROOFSIZE)).filter (fun k => uv.getD k 0 = uv.getD p 0) ↔
      k < 2 * PROOFSIZE ∧ uv.getD k 0 = uv.getD p 0 := by
    simp
  rw [length_eq_two_iff ((List.nodup_range _).filter _) ((hmem p).2 ⟨hp, rfl⟩)]
  simp only [hmem]
  constructor
  · rintro ⟨j, ⟨hj, hjp, hv⟩, hu⟩
    exact ⟨j, hjp, ⟨hj, hv⟩, fun k ⟨hk, hkv⟩ => by
      by_cases hkp : k = p
      · exact .inl hkp
      · exact .inr (hu k ⟨hk, hkp, hkv⟩)⟩
  · rintro ⟨j, hjp, ⟨hj, hv⟩, hall⟩
    exact ⟨j, ⟨⟨hj, hjp, hv⟩, fun k ⟨hk, hkp, hkv⟩ => (hall k ⟨hk, hkv⟩).resolve_left hkp⟩⟩

/-- Every node occurs twice exactly when every position has a unique match. -/
theorem count_two_iff (hlen : uv.length = 2 * PROOFSIZE) :
    (∀ x ∈ uv, uv.count x = 2) ↔ ∀ p < 2 * PROOFSIZE, ∃ j, UniqueMatch uv p j := by
  constructor
  · intro h p hp
    exact (unique_iff_count hlen hp).2 (h _ (by
      rw [List.getD_eq_getElem _ _ (hlen ▸ hp)]; exact List.getElem_mem _))
  · intro h x hx
    obtain ⟨p, hp, rfl⟩ := List.mem_iff_getElem.1 hx
    have := (unique_iff_count hlen (hlen ▸ hp)).1 (h p (hlen ▸ hp))
    rwa [List.getD_eq_getElem _ _ hp] at this

theorem foldl_xor (a : Nat) (l : List Nat) : l.foldl (· ^^^ ·) a = a ^^^ l.foldl (· ^^^ ·) 0 := by
  induction l generalizing a with
  | nil => simp
  | cons x l ih => rw [List.foldl_cons, List.foldl_cons, ih, ih (0 ^^^ x), Nat.zero_xor,
      Nat.xor_assoc]

/-- **The XOR pre-check passes every list in which each node occurs twice.** -/
theorem xoruv_eq_zero (h : ∀ x ∈ uv, uv.count x = 2) : xoruv uv = 0 := by
  have hperm : uv.Perm (uv.dedup ++ uv.dedup) := List.perm_iff_count.2 fun a => by
    rw [List.count_append, List.count_dedup]
    by_cases ha : a ∈ uv
    · rw [if_pos ha, h a ha]
    · rw [if_neg ha, List.count_eq_zero_of_not_mem ha]
  rw [xoruv, hperm.foldl_eq' (fun x _ y _ z => by
      rw [Nat.xor_assoc, Nat.xor_comm x, ← Nat.xor_assoc]), List.foldl_append,
    foldl_xor (List.foldl _ 0 _), Nat.xor_self]


/-! ## A single cycle -/

/-- Edges `a` and `b` share a node: a position of edge `a` and a position of
edge `b` hold the same endpoint. -/
def SharesNode (uv : List Nat) (a b : Nat) : Prop :=
  a < PROOFSIZE ∧ b < PROOFSIZE ∧ ∃ p q, p / 2 = a ∧ q / 2 = b ∧ uv.getD p 0 = uv.getD q 0

/-- The `PROOFSIZE` edges of `uv` form a single cycle through all of them:
every node occurs exactly twice among the endpoints, and the multigraph of the
edges is connected. -/
def IsCycle (uv : List Nat) : Prop :=
  (∀ x ∈ uv, uv.count x = 2) ∧
    ∀ a < PROOFSIZE, ∀ b < PROOFSIZE, Relation.ReflTransGen (SharesNode uv) a b

theorem xor_one_div_two (p : Nat) : (p ^^^ 1) / 2 = p / 2 := by
  rw [xor_one_eq]; omega

theorem sharesNode_symmetric : Symmetric (SharesNode uv) :=
  fun _ _ ⟨ha, hb, p, q, hp, hq, hv⟩ => ⟨hb, ha, q, p, hq, hp, hv.symm⟩

theorem walkPos_div_two_lt (s : Nat) : walkPos uv s / 2 < PROOFSIZE := by
  have := @walkPos_lt uv s; omega

/-- Consecutive edges of the walk share a node. -/
theorem sharesNode_walkPos {T s : Nat} (hU : ∀ r < T, ∃ j, UniqueMatch uv (walkPos uv r) j)
    (hs : s < T) : SharesNode uv (walkPos uv s / 2) (walkPos uv (s + 1) / 2) :=
  ⟨walkPos_div_two_lt s, walkPos_div_two_lt (s + 1), _, _, rfl, xor_one_div_two _,
    (unique_walkPos hU hs).1.2.2.symm⟩

/-- The partner of a walk position `s < m` is matched by position `s - 1`, or
by position `m - 1` at `s = 0`, when the walk is back at `0` after `m` steps. -/
theorem unique_xor_one_walkPos {m s : Nat} (hU : ∀ r < m, ∃ j, UniqueMatch uv (walkPos uv r) j)
    (h0 : walkPos uv m = 0) (hs : s < m) :
    UniqueMatch uv (walkPos uv s ^^^ 1) (walkPos uv (if s = 0 then m - 1 else s - 1)) := by
  have hr : (if s = 0 then m - 1 else s - 1) < m := by split_ifs <;> omega
  have h := unique_walkPos hU hr
  rw [show walkPos uv ((if s = 0 then m - 1 else s - 1) + 1) = walkPos uv s by
    split_ifs with hs0
    · rw [show m - 1 + 1 = m by omega, h0, hs0, walkPos_zero]
    · rw [show s - 1 + 1 = s by omega]] at h
  exact h.symm (walkPos_lt _)

section Closes

variable (hU : ∀ s < PROOFSIZE, ∃ j, UniqueMatch uv (walkPos uv s) j)
  (h0 : walkPos uv PROOFSIZE = 0) (hZ : ∀ s, 0 < s → s < PROOFSIZE → walkPos uv s ≠ 0)
include hU hZ

/-- **A walk closing after `PROOFSIZE` steps visits every edge.** -/
theorem cover_of_closes {a : Nat} (ha : a < PROOFSIZE) : ∃ s < PROOFSIZE, walkPos uv s / 2 = a := by
  have hU' : ∀ r < PROOFSIZE - 1, ∃ j, UniqueMatch uv (walkPos uv r) j :=
    fun r hr => hU r (by omega)
  obtain ⟨s, hs, rfl⟩ := Finset.surj_on_of_inj_on_of_card_le
    (fun s (_ : s ∈ Finset.range PROOFSIZE) => walkPos uv s / 2)
    (fun s _ => show walkPos uv s / 2 ∈ Finset.range PROOFSIZE from
      Finset.mem_range.2 (walkPos_div_two_lt s))
    (fun s t hs ht h => by
      simp only [Finset.mem_range] at hs ht
      by_contra hne
      rcases Nat.lt_or_gt_of_ne hne with hlt | hlt
      · exact walkPos_div_two_ne hU' (fun r h1 h2 => hZ r h1 (by omega)) hlt (by omega) h
      · exact walkPos_div_two_ne hU' (fun r h1 h2 => hZ r h1 (by omega)) hlt (by omega) h.symm)
    le_rfl a (Finset.mem_range.2 ha)
  exact ⟨s, Finset.mem_range.1 hs, rfl⟩

include h0

/-- Every position of a walk closing after `PROOFSIZE` steps has a unique match. -/
theorem unique_of_closes {p : Nat} (hp : p < 2 * PROOFSIZE) : ∃ j, UniqueMatch uv p j := by
  obtain ⟨s, hs, hsp⟩ := cover_of_closes hU hZ (show p / 2 < PROOFSIZE by omega)
  rcases eq_or_eq_xor_one_of_div_two hsp.symm with rfl | rfl
  · exact hU s hs
  · exact ⟨_, unique_xor_one_walkPos hU h0 hs⟩

/-- **A walk closing after `PROOFSIZE` steps runs along a single cycle.** -/
theorem isCycle_of_closes (hlen : uv.length = 2 * PROOFSIZE) : IsCycle uv := by
  have reach : ∀ s < PROOFSIZE, Relation.ReflTransGen (SharesNode uv) 0 (walkPos uv s / 2) := by
    intro s
    induction s with
    | zero => intro _; rw [walkPos_zero]
    | succ s ih => intro hs; exact (ih (by omega)).tail (sharesNode_walkPos hU (by omega))
  refine ⟨(count_two_iff hlen).2 fun p hp => unique_of_closes hU h0 hZ hp, fun a ha b hb => ?_⟩
  obtain ⟨s, hs, rfl⟩ := cover_of_closes hU hZ ha
  obtain ⟨t, ht, rfl⟩ := cover_of_closes hU hZ hb
  exact (Relation.ReflTransGen.symmetric sharesNode_symmetric (reach s hs)).trans (reach t ht)

end Closes


section Cycle

variable {m : Nat} (hall : ∀ p < 2 * PROOFSIZE, ∃ j, UniqueMatch uv p j)
  (hm : 0 < m) (h0 : walkPos uv m = 0)
include hall hm h0

/-- The match of a position on an edge visited before the walk returns to `0`
lies on a visited edge as well. -/
theorem visited_of_match {s p q : Nat} (hs : s < m) (hp : p / 2 = walkPos uv s / 2)
    (hq : UniqueMatch uv p q) : ∃ t < m, walkPos uv t / 2 = q / 2 := by
  have hU : ∀ r < m, ∃ j, UniqueMatch uv (walkPos uv r) j := fun r _ => hall _ (walkPos_lt r)
  rcases eq_or_eq_xor_one_of_div_two hp with rfl | rfl
  · rw [(unique_walkPos hU hs).eq hq, xor_one_div_two]
    by_cases hsm : s + 1 = m
    · exact ⟨0, hm, by rw [hsm, h0, walkPos_zero]⟩
    · exact ⟨s + 1, by omega, rfl⟩
  · rw [(unique_xor_one_walkPos hU h0 hs).eq hq]
    exact ⟨_, by split_ifs <;> omega, rfl⟩

/-- **The edges visited before the walk returns to `0` are closed under sharing
a node**, so they hold every edge connected to edge `0`. -/
theorem mem_visited_of_reach {b : Nat} (h : Relation.ReflTransGen (SharesNode uv) 0 b) :
    ∃ t < m, walkPos uv t / 2 = b := by
  induction h with
  | refl => exact ⟨0, hm, by simp⟩
  | tail _ hab ih =>
    obtain ⟨s, hs, rfl⟩ := ih
    obtain ⟨-, hb, p, q, hp, rfl, hv⟩ := hab
    by_cases hqp : q = p
    · exact ⟨s, hs, by rw [hqp, hp]⟩
    · obtain ⟨j, hj⟩ := hall p (by have := @walkPos_div_two_lt uv s; omega)
      rw [← hj.2 q ⟨by omega, hqp, hv.symm⟩] at hj
      exact visited_of_match hall hm h0 hs hp hj

end Cycle

/-- **On a single cycle the walk closes after exactly `PROOFSIZE` steps.** -/
theorem closes_of_isCycle (hlen : uv.length = 2 * PROOFSIZE) (hc : IsCycle uv) :
    (∀ s < PROOFSIZE, ∃ j, UniqueMatch uv (walkPos uv s) j) ∧ walkPos uv PROOFSIZE = 0 ∧
      ∀ s, 0 < s → s < PROOFSIZE → walkPos uv s ≠ 0 := by
  have hall := (count_two_iff hlen).1 hc.1
  obtain ⟨m, hm, hmle, h0, hZ⟩ := exists_first_return hall
  have hsub : Finset.range PROOFSIZE ⊆ (Finset.range m).image (fun s => walkPos uv s / 2) :=
    fun b hb => by
      obtain ⟨t, ht, htb⟩ := mem_visited_of_reach hall hm h0
        (hc.2 0 (by simp [PROOFSIZE]) b (Finset.mem_range.1 hb))
      exact Finset.mem_image.2 ⟨t, Finset.mem_range.2 ht, htb⟩
  have := (Finset.card_le_card hsub).trans Finset.card_image_le
  simp only [Finset.card_range] at this
  obtain rfl : m = PROOFSIZE := by omega
  exact ⟨fun s _ => hall _ (walkPos_lt s), h0, hZ⟩

/-! ## `verify_cuckarooz` -/

/-- **`verify_cuckarooz` returns `POW_OK` exactly on a single `PROOFSIZE`-cycle.**
For every keyed hash and every `PROOFSIZE` edge indices: every index is at most
`EDGEMASK`, the indices are strictly increasing, and the edges
`{u_n, v_n}` of `endpoints` form one cycle through all of them. -/
theorem verifyCuckarooz_eq_ok_iff (sip : SipHash) (edges : Edges) :
    verifyCuckarooz sip edges = some .ok ↔
      (∀ e ∈ edges.toList, e ≤ EDGEMASK) ∧ edges.toList.Chain' (· < ·) ∧
        IsCycle (endpoints sip edges.toList) := by
  have hlen : (endpoints sip edges.toList).length = 2 * PROOFSIZE := by
    rw [length_endpoints, edges.length_eq]
  have hloop := endpointLoop_eq_ok sip none edges.toList (endpoints sip edges.toList)
  have hwalk := @followCycle_eq_ok_iff (endpoints sip edges.toList) PROOFSIZE 0
  simp only [Option.toList_none, List.nil_append, and_true, walkPos_zero, Nat.zero_le, true_implies,
    zero_add, le_refl, true_and, show 0 < PROOFSIZE by decide] at hloop hwalk
  constructor
  · intro h
    rw [verifyCuckarooz] at h
    split at h
    · rcases endpointLoop_error ‹_› with rfl | rfl <;> cases h
    · rename_i uv huv
      obtain ⟨h1, h2, rfl⟩ := (endpointLoop_eq_ok sip none _ uv).1 huv
      simp only [Option.toList_none, List.nil_append] at h2
      split_ifs at h
      · cases h
      obtain ⟨hU, h0, hZ⟩ := hwalk.1 h
      exact ⟨h1, h2, isCycle_of_closes hU h0 hZ hlen⟩
  · rintro ⟨h1, h2, hc⟩
    rw [verifyCuckarooz, hloop.2 ⟨h1, h2⟩]
    simp only [xoruv_eq_zero hc.1, ne_eq, not_true_eq_false, ite_false]
    exact hwalk.2 (closes_of_isCycle hlen hc)

end Cuckarooz
end GrinPlusPlus
