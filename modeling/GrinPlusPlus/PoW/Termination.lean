import GrinPlusPlus.PoW.Verify
import GrinPlusPlus.PoW.SipBlock

/-!
# `verify_cuckarooz` ends, and reads only what it wrote

The do-while loop of `verify_cuckarooz` (`cuckarooz.hpp`, lines 61-74) has no
syntactic bound.  It is modelled with fuel, and with too little fuel the model
returns `none`.  A run that uses up its fuel went through positions with a
unique match and never came back to `0` (`followCycle_eq_none`); by the walk's
pigeonhole (`lt_of_walk`) that cannot last `PROOFSIZE` steps, so `PROOFSIZE`
iterations always end the loop, and more fuel changes nothing
(`followCycle_add_fuel`, `followCycle_terminates`).

Every position the loop visits, scans, matches or moves to is below
`2 * PROOFSIZE` (`walkPos_lt`, `mem_scanFrom`, `lt_of_matchEndpoint`,
`xor_one_lt`), so it reads nothing past the `2 * PROOFSIZE` endpoints the first
loop writes (`followCycle_append`); `sipblock` likewise stays inside its
`EDGE_BLOCK_SIZE` buffer (`xorBack_append`, `and_EDGE_BLOCK_MASK_lt`).
-/

namespace GrinPlusPlus
namespace Cuckarooz

variable {uv : List Nat}

/-! ## Termination -/

/-- A loop that runs out of fuel went through positions with a unique match
and never back to `0`. -/
theorem followCycle_eq_none {fuel t n : Nat} (h : followCycle uv fuel n (walkPos uv t) = none) :
    (∀ s, t ≤ s → s < t + fuel → ∃ j, UniqueMatch uv (walkPos uv s) j) ∧
      ∀ s, t < s → s ≤ t + fuel → walkPos uv s ≠ 0 := by
  induction fuel generalizing t n with
  | zero => exact ⟨fun s _ _ => by omega, fun s _ _ => by omega⟩
  | succ fuel ih =>
    rw [followCycle] at h
    split at h
    · cases h
    · rename_i j hj
      split_ifs at h with hji h0
      have hU := unique_of_matchEndpoint (walkPos_lt t) hj hji
      rw [← walkPos_succ_of_unique hU] at h h0
      obtain ⟨hU', hZ'⟩ := ih h
      refine ⟨fun s hs hs' => ?_, fun s hs hs' => ?_⟩
      · rcases Nat.eq_or_lt_of_le hs with rfl | hs
        · exact ⟨j, hU⟩
        · exact hU' s hs (by omega)
      · rcases Nat.eq_or_lt_of_le (Nat.succ_le_of_lt hs) with rfl | hs
        · exact h0
        · exact hZ' s hs (by omega)

/-- A loop that returns with some fuel returns the same with more. -/
theorem followCycle_add_fuel {fuel n i : Nat} {r : PowResult}
    (h : followCycle uv fuel n i = some r) (k : Nat) : followCycle uv (fuel + k) n i = some r := by
  induction fuel generalizing n i with
  | zero => cases h
  | succ fuel ih =>
    rw [show fuel + 1 + k = fuel + k + 1 by omega]
    rw [followCycle] at h ⊢
    split at h
    · exact h
    · split_ifs at h ⊢ <;> first | exact h | exact ih h

/-- **The do-while loop ends within `PROOFSIZE` iterations**, whatever the
endpoints: with `PROOFSIZE` iterations of fuel it returns, and any more fuel
returns the same. -/
theorem followCycle_terminates (uv : List Nat) :
    ∃ r, followCycle uv PROOFSIZE 0 0 = some r ∧
      ∀ fuel, PROOFSIZE ≤ fuel → followCycle uv fuel 0 0 = some r := by
  cases h : followCycle uv PROOFSIZE 0 0 with
  | none =>
    have h0 : followCycle uv PROOFSIZE 0 (walkPos uv 0) = none := h
    obtain ⟨hU, hZ⟩ := followCycle_eq_none h0
    exact absurd (@lt_of_walk uv PROOFSIZE (fun r hr => hU r (Nat.zero_le r) (by omega))
      fun r h0 hr => hZ r h0 (by omega)) (lt_irrefl _)
  | some r =>
    refine ⟨r, rfl, fun fuel hfuel => ?_⟩
    rw [show fuel = PROOFSIZE + (fuel - PROOFSIZE) by omega]
    exact followCycle_add_fuel h _

/-! ## The loop reads only the endpoints the first loop wrote -/

theorem foldlM_matchStep_append {i : Nat} (rest : List Nat) (hlen : uv.length = 2 * PROOFSIZE)
    (hi : i < 2 * PROOFSIZE) :
    ∀ (l : List Nat), (∀ k ∈ l, k < 2 * PROOFSIZE) → ∀ j,
      l.foldlM (matchStep (uv ++ rest) i) j = l.foldlM (matchStep uv i) j := by
  intro l
  induction l with
  | nil => intro _ _; rfl
  | cons k l ih =>
    intro hl j
    have hk := hl k (List.mem_cons_self k l)
    simp only [List.foldlM_cons, matchStep, getD_append_of_lt (hlen ▸ hk),
      getD_append_of_lt (hlen ▸ hi)]
    split_ifs
    · rfl
    · exact ih (fun k hk => hl k (List.mem_cons_of_mem _ hk)) k
    · exact ih (fun k hk => hl k (List.mem_cons_of_mem _ hk)) j

theorem matchEndpoint_append {i : Nat} (rest : List Nat) (hlen : uv.length = 2 * PROOFSIZE)
    (hi : i < 2 * PROOFSIZE) : matchEndpoint (uv ++ rest) i = matchEndpoint uv i :=
  foldlM_matchStep_append rest hlen hi _ (fun _ hk => ((mem_scanFrom hi).1 hk).1) i

/-- **The cycle walk reads no entry past the endpoints**: appending anything to
`2 * PROOFSIZE` endpoints changes no step of the loop. -/
theorem followCycle_append (rest : List Nat) (hlen : uv.length = 2 * PROOFSIZE) (fuel : Nat) :
    ∀ n i, i < 2 * PROOFSIZE → followCycle (uv ++ rest) fuel n i = followCycle uv fuel n i := by
  induction fuel with
  | zero => intro _ _ _; rfl
  | succ fuel ih =>
    intro n i hi
    rw [followCycle, followCycle, matchEndpoint_append rest hlen hi]
    split
    · rfl
    · rename_i j hj
      split_ifs <;> first | rfl | exact ih _ _ (xor_one_lt (lt_of_matchEndpoint hi hj))

/-- **`verify_cuckarooz` ends within `PROOFSIZE` iterations and stays inside
its arrays.**  For every key set and every `PROOFSIZE` edge indices it returns
a result.  For every endpoint array the cycle walk ends within `PROOFSIZE`
iterations, and more iterations would not change its result; every position it
visits, scans, matches or moves to is below `2 * PROOFSIZE`; and it reads
nothing past the `2 * PROOFSIZE` endpoints, which is exactly what the first
loop writes.  `sipblock` returns an entry below `EDGE_BLOCK_SIZE`, and its
backward loop reads and writes nothing past its buffer. -/
theorem verifyCuckarooz_terminates (sip : SipHash) (edges : Edges) :
    (∃ r, verifyCuckarooz sip edges = some r) ∧
      (∀ uv : List Nat, ∃ r, followCycle uv PROOFSIZE 0 0 = some r ∧
        ∀ fuel, PROOFSIZE ≤ fuel → followCycle uv fuel 0 0 = some r) ∧
      (∀ (uv : List Nat) (s : Nat), walkPos uv s < 2 * PROOFSIZE ∧
        (∀ k ∈ scanFrom (walkPos uv s), k < 2 * PROOFSIZE) ∧
        ∀ j, matchEndpoint uv (walkPos uv s) = .ok j →
          j < 2 * PROOFSIZE ∧ j ^^^ 1 < 2 * PROOFSIZE) ∧
      (endpoints sip edges.toList).length = 2 * PROOFSIZE ∧
      (∀ uv rest : List Nat, uv.length = 2 * PROOFSIZE →
        followCycle (uv ++ rest) PROOFSIZE 0 0 = followCycle uv PROOFSIZE 0 0) ∧
      (∀ edge, edge &&& EDGE_BLOCK_MASK < EDGE_BLOCK_SIZE) ∧
      (∀ buf rest : List UInt64, buf.length = EDGE_BLOCK_SIZE →
        xorBack (buf ++ rest) EDGE_BLOCK_MASK = xorBack buf EDGE_BLOCK_MASK ++ rest) := by
  refine ⟨?_, followCycle_terminates, fun uv s => ?_, by rw [length_endpoints, edges.length_eq],
    fun uv rest hlen => followCycle_append rest hlen _ _ _ (by decide), and_EDGE_BLOCK_MASK_lt,
    fun buf rest hlen => xorBack_append rest _ _ (by rw [hlen]; decide)⟩
  · unfold verifyCuckarooz
    split
    · exact ⟨_, rfl⟩
    · split
      · exact ⟨_, rfl⟩
      · exact (followCycle_terminates _).imp fun _ h => h.1
  · have hi := @walkPos_lt uv s
    exact ⟨hi, fun k hk => ((mem_scanFrom hi).1 hk).1,
      fun j hj => ⟨lt_of_matchEndpoint hi hj, xor_one_lt (lt_of_matchEndpoint hi hj)⟩⟩

end Cuckarooz
end GrinPlusPlus
