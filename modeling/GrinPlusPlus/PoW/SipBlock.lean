import GrinPlusPlus.PoW.Cuckarooz
import Mathlib.Data.List.Basic

/-!
# `sipblock` computes suffix XORs

`sipblock` (`cuckarooz.hpp`, lines 32-42) hashes the `EDGE_BLOCK_SIZE` nonces of
the block holding `edge` into `buf`, then runs
`for (i = EDGE_BLOCK_MASK; i; i--) buf[i - 1] ^= buf[i]`.  After the loop has
come down to `a`, the entries from `a` on hold the XOR of the block's hashes
from their own index to the end of the block, and those below `a` are still the
hashes (`xorBack_blockState`).  So `buf[i]` ends as the suffix XOR from `i`,
and `sipblock` returns the one from `edge & EDGE_BLOCK_MASK`
(`sipblock_suffixXor`).

The loop reads and writes only the entries below the one it starts at: whatever
lies past the block is left alone and never read (`xorBack_append`), and the
returned index is inside the block (`and_EDGE_BLOCK_MASK_lt`).
-/

namespace GrinPlusPlus
namespace Cuckarooz

/-- The buffer `buf` as `sipblock` leaves it. -/
def sipblockBuf (sip : SipHash) (edge : Nat) : List UInt64 :=
  let edge0 := edge / EDGE_BLOCK_SIZE * EDGE_BLOCK_SIZE
  xorBack ((List.range EDGE_BLOCK_SIZE).map fun i => sip (edge0 + i)) EDGE_BLOCK_MASK

theorem sipblock_eq_getD (sip : SipHash) (edge : Nat) :
    sipblock sip edge = (sipblockBuf sip edge).getD (edge &&& EDGE_BLOCK_MASK) 0 :=
  rfl

/-- The XOR of the hashes of the block nonces `edge0 + k` for `k` from `i` to
the end of the block. -/
def blockSuffixXor (sip : SipHash) (edge0 i : Nat) : UInt64 :=
  ((List.range' i (EDGE_BLOCK_SIZE - i)).map fun k => sip (edge0 + k)).foldr (· ^^^ ·) 0

theorem xor_zero (x : UInt64) : x ^^^ 0 = x := by
  cases x
  exact congrArg UInt64.mk BitVec.xor_zero

/-- A suffix XOR is the entry's hash XOR the next suffix. -/
theorem blockSuffixXor_of_lt (sip : SipHash) (edge0 : Nat) {i : Nat} (hi : i < EDGE_BLOCK_SIZE) :
    blockSuffixXor sip edge0 i = sip (edge0 + i) ^^^ blockSuffixXor sip edge0 (i + 1) := by
  unfold blockSuffixXor
  rw [show EDGE_BLOCK_SIZE - i = (EDGE_BLOCK_SIZE - (i + 1)) + 1 by omega, List.range'_succ]
  rfl

theorem blockSuffixXor_last (sip : SipHash) (edge0 : Nat) :
    blockSuffixXor sip edge0 EDGE_BLOCK_MASK = sip (edge0 + EDGE_BLOCK_MASK) := by
  rw [blockSuffixXor_of_lt sip edge0 (by decide)]
  exact xor_zero _

theorem getD_map_range {f : Nat → UInt64} {n p : Nat} (hp : p < n) :
    ((List.range n).map f).getD p 0 = f p := by
  simp [List.getD_eq_getElem?_getD, List.getElem?_range hp]

theorem set_map_range (f : Nat → UInt64) {n a : Nat} (v : UInt64) :
    ((List.range n).map f).set a v = (List.range n).map fun p => if p = a then v else f p := by
  refine List.ext_getElem (by simp) fun p h₁ _ => ?_
  rw [List.getElem_set, List.getElem_map, List.getElem_map, List.getElem_range]
  by_cases h : a = p
  · simp [h]
  · simp [h, Ne.symm h]

section Block

variable (sip : SipHash) (edge0 : Nat)

/-- The buffer when the backward loop has come down to `a`: hashes below `a`,
suffix XORs from `a` on. -/
def blockState (a : Nat) : List UInt64 :=
  (List.range EDGE_BLOCK_SIZE).map fun p =>
    if p < a then sip (edge0 + p) else blockSuffixXor sip edge0 p

/-- **The loop invariant of the backward reduction.** -/
theorem xorBack_blockState (a : Nat) (ha : a ≤ EDGE_BLOCK_MASK) :
    xorBack (blockState sip edge0 a) a = blockState sip edge0 0 := by
  induction a with
  | zero => rfl
  | succ a ih =>
    have hlt : a + 1 < EDGE_BLOCK_SIZE := by unfold EDGE_BLOCK_MASK at ha; omega
    have hstep : (blockState sip edge0 (a + 1)).set a
        ((blockState sip edge0 (a + 1)).getD a 0 ^^^
          (blockState sip edge0 (a + 1)).getD (a + 1) 0) = blockState sip edge0 a := by
      unfold blockState
      rw [getD_map_range (by omega), getD_map_range hlt, set_map_range]
      refine List.map_congr_left fun p _ => ?_
      by_cases hp : p = a
      · subst hp
        simp [blockSuffixXor_of_lt sip edge0 (show p < EDGE_BLOCK_SIZE by omega)]
      · by_cases hpa : p < a
        · simp [hp, hpa, show p < a + 1 by omega]
        · simp [hp, hpa, show ¬p < a + 1 by omega]
    rw [xorBack, hstep]
    exact ih (by omega)

/-- The hashes of the block are the state before the loop. -/
theorem map_range_eq_blockState :
    (List.range EDGE_BLOCK_SIZE).map (fun i => sip (edge0 + i)) =
      blockState sip edge0 EDGE_BLOCK_MASK := by
  refine List.map_congr_left fun p hp => ?_
  have hp : p < EDGE_BLOCK_SIZE := List.mem_range.1 hp
  by_cases h : p < EDGE_BLOCK_MASK
  · simp [h]
  · rw [if_neg h, show p = EDGE_BLOCK_MASK by unfold EDGE_BLOCK_MASK at *; omega,
      blockSuffixXor_last]

end Block

theorem getD_append_of_lt {α : Type} {l rest : List α} {p : Nat} {d : α} (hp : p < l.length) :
    (l ++ rest).getD p d = l.getD p d := by
  simp [List.getD_eq_getElem?_getD, List.getElem?_append_left hp]

/-- **The backward loop stays inside the buffer**: started at an index of
`buf`, it neither reads nor writes anything appended after it. -/
theorem xorBack_append (rest : List UInt64) (a : Nat) :
    ∀ buf : List UInt64, a < buf.length → xorBack (buf ++ rest) a = xorBack buf a ++ rest := by
  induction a with
  | zero => intro _ _; rfl
  | succ a ih =>
    intro buf ha
    rw [xorBack, xorBack, getD_append_of_lt (by omega), getD_append_of_lt ha,
      List.set_append_left _ _ (by omega)]
    exact ih _ (by rw [List.length_set]; omega)

theorem and_EDGE_BLOCK_MASK_lt (edge : Nat) : edge &&& EDGE_BLOCK_MASK < EDGE_BLOCK_SIZE :=
  Nat.and_lt_two_pow edge (by decide)

/-- The block start is `edge` with the bits of `EDGE_BLOCK_MASK` cleared. -/
theorem blockStart_add_and (edge : Nat) :
    edge / EDGE_BLOCK_SIZE * EDGE_BLOCK_SIZE + (edge &&& EDGE_BLOCK_MASK) = edge := by
  rw [show EDGE_BLOCK_MASK = 2 ^ EDGE_BLOCK_BITS - 1 from rfl, Nat.and_pow_two_sub_one_eq_mod,
    Nat.mul_comm]
  exact Nat.div_add_mod edge EDGE_BLOCK_SIZE

/-- **`sipblock` returns a suffix XOR of its block.**  For every keyed hash and
every edge index, with `edge0` the block start (`edge` with the bits of
`EDGE_BLOCK_MASK` cleared), `buf` ends holding at each index `i` the XOR of the
hashes of `edge0 + i` to the end of the block, and `sipblock` returns the one
from `edge & EDGE_BLOCK_MASK`. -/
theorem sipblock_suffixXor (sip : SipHash) (edge : Nat) :
    edge / EDGE_BLOCK_SIZE * EDGE_BLOCK_SIZE + (edge &&& EDGE_BLOCK_MASK) = edge ∧
      (sipblockBuf sip edge).length = EDGE_BLOCK_SIZE ∧
      (∀ i < EDGE_BLOCK_SIZE, (sipblockBuf sip edge).getD i 0 =
        blockSuffixXor sip (edge / EDGE_BLOCK_SIZE * EDGE_BLOCK_SIZE) i) ∧
      sipblock sip edge =
        blockSuffixXor sip (edge / EDGE_BLOCK_SIZE * EDGE_BLOCK_SIZE)
          (edge &&& EDGE_BLOCK_MASK) := by
  have hbuf : sipblockBuf sip edge =
      blockState sip (edge / EDGE_BLOCK_SIZE * EDGE_BLOCK_SIZE) 0 := by
    rw [sipblockBuf, map_range_eq_blockState, xorBack_blockState _ _ _ le_rfl]
  have hget : ∀ i < EDGE_BLOCK_SIZE, (sipblockBuf sip edge).getD i 0 =
      blockSuffixXor sip (edge / EDGE_BLOCK_SIZE * EDGE_BLOCK_SIZE) i := fun i hi => by
    rw [hbuf, blockState, getD_map_range hi]
    rfl
  exact ⟨blockStart_add_and edge, by rw [hbuf, blockState]; simp, hget,
    by rw [sipblock_eq_getD, hget _ (and_EDGE_BLOCK_MASK_lt edge)]⟩

end Cuckarooz
end GrinPlusPlus
