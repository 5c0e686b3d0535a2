import Mathlib.Data.Nat.Bitwise

/-!
# The Cuckarooz verifier

`verify_cuckarooz` and `sipblock` in `deps/cuckoo/cuckarooz/cuckarooz.hpp`,
called by `Cuckarooz::Validate` (`src/PoW/Cuckarooz.cpp`).

A proof is `PROOFSIZE` edge indices.  The first loop rejects an index above
`EDGEMASK` (`POW_TOO_BIG`) or not above its predecessor (`POW_TOO_SMALL`), and
writes the two node endpoints of edge `n` to `uv[2n]` and `uv[2n+1]`: the low
and the high 32-bit half of `sipblock`, each masked by `NODEMASK`.  After the
optional XOR check, a do-while loop follows the cycle: from position `i` it
scans every other position for an equal endpoint (`POW_BRANCH` on a second
one, `POW_DEAD_END` on none), moves to the partner `j ^ 1` of the match, and
stops back at position `0`; `n == PROOFSIZE` decides `POW_OK` against
`POW_SHORT_CYCLE`.

The do-while loop has no syntactic bound.  It is modelled with a fuel of
`PROOFSIZE` iterations and an `Option` result, `none` meaning that the fuel ran
out; the theorems about it say when that cannot happen.
The keyed hash `shs.hash24(nonce); shs.xor_lanes()` is a parameter `sip`, so
every result holds for every key set.
-/

namespace GrinPlusPlus
namespace Cuckarooz

/-- `EDGE_BLOCK_BITS`. -/
def EDGE_BLOCK_BITS : Nat := 6
/-- `EDGE_BLOCK_SIZE = 1 << EDGE_BLOCK_BITS`. -/
def EDGE_BLOCK_SIZE : Nat := 2 ^ EDGE_BLOCK_BITS
/-- `EDGE_BLOCK_MASK = EDGE_BLOCK_SIZE - 1`. -/
def EDGE_BLOCK_MASK : Nat := EDGE_BLOCK_SIZE - 1
/-- `EDGEBITS`, the 2-log of the number of edges. -/
def EDGEBITS : Nat := 29
/-- `NEDGES = 1 << EDGEBITS`. -/
def NEDGES : Nat := 2 ^ EDGEBITS
/-- `EDGEMASK = NEDGES - 1`. -/
def EDGEMASK : Nat := NEDGES - 1
/-- `NNODES = 2 * NEDGES`. -/
def NNODES : Nat := 2 * NEDGES
/-- `NODEMASK = NNODES - 1`, masking a siphash half to a node. -/
def NODEMASK : Nat := NNODES - 1

/-- Modelled from the spec: `PROOFSIZE` is defined in `deps/cuckoo/common.h`,
which is not in the sources; the spec fixes `PROOFSIZE=42`. -/
def PROOFSIZE : Nat := 42

/-- The results of `verify_cuckarooz` that it can return: `POW_OK`,
`POW_TOO_BIG`, `POW_TOO_SMALL`, `POW_NON_MATCHING`, `POW_BRANCH`,
`POW_DEAD_END`, `POW_SHORT_CYCLE`. -/
inductive PowResult where
  | ok
  | tooBig
  | tooSmall
  | nonMatching
  | branch
  | deadEnd
  | shortCycle
  deriving DecidableEq, Repr

/-- The keyed hash of a nonce, `shs.hash24(nonce); shs.xor_lanes()` for the
`siphash_state` built from the header's keys. -/
abbrev SipHash := Nat → UInt64

/-- `const word_t edges[PROOFSIZE]`: exactly `PROOFSIZE` edge indices (the
size `Cuckarooz::Validate` checks before the call). -/
structure Edges where
  toList : List Nat
  length_eq : toList.length = PROOFSIZE

/-! ## `sipblock` -/

/-- The backward loop `for (i = EDGE_BLOCK_MASK; i; i--) buf[i - 1] ^= buf[i]`,
entered with `i`. -/
def xorBack (buf : List UInt64) : Nat → List UInt64
  | 0 => buf
  | i + 1 => xorBack (buf.set i (buf.getD i 0 ^^^ buf.getD (i + 1) 0)) i

/-- `sipblock`: hash the `EDGE_BLOCK_SIZE` nonces of the block holding `edge`
into `buf`, XOR-reduce it backwards, and return the entry of `edge`.  The block
start `edge & ~EDGE_BLOCK_MASK` clears the low `EDGE_BLOCK_BITS` bits. -/
def sipblock (sip : SipHash) (edge : Nat) : UInt64 :=
  let edge0 := edge / EDGE_BLOCK_SIZE * EDGE_BLOCK_SIZE
  let buf := (List.range EDGE_BLOCK_SIZE).map fun i => sip (edge0 + i)
  (xorBack buf EDGE_BLOCK_MASK).getD (edge &&& EDGE_BLOCK_MASK) 0

/-- The first endpoint of an edge, `edge & NODEMASK`. -/
def uNode (w : UInt64) : Nat := w.toNat &&& NODEMASK

/-- The second endpoint of an edge, `(edge >> 32) & NODEMASK`. -/
def vNode (w : UInt64) : Nat := (w.toNat >>> 32) &&& NODEMASK

/-! ## The endpoint loop -/

/-- The first loop of `verify_cuckarooz` over the remaining edges, `prev` the
edge before them (`none` at `n = 0`): the early result, or the endpoints
`uv[2n], uv[2n+1], …` it writes. -/
def endpointLoop (sip : SipHash) : Option Nat → List Nat → Except PowResult (List Nat)
  | _, [] => .ok []
  | prev, e :: es =>
    if e > EDGEMASK then .error .tooBig
    else if prev.any (e ≤ ·) then .error .tooSmall
    else
      let edge := sipblock sip e
      (endpointLoop sip (some e) es).map fun uv => uNode edge :: vNode edge :: uv

/-- `xoruv`, the XOR of every endpoint the first loop wrote. -/
def xoruv (uv : List Nat) : Nat := uv.foldl (· ^^^ ·) 0

/-! ## The cycle walk -/

/-- The positions the inner `for k` loop visits from `i`:
`(i + 1) % (2 * PROOFSIZE)`, `(i + 2) % (2 * PROOFSIZE)`, … up to `i`. -/
def scanFrom (i : Nat) : List Nat :=
  (List.range (2 * PROOFSIZE - 1)).map fun d => (i + 1 + d) % (2 * PROOFSIZE)

/-- One pass of the inner loop body with the current `j`: a second endpoint
equal to `uv[i]` is `POW_BRANCH`, a first one becomes `j`. -/
def matchStep (uv : List Nat) (i j k : Nat) : Except PowResult Nat :=
  if uv.getD k 0 = uv.getD i 0 then
    if j ≠ i then .error .branch else .ok k
  else .ok j

/-- The inner `for k` loop: `j` starts at `i` and ends at the unique other
position holding `uv[i]`, or stays `i` when there is none. -/
def matchEndpoint (uv : List Nat) (i : Nat) : Except PowResult Nat :=
  (scanFrom i).foldlM (matchStep uv i) i

/-- The do-while loop with `fuel` iterations left, `n` steps taken, at
position `i`; `none` when the fuel runs out. -/
def followCycle (uv : List Nat) : Nat → Nat → Nat → Option PowResult
  | 0, _, _ => none
  | fuel + 1, n, i =>
    match matchEndpoint uv i with
    | .error r => some r
    | .ok j =>
      if j = i then some .deadEnd
      else if j ^^^ 1 = 0 then some (if n + 1 = PROOFSIZE then .ok else .shortCycle)
      else followCycle uv fuel (n + 1) (j ^^^ 1)

/-- `verify_cuckarooz`, the cycle walk given `PROOFSIZE` iterations. -/
def verifyCuckarooz (sip : SipHash) (edges : Edges) : Option PowResult :=
  match endpointLoop sip none edges.toList with
  | .error r => some r
  | .ok uv => if xoruv uv ≠ 0 then some .nonMatching else followCycle uv PROOFSIZE 0 0

end Cuckarooz
end GrinPlusPlus
