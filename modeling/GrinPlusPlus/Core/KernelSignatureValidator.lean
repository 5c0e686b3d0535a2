import GrinPlusPlus.Slate.Basic

/-!
# Verifying kernel signatures through pointers

`KernelSignatureValidator::VerifyKernelSignatures`
(`include/Core/Validation/KernelSignatureValidator.h`, lines 12-50).

For each kernel the validator keeps pointers to its excess commitment and
excess signature, appends its signature message to a local vector `msgs`, and
keeps a pointer to that copy, `&msgs[i]`; then it hands the three vectors of
pointers to `Crypto::VerifyKernelSignatures`.  A pointer into `msgs` stays valid
only while `msgs` does not reallocate, and `emplace_back` reallocates a full
vector.  The code reserves `kernels.size()` elements first.

A vector's storage carries an allocation id (`StdVector`): a reallocation moves
the elements to a fresh allocation, and a pointer, an allocation and an index
(`Ptr`), dereferences to nothing once its allocation is no longer the vector's.
`VerifyKernelSignatures_eq`: for every list of kernels no pointer dangles, and
`Crypto::VerifyKernelSignatures` gets the kernels' signatures, commitments and
messages, in order.  `reserve_load_bearing`: with `r` elements reserved
instead, every pointer into `msgs` is valid exactly when there are at most
`max r 1` kernels, so the reserve is what keeps them valid.
-/

namespace GrinPlusPlus

open Wire

/-- A Schnorr signature, 64 bytes. -/
abbrev Signature := Bytes 64
/-- `Hash`, 32 bytes. -/
abbrev Hash := Bytes 32

/-- The parts of a `TransactionKernel` the validator reads: its excess
commitment, its excess signature and `GetSignatureMessage()`
(`TransactionKernel.h` is not in the sources). -/
structure TransactionKernel where
  excessCommitment : Commitment
  excessSignature : Signature
  signatureMessage : Hash
  deriving DecidableEq, Repr

/-! ## `std::vector` and pointers into it -/

/-- A `std::vector`: the allocation that holds its elements, its capacity, and
its elements, never more than the capacity. -/
structure StdVector (α : Type) where
  buffer : Nat
  capacity : Nat
  elems : List α
  size_le : elems.length ≤ capacity

/-- A pointer to the element at `index` of the allocation `buffer`. -/
structure Ptr where
  buffer : Nat
  index : Nat
  deriving DecidableEq, Repr

namespace StdVector

variable {α : Type}

/-- An empty vector, at allocation `buffer`. -/
def empty (buffer : Nat) : StdVector α := ⟨buffer, 0, [], le_rfl⟩

/-- `reserve(n)`: a capacity below `n` is raised to `n`, in the fresh allocation
`fresh`. -/
def reserve (v : StdVector α) (n fresh : Nat) : StdVector α :=
  if h : n ≤ v.capacity then v else ⟨fresh, n, v.elems, by have := v.size_le; omega⟩

/-- `push_back(x)`, `emplace_back(x)`: a full vector first moves to the fresh
allocation `fresh`, twice as large (one element when empty), as libstdc++
grows it. -/
def push_back (v : StdVector α) (x : α) (fresh : Nat) : StdVector α :=
  if h : v.elems.length < v.capacity then
    ⟨v.buffer, v.capacity, v.elems ++ [x], by
      simp only [List.length_append, List.length_singleton]; omega⟩
  else ⟨fresh, v.elems.length + max v.elems.length 1, v.elems ++ [x], by
    simp only [List.length_append, List.length_singleton]; omega⟩

/-- `&v[i]`. -/
def ptr (v : StdVector α) (i : Nat) : Ptr := ⟨v.buffer, i⟩

/-- `*p`: the element `p` points to; `none` when its allocation is no longer
`v`'s, or past the end. -/
def deref (v : StdVector α) (p : Ptr) : Option α :=
  if p.buffer = v.buffer then v.elems[p.index]? else none

variable {v : StdVector α} {x : α} {n fresh : Nat}

@[simp] theorem elems_reserve : (v.reserve n fresh).elems = v.elems := by
  unfold reserve; split <;> rfl

theorem le_capacity_reserve : n ≤ (v.reserve n fresh).capacity := by
  unfold reserve; split <;> simp_all

@[simp] theorem elems_push_back : (v.push_back x fresh).elems = v.elems ++ [x] := by
  unfold push_back; split <;> rfl

/-- Pushing into a vector with room keeps its allocation and capacity. -/
theorem push_back_of_lt (h : v.elems.length < v.capacity) :
    (v.push_back x fresh).buffer = v.buffer ∧ (v.push_back x fresh).capacity = v.capacity := by
  simp [push_back, h]

/-- Pushing into a full vector moves it to the fresh allocation. -/
theorem push_back_of_full (h : v.elems.length = v.capacity) :
    (v.push_back x fresh).buffer = fresh := by
  simp [push_back, h]

/-- A push keeps the allocation or moves to the fresh one. -/
theorem buffer_push_back :
    (v.push_back x fresh).buffer = v.buffer ∨ (v.push_back x fresh).buffer = fresh := by
  unfold push_back; split
  · exact .inl rfl
  · exact .inr rfl

end StdVector

/-! ## The validator -/

/-- The locals of `VerifyKernelSignatures`, and the allocator's next fresh
allocation.  `kernels` is `const` and never moves, so a pointer into it is an
index; `commitments`, `signatures` and `messages` hold pointers by value, so
their own reallocations change nothing and they are lists. -/
structure VerifyState where
  commitments : List Nat
  signatures : List Nat
  msgs : StdVector Hash
  messages : List Ptr
  nextBuffer : Nat

/-- Lines 26-30, one pass of the loop, for kernel `i`. -/
def verifyStep (s : VerifyState) (i : Nat) (kernel : TransactionKernel) : VerifyState :=
  let msgs := s.msgs.push_back kernel.signatureMessage s.nextBuffer
  { commitments := s.commitments ++ [i]
    signatures := s.signatures ++ [i]
    msgs := msgs
    messages := s.messages ++ [msgs.ptr i]
    nextBuffer := s.nextBuffer + 1 }

/-- Lines 24-39, the loop from kernel `i` on. -/
def verifyLoop : List TransactionKernel → Nat → VerifyState → VerifyState
  | [], _, s => s
  | kernel :: rest, i, s => verifyLoop rest (i + 1) (verifyStep s i kernel)

/-- Lines 14-21: the locals, with `msgs` reserved to `reserved` elements. -/
def verifyInit (reserved nextBuffer : Nat) : VerifyState :=
  ⟨[], [], (StdVector.empty nextBuffer).reserve reserved (nextBuffer + 1), [], nextBuffer + 2⟩

/-- `KernelSignatureValidator::VerifyKernelSignatures`, from the allocator's
next fresh allocation `nextBuffer`, with `Crypto::VerifyKernelSignatures` as
`verify`; `none` when a pointer it reads through dangles. -/
def VerifyKernelSignatures (verify : List Signature → List Commitment → List Hash → Bool)
    (kernels : List TransactionKernel) (nextBuffer : Nat) : Option Bool := do
  let s := verifyLoop kernels 0 (verifyInit kernels.length nextBuffer)
  let signatures ← s.signatures.mapM fun i => kernels[i]?.map (·.excessSignature)
  let commitments ← s.commitments.mapM fun i => kernels[i]?.map (·.excessCommitment)
  let messages ← s.messages.mapM s.msgs.deref
  pure (verify signatures commitments messages)

/-! ## No pointer dangles -/

@[simp] theorem verifyInit_elems (reserved nextBuffer : Nat) :
    (verifyInit reserved nextBuffer).msgs.elems = [] := by
  simp [verifyInit, StdVector.empty]

@[simp] theorem verifyInit_lists (reserved nextBuffer : Nat) :
    (verifyInit reserved nextBuffer).messages = [] ∧
      (verifyInit reserved nextBuffer).commitments = [] ∧
      (verifyInit reserved nextBuffer).signatures = [] :=
  ⟨rfl, rfl, rfl⟩

/-- The loop over kernels that fit in `msgs`: `msgs` keeps its allocation and
gets their messages, and every pointer is to the kernel's own entry. -/
theorem verifyLoop_of_fits (rest : List TransactionKernel) :
    ∀ i s, s.msgs.elems.length = i → i + rest.length ≤ s.msgs.capacity →
      (verifyLoop rest i s).msgs.buffer = s.msgs.buffer ∧
      (verifyLoop rest i s).msgs.capacity = s.msgs.capacity ∧
      (verifyLoop rest i s).msgs.elems = s.msgs.elems ++ rest.map (·.signatureMessage) ∧
      (verifyLoop rest i s).messages =
        s.messages ++ (List.range' i rest.length).map (Ptr.mk s.msgs.buffer) ∧
      (verifyLoop rest i s).commitments = s.commitments ++ List.range' i rest.length ∧
      (verifyLoop rest i s).signatures = s.signatures ++ List.range' i rest.length := by
  induction rest with
  | nil => intro i s _ _; simp [verifyLoop]
  | cons kernel rest ih =>
    intro i s hsize hcap
    simp only [List.length_cons] at hcap
    obtain ⟨hbuf, hcap'⟩ := @StdVector.push_back_of_lt _ s.msgs kernel.signatureMessage
      s.nextBuffer (by omega)
    obtain ⟨h1, h2, h3, h4, h5, h6⟩ := ih (i + 1) (verifyStep s i kernel)
      (by simp [verifyStep, hsize]) (by simp only [verifyStep, hcap']; omega)
    simp only [verifyLoop, h1, h2, h3, h4, h5, h6]
    simp [verifyStep, hbuf, hcap', StdVector.ptr, List.range'_succ]

/-- Reading through the pointers `g (s + i)` gives `l` when the `i`-th one
reads `l[i]?`. -/
theorem mapM_map_range' {α β : Type} {g : Nat → α} {f : α → Option β} (l : List β)
    (s : Nat) (h : ∀ i, f (g (s + i)) = l[i]?) : ((List.range' s l.length).map g).mapM f = some l := by
  induction l generalizing s with
  | nil => rfl
  | cons b l ih =>
    have h0 : f (g s) = some b := by simpa using h 0
    have h1 := ih (s + 1) fun i => by simpa [Nat.add_assoc, Nat.add_comm 1 i] using h (i + 1)
    rw [List.length_cons, List.range'_succ, List.map_cons, List.mapM_cons, h0, h1]
    rfl

/-- **No pointer dangles, and every kernel is checked against its own
message.**  For every list of kernels, wherever the allocator stands,
`VerifyKernelSignatures` reads through valid pointers only, and calls
`Crypto::VerifyKernelSignatures` on the kernels' excess signatures, excess
commitments and signature messages, in the kernels' order. -/
theorem VerifyKernelSignatures_eq
    (verify : List Signature → List Commitment → List Hash → Bool) (kernels : List TransactionKernel) (nextBuffer : Nat) :
    VerifyKernelSignatures verify kernels nextBuffer =
      some (verify (kernels.map (·.excessSignature)) (kernels.map (·.excessCommitment))
        (kernels.map (·.signatureMessage))) := by
  obtain ⟨hbuf, -, helems, hmsgs, hcoms, hsigs⟩ :=
    verifyLoop_of_fits kernels 0 (verifyInit kernels.length nextBuffer) (by simp)
      (by simpa [verifyInit] using StdVector.le_capacity_reserve)
  have hindex {β : Type} (F : TransactionKernel → β) :
      (List.range' 0 kernels.length).mapM (fun i => kernels[i]?.map F) = some (kernels.map F) := by
    simpa using @mapM_map_range' _ _ id (fun i => kernels[i]?.map F) (kernels.map F) 0
      (fun i => by simp)
  have hderef := @mapM_map_range' _ _ (Ptr.mk (verifyInit kernels.length nextBuffer).msgs.buffer)
    (verifyLoop kernels 0 (verifyInit kernels.length nextBuffer)).msgs.deref
    (kernels.map (·.signatureMessage)) 0 fun i => by simp [StdVector.deref, hbuf, helems]
  simp only [List.length_map] at hderef
  simp only [VerifyKernelSignatures, hcoms, hsigs, hmsgs, verifyInit_lists, List.nil_append, hindex,
    hderef]
  rfl

/-! ## The reserve is load-bearing -/

theorem verifyLoop_append (l₁ l₂ : List TransactionKernel) :
    ∀ i s, verifyLoop (l₁ ++ l₂) i s =
      verifyLoop l₂ (i + l₁.length) (verifyLoop l₁ i s) := by
  induction l₁ with
  | nil => intro i s; rfl
  | cons kernel l₁ ih =>
    intro i s
    rw [List.cons_append, verifyLoop, verifyLoop, ih, List.length_cons, Nat.add_right_comm,
      Nat.add_assoc]

@[simp] theorem verifyLoop_nextBuffer (l : List TransactionKernel) :
    ∀ i s, (verifyLoop l i s).nextBuffer = s.nextBuffer + l.length := by
  induction l with
  | nil => intro i s; rfl
  | cons kernel l ih => intro i s; simp only [verifyLoop, ih, verifyStep, List.length_cons]; omega

/-- Over any run of the loop, `msgs` only moves to fresher allocations, and the
pointers already taken stay in `messages`. -/
theorem verifyLoop_grows (l : List TransactionKernel) :
    ∀ i s, s.msgs.buffer < s.nextBuffer →
      s.msgs.buffer ≤ (verifyLoop l i s).msgs.buffer ∧
      (verifyLoop l i s).msgs.buffer < (verifyLoop l i s).nextBuffer ∧
      s.messages <+: (verifyLoop l i s).messages := by
  induction l with
  | nil => intro i s h; exact ⟨le_rfl, h, List.prefix_refl _⟩
  | cons kernel l ih =>
    intro i s h
    have hstep : s.msgs.buffer ≤ (verifyStep s i kernel).msgs.buffer ∧
        (verifyStep s i kernel).msgs.buffer < (verifyStep s i kernel).nextBuffer := by
      rcases @StdVector.buffer_push_back _ s.msgs kernel.signatureMessage s.nextBuffer with hb | hb
      <;> simp only [verifyStep, hb] <;> omega
    obtain ⟨h1, h2, h3⟩ := ih (i + 1) _ hstep.2
    exact ⟨hstep.1.trans h1, h2, (List.prefix_append _ _).trans h3⟩

/-- The first pass: `msgs` holds one message, with room for `max reserved 1`,
and `messages` the pointer to it. -/
theorem verifyStep_verifyInit (reserved nextBuffer : Nat) (kernel : TransactionKernel) :
    (verifyStep (verifyInit reserved nextBuffer) 0 kernel).msgs.capacity = max reserved 1 ∧
      (verifyStep (verifyInit reserved nextBuffer) 0 kernel).msgs.elems.length = 1 ∧
      (verifyStep (verifyInit reserved nextBuffer) 0 kernel).msgs.buffer <
        (verifyStep (verifyInit reserved nextBuffer) 0 kernel).nextBuffer ∧
      (verifyStep (verifyInit reserved nextBuffer) 0 kernel).messages =
        [⟨(verifyStep (verifyInit reserved nextBuffer) 0 kernel).msgs.buffer, 0⟩] := by
  rcases Nat.eq_zero_or_pos reserved with rfl | hr
  · simp [verifyStep, verifyInit, StdVector.reserve, StdVector.push_back, StdVector.empty,
      StdVector.ptr]
  · simp [verifyStep, verifyInit, StdVector.reserve, StdVector.push_back, StdVector.empty,
      StdVector.ptr, hr, Nat.not_le.2 hr, Nat.max_eq_left hr]

/-- **The reserve is load-bearing.**  Run the loop with `reserved` elements of
`msgs` reserved instead of `kernels.size()`: every pointer into `msgs` is valid
at the end exactly when there are at most `max reserved 1` kernels.  With more,
the push past the capacity moves `msgs`, and the first pointer dangles. -/
theorem reserve_load_bearing (kernels : List TransactionKernel) (reserved nextBuffer : Nat) :
    (∀ p ∈ (verifyLoop kernels 0 (verifyInit reserved nextBuffer)).messages,
      ((verifyLoop kernels 0 (verifyInit reserved nextBuffer)).msgs.deref p).isSome) ↔
      kernels.length ≤ max reserved 1 := by
  cases kernels with
  | nil => simp [verifyLoop]
  | cons kernel rest =>
    obtain ⟨hcap, hlen, hbuf, hmsgs⟩ := verifyStep_verifyInit reserved nextBuffer kernel
    simp only [verifyLoop, List.length_cons]
    set s := verifyStep (verifyInit reserved nextBuffer) 0 kernel
    constructor
    · -- past the capacity, a push moves `msgs` away from the first pointer
      intro hall
      have hsome := hall ⟨s.msgs.buffer, 0⟩
        ((verifyLoop_grows rest _ s hbuf).2.2.subset (by simp [hmsgs]))
      by_contra hn
      have hk : max reserved 1 - 1 < rest.length := by omega
      have hmoved : s.msgs.buffer < (verifyLoop rest (0 + 1) s).msgs.buffer := by
        obtain ⟨-, hc2, he2, -, -, -⟩ := verifyLoop_of_fits (rest.take (max reserved 1 - 1)) 1 s
          hlen (by simp [hcap]; omega)
        have hnext := verifyLoop_nextBuffer (rest.take (max reserved 1 - 1)) 1 s
        rw [← List.take_append_drop (max reserved 1 - 1) rest, List.drop_eq_getElem_cons hk,
          verifyLoop_append, verifyLoop]
        generalize verifyLoop (rest.take (max reserved 1 - 1)) 1 s = s2 at hc2 he2 hnext
        have hfull : s2.msgs.elems.length = s2.msgs.capacity := by
          simp [he2, hc2, hcap, hlen]; omega
        refine lt_of_lt_of_le ?_ (verifyLoop_grows _ _ _ ?_).1 <;>
          simp only [verifyStep, StdVector.push_back_of_full hfull] <;> omega
      simp [StdVector.deref, hmoved.ne] at hsome
    · -- within the capacity, `msgs` never moves
      intro hn p hp
      obtain ⟨hb, -, he, hm, -, -⟩ := verifyLoop_of_fits rest 1 s hlen (by omega)
      rw [hm, hmsgs] at hp
      simp only [List.singleton_append, List.mem_cons, List.mem_map, List.mem_range'_1] at hp
      have hget : ∀ j < rest.length + 1, ((verifyLoop rest 1 s).msgs.elems[j]?).isSome := by
        intro j hj
        rw [List.getElem?_eq_getElem (by simp [he, hlen]; omega)]
        rfl
      rcases hp with rfl | ⟨j, hj, rfl⟩
      · simpa [StdVector.deref, hb] using hget 0 (by omega)
      · simpa [StdVector.deref, hb] using hget j (by omega)

end GrinPlusPlus
