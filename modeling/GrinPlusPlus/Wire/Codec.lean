import Mathlib.Data.List.Basic
import Mathlib.Algebra.Group.Nat.Basic

/-!
# Byte codecs

`Serializer` and `ByteBuffer` (`Core/Serialization`, not in the sources):
`Serializer::Append<T>` writes an integer, `ByteBuffer::ReadU8`,
`ReadU16`, … read it back and throw a `DeserializationException` past the end
of the buffer.  A read is a `Reader`, a state over the bytes not yet read; a
`Codec` is a writer, a reader, and the proof that reading what was written
gives it back and consumes exactly it (`Codec.read_write`, stated with any
suffix `rest` so that codecs compose by `++`).

Integers are written big-endian, as the spec fixes for the wire format:
`toBE n v` is the `n` low bytes of `v`, most significant first, and `fromBE`
reads them back modulo `256 ^ n` (`fromBE_toBE`).  Conversely an integer reader
succeeds only on the bytes its writer writes (`Codec.Faithful`, `u8_faithful`,
...), so that a format made of them accepts exactly its encodings.
-/

namespace GrinPlusPlus
namespace Wire

/-- `DeserializationException`, the exception a read past the end throws. -/
structure DeserializationException where
  deriving DecidableEq, Repr

/-- A read from a `ByteBuffer`: the bytes not yet read are the state. -/
abbrev Reader (α : Type) := StateT (List UInt8) (Except DeserializationException) α

/-- A component's `Serialize` and `Deserialize`, with the round trip. -/
structure Codec (α : Type) where
  write : α → List UInt8
  read : Reader α
  read_write : ∀ a rest, read.run (write a ++ rest) = .ok (a, rest)

variable {α β : Type}

/-- **Reading a written value and going on reads the rest.** -/
@[simp] theorem Codec.read_bind (c : Codec α) (f : α → Reader β) (a : α) (rest : List UInt8) :
    (c.read >>= f).run (c.write a ++ rest) = (f a).run rest := by
  rw [StateT.run_bind, c.read_write]; rfl

/-- A field read only when its status bit is set; otherwise it keeps the
default `d`. -/
def readIf (b : Bool) (r : Reader α) (d : α) : Reader α := if b then r else pure d

/-- A field written only when its status bit is set. -/
def writeIf (b : Bool) (w : α → List UInt8) (a : α) : List UInt8 := if b then w a else []

@[simp] theorem Codec.readIf_bind (c : Codec α) (b : Bool) (d a : α) (f : α → Reader β)
    (rest : List UInt8) :
    (readIf b c.read d >>= f).run (writeIf b c.write a ++ rest) =
      (f (if b then a else d)).run rest := by
  cases b
  · rfl
  · exact c.read_bind f a rest

/-- `for (i = 0; i < n; i++) v.push_back(T::Deserialize(byteBuffer))`. -/
def readMany (r : Reader α) : Nat → Reader (List α)
  | 0 => pure []
  | n + 1 => do
    let a ← r
    let as ← readMany r n
    pure (a :: as)

@[simp] theorem Codec.readMany_bind (c : Codec α) (l : List α) (f : List α → Reader β)
    (rest : List UInt8) :
    (readMany c.read l.length >>= f).run (l.flatMap c.write ++ rest) = (f l).run rest := by
  induction l generalizing f with
  | nil => rfl
  | cons a l ih =>
    simp only [List.length_cons, readMany, List.flatMap_cons, List.append_assoc, bind_assoc,
      c.read_bind, pure_bind]
    exact ih fun as => f (a :: as)

/-- A struct read only when its status bit is set:
`if (include) v = std::make_optional(T::Deserialize(byteBuffer))`. -/
def readOptional (b : Bool) (r : Reader α) : Reader (Option α) :=
  if b then (r >>= fun a => pure (some a)) else pure none

/-- `if (v.has_value()) v.value().Serialize(serializer)`. -/
def writeOptional (w : α → List UInt8) : Option α → List UInt8
  | some a => w a
  | none => []

@[simp] theorem Codec.readOptional_bind (c : Codec α) (o : Option α) (f : Option α → Reader β)
    (rest : List UInt8) :
    (readOptional o.isSome c.read >>= f).run (writeOptional c.write o ++ rest) = (f o).run rest := by
  cases o with
  | none => rfl
  | some a => simp only [readOptional, Option.isSome_some, if_true, bind_assoc, pure_bind,
      writeOptional, c.read_bind]

/-! ## Fixed-size byte strings and integers -/

/-- `n` bytes, as `CBigInteger<n>` holds them. -/
structure Bytes (n : Nat) where
  data : List UInt8
  length_eq : data.length = n
  deriving DecidableEq, Repr

/-- `ByteBuffer::ReadBytes`: the next `n` bytes. -/
def readBytes (n : Nat) : Reader (List UInt8) := fun s =>
  if n ≤ s.length then .ok (s.take n, s.drop n) else .error {}

@[simp] theorem readBytes_bind (l rest : List UInt8) (f : List UInt8 → Reader β) :
    (readBytes l.length >>= f).run (l ++ rest) = (f l).run rest := by
  rw [StateT.run_bind]
  simp [readBytes, StateT.run]
  rfl

/-- `AppendBigInteger<n>` and `ReadBigInteger<n>`. -/
def bytes (n : Nat) : Codec (Bytes n) where
  write b := b.data
  read := do
    let d ← readBytes n
    if h : d.length = n then pure ⟨d, h⟩ else throw {}
  read_write b rest := by
    have := readBytes_bind b.data rest
      (fun d => if h : d.length = n then pure (⟨d, h⟩ : Bytes n) else throw {})
    simp only [b.length_eq, dite_true] at this
    exact this

/-- The `n` low bytes of `v`, most significant first. -/
def toBE : Nat → Nat → List UInt8
  | 0, _ => []
  | n + 1, v => toBE n (v / 256) ++ [UInt8.ofNat (v % 256)]

/-- The big-endian value of a byte string. -/
def fromBE (l : List UInt8) : Nat := l.foldl (fun acc b => acc * 256 + b.toNat) 0

@[simp] theorem length_toBE (n v : Nat) : (toBE n v).length = n := by
  induction n generalizing v with
  | zero => rfl
  | succ n ih => simp [toBE, ih]

theorem fromBE_toBE (n v : Nat) : fromBE (toBE n v) = v % 256 ^ n := by
  induction n generalizing v with
  | zero => simp [toBE, fromBE, Nat.mod_one]
  | succ n ih =>
    have h := ih (v / 256)
    simp only [fromBE] at h
    simp only [fromBE, toBE, List.foldl_append, List.foldl_cons, List.foldl_nil, h,
      UInt8.toNat_ofNat_of_lt (Nat.mod_lt v (by decide) : v % 256 < UInt8.size), Nat.pow_succ]
    rw [Nat.mul_comm (256 ^ n), Nat.mod_mul]
    omega

/-- An unsigned integer of `n` bytes, big-endian: `Serializer::Append` and
`ByteBuffer::ReadU8`, `ReadU16`, `ReadU32`, `ReadU64`. -/
def uint {α : Type} (n : Nat) (toNat : α → Nat) (ofNat : Nat → α)
    (h : ∀ a, ofNat (toNat a % 256 ^ n) = a) : Codec α where
  write a := toBE n (toNat a)
  read := do
    let b ← readBytes n
    pure (ofNat (fromBE b))
  read_write a rest := by
    have := readBytes_bind (toBE n (toNat a)) rest fun b => pure (ofNat (fromBE b))
    rw [length_toBE, fromBE_toBE, h] at this
    exact this

/-- `uint8_t`. -/
def u8 : Codec UInt8 := uint 1 UInt8.toNat UInt8.ofNat fun a => UInt8.toNat.inj (by
  have h : a.toNat < 256 ^ 1 := a.val.isLt
  rw [Nat.mod_eq_of_lt h, UInt8.toNat_ofNat_of_lt h])

/-- `uint16_t`, big-endian. -/
def u16 : Codec UInt16 := uint 2 UInt16.toNat UInt16.ofNat fun a => UInt16.toNat.inj (by
  have h : a.toNat < 256 ^ 2 := a.val.isLt
  rw [Nat.mod_eq_of_lt h, UInt16.toNat_ofNat_of_lt h])

/-- `uint32_t`, big-endian. -/
def u32 : Codec UInt32 := uint 4 UInt32.toNat UInt32.ofNat fun a => UInt32.toNat.inj (by
  have h : a.toNat < 256 ^ 4 := a.val.isLt
  rw [Nat.mod_eq_of_lt h, UInt32.toNat_ofNat_of_lt h])

/-- `uint64_t`, big-endian. -/
def u64 : Codec UInt64 := uint 8 UInt64.toNat UInt64.ofNat fun a => UInt64.toNat.inj (by
  have h : a.toNat < 256 ^ 8 := a.val.isLt
  rw [Nat.mod_eq_of_lt h, UInt64.toNat_ofNat_of_lt h])


/-! ## Reads accept only what writes write -/

/-- A codec whose reader succeeds only on what its writer wrote: the converse
of `read_write`. -/
def Codec.Faithful (c : Codec α) : Prop :=
  ∀ s a rest, c.read.run s = .ok (a, rest) → s = c.write a ++ rest

/-- A read followed by more succeeded exactly when the read did and the rest
succeeded on what it left. -/
theorem run_bind_eq_ok {x : Reader α} {f : α → Reader β} {s s' : List UInt8} {b : β} :
    (x >>= f).run s = .ok (b, s') ↔
      ∃ a s₁, x.run s = .ok (a, s₁) ∧ (f a).run s₁ = .ok (b, s') := by
  rw [StateT.run_bind]
  cases x.run s with
  | error e => simp [bind, Except.bind]
  | ok p => exact ⟨fun h => ⟨p.1, p.2, rfl, h⟩, fun ⟨a, s₁, hp, h⟩ => by cases hp; exact h⟩

theorem readBytes_eq_ok {n : Nat} {s d rest : List UInt8}
    (h : (readBytes n).run s = .ok (d, rest)) : d.length = n ∧ s = d ++ rest := by
  simp only [readBytes, StateT.run] at h
  split at h
  · cases h; exact ⟨List.length_take_of_le ‹_›, (List.take_append_drop n s).symm⟩
  · cases h

theorem fromBE_append (l : List UInt8) (b : UInt8) :
    fromBE (l ++ [b]) = fromBE l * 256 + b.toNat := by
  simp [fromBE, List.foldl_append]

theorem fromBE_lt (l : List UInt8) : fromBE l < 256 ^ l.length := by
  induction l using List.reverseRecOn with
  | nil => decide
  | append_singleton l b ih =>
    have hb : b.toNat < 256 := b.val.isLt
    rw [fromBE_append, List.length_append, List.length_singleton, Nat.pow_succ]
    omega

/-- `n` bytes are written back as they were read. -/
theorem toBE_fromBE (l : List UInt8) : toBE l.length (fromBE l) = l := by
  induction l using List.reverseRecOn with
  | nil => rfl
  | append_singleton l b ih =>
    have hb : b.toNat < 256 := b.val.isLt
    rw [List.length_append, List.length_singleton, toBE, fromBE_append,
      show (fromBE l * 256 + b.toNat) / 256 = fromBE l by omega,
      show (fromBE l * 256 + b.toNat) % 256 = b.toNat by omega, ih,
      UInt8.toNat.inj (UInt8.toNat_ofNat_of_lt hb)]

theorem uint_faithful {n : Nat} {toNat : α → Nat} {ofNat : Nat → α}
    {h : ∀ a, ofNat (toNat a % 256 ^ n) = a} (hof : ∀ x < 256 ^ n, toNat (ofNat x) = x) :
    (uint n toNat ofNat h).Faithful := by
  intro s a rest hr
  obtain ⟨d, s₁, hd, hp⟩ := run_bind_eq_ok.1 hr
  obtain ⟨hlen, rfl⟩ := readBytes_eq_ok hd
  cases hp
  show d ++ rest = toBE n (toNat (ofNat (fromBE d))) ++ rest
  rw [hof _ (hlen ▸ fromBE_lt d), ← hlen, toBE_fromBE]

theorem u8_faithful : u8.Faithful := uint_faithful fun _ hx => UInt8.toNat_ofNat_of_lt hx

theorem u32_faithful : u32.Faithful := uint_faithful fun _ hx => UInt32.toNat_ofNat_of_lt hx

theorem u64_faithful : u64.Faithful := uint_faithful fun _ hx => UInt64.toNat_ofNat_of_lt hx


/-! ## Building codecs -/

/-- A codec carried along a bijection. -/
def Codec.map (c : Codec α) (f : α → β) (g : β → α) (h : ∀ b, f (g b) = b) : Codec β where
  write b := c.write (g b)
  read := c.read >>= fun a => pure (f a)
  read_write b rest := by rw [c.read_bind, h]; rfl

/-- Two codecs one after the other. -/
def Codec.prod (ca : Codec α) (cb : Codec β) : Codec (α × β) where
  write p := ca.write p.1 ++ cb.write p.2
  read := ca.read >>= fun a => cb.read >>= fun b => pure (a, b)
  read_write p rest := by rw [List.append_assoc, ca.read_bind, cb.read_bind]; rfl

/-- A presence byte, then the value when it is present. -/
def Codec.option (c : Codec α) : Codec (Option α) where
  write o := match o with
    | some a => u8.write 1 ++ c.write a
    | none => u8.write 0
  read := u8.read >>= fun flag => if flag = 0 then pure none else c.read >>= fun a => pure (some a)
  read_write o rest := by
    cases o with
    | none => rw [u8.read_bind]; rfl
    | some a => rw [List.append_assoc, u8.read_bind, if_neg (by decide), c.read_bind]; rfl

/-- An enumeration written as one byte; a byte that names no value is a
`DeserializationException`. -/
def Codec.byteEnum (toByte : α → UInt8) (fromByte : UInt8 → Option α)
    (h : ∀ a, fromByte (toByte a) = some a) : Codec α where
  write a := u8.write (toByte a)
  read := u8.read >>= fun b => match fromByte b with
    | some a => pure a
    | none => throw {}
  read_write a rest := by rw [u8.read_bind, h]; rfl

end Wire
end GrinPlusPlus
