import GrinPlusPlus.P2P.MessageProcessor
import GrinPlusPlus.Wire.Codec

/-!
# Reading one message off a socket

`MessageRetriever::RetrieveMessage` (`MessageRetriever.cpp`, lines 22-90).

In `BLOCKING` mode it first waits for data: every 5 ms it checks the clock
against a timeout 8 s ahead and the shutdown flag, and returns `nullptr` when
either has passed.  Then it receives the 11 header bytes (`nullptr` if they do
not come), throws a `DeserializationException` on a header that is not
`IsValid`, receives `GetMessageLength()` payload bytes (a
`DeserializationException` if they do not come), updates the peer's last
contact time and returns the message.

The frame header is `magic(2) | type(1) | len(8)`, big-endian, as the spec
fixes it; `MessageHeader::IsValid(m_config)` is not in the sources and is a
parameter.  `receiveMessage_eq_frame_iff`: a message is returned exactly when
the socket holds a frame with a valid header followed by its payload, and
exactly that frame is consumed.  `RetrieveMessage_spec` adds the wait: when
every 5 ms sleep lets the clock advance by at least 5 ms, `RetrieveMessage`
returns within 1601 checks, and the contact time is updated exactly when a
message is returned.  The wait reads `system_clock`, which may stand still or
go back: with a clock that stays short of the timeout, and no data and no
shutdown, it never ends (`RetrieveMessage_stuck_clock`).
-/

namespace GrinPlusPlus.P2P

open Wire

/-! ## The frame -/

/-- Modelled from the spec: `MessageHeader`, the frame header
`magic(2) | type(1) | len(8)`.  The type is the raw byte, since an unknown type
is not an error when the frame is read. -/
structure MessageHeader where
  magic : Bytes 2
  messageType : UInt8
  messageLength : UInt64
  deriving DecidableEq, Repr

/-- Modelled from the spec: `MessageHeader::Serialize` and `Deserialize`, the
three fields big-endian one after the other. -/
def MessageHeader.codec : Codec MessageHeader where
  write h := (bytes 2).write h.magic ++ u8.write h.messageType ++ u64.write h.messageLength
  read := do
    let magic ← (bytes 2).read
    let messageType ← u8.read
    let messageLength ← u64.read
    pure ⟨magic, messageType, messageLength⟩
  read_write h rest := by
    simp only [List.append_assoc, Codec.read_bind]
    rfl

@[simp] theorem MessageHeader.length_write (h : MessageHeader) :
    (MessageHeader.codec.write h).length = 11 := by
  simp [MessageHeader.codec, bytes, u8, u64, uint, h.magic.length_eq]

theorem bytes_faithful (n : Nat) : (bytes n).Faithful := by
  intro s a rest hr
  obtain ⟨d, s₁, hd, hp⟩ := run_bind_eq_ok.1 hr
  obtain ⟨hlen, rfl⟩ := readBytes_eq_ok hd
  simp only [hlen, dite_true] at hp
  cases hp
  rfl

theorem MessageHeader.codec_faithful : MessageHeader.codec.Faithful := by
  intro s h rest hr
  obtain ⟨magic, s₁, h1, hr⟩ := run_bind_eq_ok.1 hr
  obtain ⟨messageType, s₂, h2, hr⟩ := run_bind_eq_ok.1 hr
  obtain ⟨messageLength, s₃, h3, hr⟩ := run_bind_eq_ok.1 hr
  cases hr
  rw [bytes_faithful 2 _ _ _ h1, u8_faithful _ _ _ h2, u64_faithful _ _ _ h3]
  simp [MessageHeader.codec]

/-- `RawMessage(messageHeader, payload)`: the header and the payload bytes.
`RawMessage` of the processor is the part of it `ProcessMessageInternal`
reads. -/
structure MessageFrame where
  header : MessageHeader
  payload : List UInt8
  deriving DecidableEq, Repr

/-- Modelled from the spec: the bytes of a frame on the wire, its header then
its payload. -/
def MessageFrame.bytes (f : MessageFrame) : List UInt8 :=
  MessageHeader.codec.write f.header ++ f.payload

/-! ## Receiving a message -/

/-- Modelled from the spec: `Socket::Receive(n, ...)` reads the next `n` bytes
the peer sent, and fails when fewer arrive before the receive timeout. -/
def Receive (n : Nat) (incoming : List UInt8) : Option (List UInt8 × List UInt8) :=
  if n ≤ incoming.length then some (incoming.take n, incoming.drop n) else none

/-- What `RetrieveMessage` leaves: its result (the message, `nullptr` as
`none`, or the exception it throws), the bytes still unread, and whether it
called `UpdateLastContactTime`. -/
structure Retrieval where
  result : Except Exception (Option MessageFrame)
  incoming : List UInt8
  contactUpdated : Bool

/-- Lines 43-89, once `hasReceivedData` holds: the header, its check, the
payload. -/
def receiveMessage (IsValid : MessageHeader → Bool) (incoming : List UInt8) : Retrieval :=
  match Receive 11 incoming with
  | none => ⟨.ok none, incoming, false⟩
  | some (headerBuffer, rest) =>
    match MessageHeader.codec.read.run headerBuffer with
    | .error _ => ⟨.error .DeserializationException, rest, false⟩
    | .ok (messageHeader, _) =>
      if IsValid messageHeader then
        match Receive messageHeader.messageLength.toNat rest with
        | some (payload, rest') => ⟨.ok (some ⟨messageHeader, payload⟩), rest', true⟩
        | none => ⟨.error .DeserializationException, rest, false⟩
      else ⟨.error .DeserializationException, rest, false⟩

theorem Receive_append (l rest : List UInt8) : Receive l.length (l ++ rest) = some (l, rest) := by
  simp [Receive]

/-- The 11 bytes the header receive returns are a header's encoding. -/
theorem read_header_of_length {headerBuffer : List UInt8} (hlen : headerBuffer.length = 11) :
    ∃ h, MessageHeader.codec.read.run headerBuffer = .ok (h, []) ∧
      headerBuffer = MessageHeader.codec.write h := by
  cases hr : MessageHeader.codec.read.run headerBuffer with
  | error e =>
    simp [MessageHeader.codec, bytes, u8, u64, uint, readBytes, hlen, StateT.run, bind,
      StateT.bind, Except.bind, pure, StateT.pure, Except.pure] at hr
  | ok p =>
    obtain ⟨h, rest⟩ := p
    have heq := MessageHeader.codec_faithful _ _ _ hr
    have hrest : rest = [] := by
      have := congrArg List.length heq
      simp only [List.length_append, MessageHeader.length_write, hlen] at this
      exact List.eq_nil_of_length_eq_zero (by omega)
    subst hrest
    exact ⟨h, rfl, by simpa using heq⟩

/-- **A message is received exactly when the socket holds a frame.**  For
every byte stream, `receiveMessage` returns the message `f` and leaves `rest`
unread exactly when the stream is `f`'s header, valid, and then its payload of
`GetMessageLength()` bytes, followed by `rest`. -/
theorem receiveMessage_eq_frame_iff (IsValid : MessageHeader → Bool) (incoming rest : List UInt8)
    (f : MessageFrame) :
    (receiveMessage IsValid incoming).result = .ok (some f) ∧
        (receiveMessage IsValid incoming).incoming = rest ↔
      IsValid f.header = true ∧ f.payload.length = f.header.messageLength.toNat ∧
        incoming = f.bytes ++ rest := by
  constructor
  · unfold receiveMessage Receive
    split_ifs with h11
    · obtain ⟨h, hread, hbuf⟩ := @read_header_of_length (incoming.take 11)
        (by simp [List.length_take, h11])
      simp only [hread]
      split_ifs with hv hl
      · rintro ⟨hf, rfl⟩
        cases hf
        refine ⟨hv, List.length_take_of_le hl, ?_⟩
        rw [MessageFrame.bytes, ← hbuf, List.append_assoc, List.take_append_drop,
          List.take_append_drop]
      all_goals simp
    · simp
  · obtain ⟨header, payload⟩ := f
    rintro ⟨hvalid, hlen, rfl⟩
    have hread := MessageHeader.codec.read_write header []
    rw [List.append_nil] at hread
    simp only [receiveMessage, MessageFrame.bytes, List.append_assoc, ← MessageHeader.length_write
      header, Receive_append, hread, hvalid, if_true, ← hlen, and_self]

/-- Whenever `receiveMessage` returns, it has updated the contact time exactly
when it returns a message. -/
theorem receiveMessage_contactUpdated (IsValid : MessageHeader → Bool) (incoming : List UInt8) :
    (receiveMessage IsValid incoming).contactUpdated = true ↔
      ∃ f, (receiveMessage IsValid incoming).result = .ok (some f) := by
  unfold receiveMessage
  split
  · simp
  · split
    · simp
    · split_ifs
      · split <;> simp
      · simp

/-! ## Waiting for data -/

/-- `ERetrievalMode`. -/
inductive ERetrievalMode
  | BLOCKING
  | NON_BLOCKING
  deriving DecidableEq, Repr

/-- What one pass of the wait loop observes: `system_clock::now()` in ms, the
shutdown flag, and `HasReceivedData()` after the 5 ms sleep. -/
structure Poll where
  now : Nat
  shutdown : Bool
  hasData : Bool
  deriving DecidableEq, Repr

/-- The socket and the clock as `RetrieveMessage` sees them: `HasReceivedData()`
on entry, the clock when the timeout is set, what the `k`-th pass of the wait
loop observes, and the bytes the peer sends. -/
structure SocketEnv where
  hasReceivedData : Bool
  start : Nat
  polls : Nat → Poll
  incoming : List UInt8

/-- Lines 30-40, the wait loop from its `k`-th pass, with `hasReceivedData` as
it stands: `some b` is `hasReceivedData` when the loop is left (`false` when it
returns `nullptr` at the timeout or on shutdown), `none` when the fuel runs
out. -/
def waitForData (env : SocketEnv) : Nat → Nat → Bool → Option Bool
  | _, _, true => some true
  | 0, _, false => none
  | fuel + 1, k, false =>
    if env.start + 8000 ≤ (env.polls k).now || (env.polls k).shutdown then some false
    else waitForData env fuel (k + 1) (env.polls k).hasData

/-- Lines 27-41: `hasReceivedData` once the wait, in `BLOCKING` mode, is
over. -/
def receivedData (env : SocketEnv) (retrievalMode : ERetrievalMode) (fuel : Nat) : Option Bool :=
  match retrievalMode with
  | .BLOCKING => waitForData env fuel 0 env.hasReceivedData
  | .NON_BLOCKING => some env.hasReceivedData

/-- `MessageRetriever::RetrieveMessage`: the message if data came, and
`nullptr` otherwise. -/
def RetrieveMessage (IsValid : MessageHeader → Bool) (env : SocketEnv)
    (retrievalMode : ERetrievalMode) (fuel : Nat) : Option Retrieval :=
  (receivedData env retrievalMode fuel).map fun hasReceivedData =>
    if hasReceivedData then receiveMessage IsValid env.incoming
    else ⟨.ok none, env.incoming, false⟩

/-- A wait that returns with some fuel returns the same with more. -/
theorem waitForData_add_fuel {env : SocketEnv} {fuel k : Nat} {b r : Bool}
    (h : waitForData env fuel k b = some r) (n : Nat) :
    waitForData env (fuel + n) k b = some r := by
  induction fuel generalizing k b with
  | zero => cases b <;> simp_all [waitForData]
  | succ fuel ih =>
    cases b
    · rw [show fuel + 1 + n = fuel + n + 1 by omega, waitForData]
      rw [waitForData] at h
      split_ifs at h ⊢ <;> first | exact h | exact ih h
    · simpa [waitForData] using h

/-- When every pass lets the clock advance by 5 ms, pass `1600` finds the 8 s
timeout passed, so the wait returns by then. -/
theorem waitForData_isSome {env : SocketEnv}
    (hclock : ∀ k, env.start + 5 * k ≤ (env.polls k).now) :
    ∀ fuel k b, 1600 ≤ k + fuel → (waitForData env (fuel + 1) k b).isSome
  | _, _, true, _ => rfl
  | 0, k, false, hk => by
    have := hclock k
    rw [waitForData, if_pos (by simp only [Bool.or_eq_true, decide_eq_true_eq]; omega)]
    rfl
  | fuel + 1, k, false, hk => by
    rw [waitForData]
    split_ifs
    · rfl
    · exact waitForData_isSome hclock fuel (k + 1) _ (by omega)

/-- With a clock that stops short of the timeout, no shutdown and no data, the
wait never ends: no fuel is enough. -/
theorem waitForData_eq_none {env : SocketEnv} {k : Nat}
    (hstuck : ∀ k', k ≤ k' → (env.polls k').now < env.start + 8000 ∧
      (env.polls k').shutdown = false ∧ (env.polls k').hasData = false) :
    ∀ fuel, waitForData env fuel k false = none := by
  intro fuel
  induction fuel generalizing k with
  | zero => rfl
  | succ fuel ih =>
    obtain ⟨hnow, hshut, hdata⟩ := hstuck k le_rfl
    rw [waitForData, if_neg (by simp [hshut, hnow]), hdata]
    exact ih fun k' hk' => hstuck k' (by omega)

/-- When every pass lets the clock advance by 5 ms, the wait is over after 1601
passes, and more passes change nothing. -/
theorem receivedData_stable {env : SocketEnv} (retrievalMode : ERetrievalMode)
    (hclock : ∀ k, env.start + 5 * k ≤ (env.polls k).now) :
    ∃ b, ∀ n, receivedData env retrievalMode (1601 + n) = some b := by
  cases retrievalMode with
  | BLOCKING =>
    obtain ⟨b, hb⟩ := Option.isSome_iff_exists.1
      (waitForData_isSome hclock 1600 0 env.hasReceivedData (by omega))
    exact ⟨b, fun n => waitForData_add_fuel hb n⟩
  | NON_BLOCKING => exact ⟨_, fun _ => rfl⟩

/-- When every pass lets the clock advance by 5 ms, `RetrieveMessage` has
returned after 1601 passes, and more passes change nothing. -/
theorem RetrieveMessage_stable (IsValid : MessageHeader → Bool) {env : SocketEnv}
    (retrievalMode : ERetrievalMode) (hclock : ∀ k, env.start + 5 * k ≤ (env.polls k).now) :
    ∃ r, ∀ n, RetrieveMessage IsValid env retrievalMode (1601 + n) = some r := by
  obtain ⟨b, hb⟩ := receivedData_stable retrievalMode hclock
  exact ⟨_, fun n => by rw [RetrieveMessage, hb]; rfl⟩

/-- `RetrieveMessage` returns `nullptr` without reading, or what
`receiveMessage` makes of the bytes sent. -/
theorem RetrieveMessage_eq_some {IsValid : MessageHeader → Bool} {env : SocketEnv}
    {retrievalMode : ERetrievalMode} {fuel : Nat} {r : Retrieval}
    (h : RetrieveMessage IsValid env retrievalMode fuel = some r) :
    r = receiveMessage IsValid env.incoming ∨ r = ⟨.ok none, env.incoming, false⟩ := by
  obtain ⟨b, -, rfl⟩ := Option.map_eq_some'.1 h
  cases b
  · exact .inr rfl
  · exact .inl rfl

/-- **`RetrieveMessage` returns within 1601 checks.**  When every 5 ms sleep
lets the clock advance by at least 5 ms, `RetrieveMessage` returns within 1601
passes of the wait loop, and more passes change nothing; it returns `nullptr`
without reading, or what `receiveMessage` makes of the bytes sent; and it has
updated the contact time exactly when it returns a message. -/
theorem RetrieveMessage_spec (IsValid : MessageHeader → Bool) (env : SocketEnv)
    (retrievalMode : ERetrievalMode) (hclock : ∀ k, env.start + 5 * k ≤ (env.polls k).now) :
    ∃ r, (∀ n, RetrieveMessage IsValid env retrievalMode (1601 + n) = some r) ∧
      (r = receiveMessage IsValid env.incoming ∨ r = ⟨.ok none, env.incoming, false⟩) ∧
      (r.contactUpdated = true ↔ ∃ f, r.result = .ok (some f)) := by
  obtain ⟨b, hb⟩ := receivedData_stable retrievalMode hclock
  have hr (n : Nat) : RetrieveMessage IsValid env retrievalMode (1601 + n) =
      some (if b then receiveMessage IsValid env.incoming
        else ⟨.ok none, env.incoming, false⟩) := by
    rw [RetrieveMessage, hb]
    rfl
  refine ⟨_, hr, RetrieveMessage_eq_some (hr 0), ?_⟩
  cases b
  · simp
  · exact receiveMessage_contactUpdated IsValid env.incoming

/-- A peer that sends nothing, with a clock that advances 5 ms a pass. -/
def silentPeer : SocketEnv := ⟨false, 0, fun k => ⟨5 * k, false, false⟩, []⟩

/-- The silent peer times out: `RetrieveMessage` returns `nullptr`. -/
theorem RetrieveMessage_spec_silentPeer :
    (∀ k, silentPeer.start + 5 * k ≤ (silentPeer.polls k).now) ∧
      ∃ r, (∀ n, RetrieveMessage (fun _ => true) silentPeer .BLOCKING (1601 + n) = some r) ∧
        (r = receiveMessage (fun _ => true) silentPeer.incoming ∨
          r = ⟨.ok none, silentPeer.incoming, false⟩) ∧
        (r.contactUpdated = true ↔ ∃ f, r.result = .ok (some f)) :=
  ⟨fun _ => Nat.le_of_eq (Nat.zero_add _),
    RetrieveMessage_spec (fun _ => true) silentPeer .BLOCKING
      fun _ => Nat.le_of_eq (Nat.zero_add _)⟩

/-- **A stuck clock never ends the wait.**  When no data has come, and from
the first pass on the clock stays short of the 8 s timeout, no shutdown is
requested and no data comes, `RetrieveMessage` in `BLOCKING` mode never
returns: no number of passes is enough. -/
theorem RetrieveMessage_stuck_clock (IsValid : MessageHeader → Bool) {env : SocketEnv}
    (hdata : env.hasReceivedData = false)
    (hstuck : ∀ k, (env.polls k).now < env.start + 8000 ∧ (env.polls k).shutdown = false ∧
      (env.polls k).hasData = false) :
    ∀ fuel, RetrieveMessage IsValid env .BLOCKING fuel = none := by
  intro fuel
  rw [RetrieveMessage, receivedData, hdata, waitForData_eq_none fun k _ => hstuck k]
  rfl

/-- A peer that sends nothing, with a clock that stays at the moment the timeout
was set. -/
def frozenClockPeer : SocketEnv := ⟨false, 0, fun _ => ⟨0, false, false⟩, []⟩

/-- Against `frozenClockPeer`, `RetrieveMessage` never returns. -/
theorem RetrieveMessage_stuck_clock_frozen :
    frozenClockPeer.hasReceivedData = false ∧
      (∀ k, (frozenClockPeer.polls k).now < frozenClockPeer.start + 8000 ∧
        (frozenClockPeer.polls k).shutdown = false ∧
        (frozenClockPeer.polls k).hasData = false) ∧
      ∀ fuel, RetrieveMessage (fun _ => true) frozenClockPeer .BLOCKING fuel = none :=
  have hstuck : ∀ k, (frozenClockPeer.polls k).now < frozenClockPeer.start + 8000 ∧
      (frozenClockPeer.polls k).shutdown = false ∧ (frozenClockPeer.polls k).hasData = false :=
    fun _ => ⟨show 0 < 8000 by decide, rfl, rfl⟩
  ⟨rfl, hstuck, RetrieveMessage_stuck_clock (fun _ => true) rfl hstuck⟩

end GrinPlusPlus.P2P
