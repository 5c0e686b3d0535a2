import GrinPlusPlus.P2P.MessageRetriever
import GrinPlusPlus.P2P.HandShake

/-!
# The handshake as the code performs it

`HandShake::PerformHandshake`, `PerformOutboundHandshake`,
`PerformInboundHandshake`, `TransmitHandMessage` and `TransmitShakeMessage`
(`HandShake.cpp`, lines 28-182).

The outbound handshake sends our `Hand` and reads one message with
`RetrieveMessage`: a `Shake` succeeds, and its version, capabilities, user agent
and total difficulty are copied to the peer; a `BanReason`, another message, or
none fails.  The inbound handshake reads one message: a `Hand` whose nonce is
not `NONCE`, from an address `IsConnected` does not know, is answered with a
`Shake` in the version `min(PROTOCOL_VERSION, theirs)`, and the handshake
succeeds when that is sent; anything else fails with no reply.
`PerformHandshake` turns a `DeserializationException` into a failure and lets
any other exception through.  The payloads' `Deserialize`,
`MessageSender::Send`, `GetTotalDifficulty` and `IsConnected` are not in the
sources and are part of the environment.

`PerformHandshake_INBOUND` and `PerformHandshake_OUTBOUND` say what each side
sends and records.  A node that dials itself gets no `Shake`; the inbound side
caps the version at `PROTOCOL_VERSION`, while the outbound side takes the
peer's `Shake` version as it is; and only the outbound side leaves the peer's
record untouched when it fails.  `PerformHandshake_refines` connects the code to
the interleaving model of `HandShake.lean`: the events of a handshake's thread
there are read off what the code did (inbound, whether the message it read is
a `Hand` whose nonce is not ours and whether its `Shake` went out; outbound,
whether its `Hand` went out and a `Shake` came back), and with them the thread
ends in `succeeded` exactly when the code returns true.
`PerformHandshake_terminates` bounds the wait.
-/

namespace GrinPlusPlus.P2P

/-! ## Messages and state -/

/-- Modelled from the spec: `P2P::PROTOCOL_VERSION`. -/
def PROTOCOL_VERSION : UInt32 := 2

/-- The fields of a `HandMessage` that `PerformInboundHandshake` reads. -/
structure HandMessage where
  version : UInt32
  capabilities : UInt32
  nonce : UInt64
  totalDifficulty : UInt64
  userAgent : String
  deriving DecidableEq, Repr

/-- The fields of a `ShakeMessage` that `PerformOutboundHandshake` reads. -/
structure ShakeMessage where
  version : UInt32
  capabilities : UInt32
  totalDifficulty : UInt64
  userAgent : String
  deriving DecidableEq, Repr

/-- A message the handshake gives `MessageSender::Send`: the fields that do not
come from the configuration (the capabilities, genesis hash, addresses and user
agent do), and the wire version of a `Shake`; a `Hand` is sent in `V2`. -/
inductive SentMessage where
  | hand (version : UInt32) (nonce : UInt64) (totalDifficulty : UInt64)
  | shake (version : UInt32) (totalDifficulty : UInt64) (protocolVersion : EProtocolVersion)
  deriving DecidableEq, Repr

/-- The fields of `ConnectedPeer` the handshake updates. -/
structure ConnectedPeer where
  version : UInt32
  capabilities : UInt32
  userAgent : String
  totalDifficulty : UInt64
  height : UInt64
  deriving DecidableEq, Repr

/-- What the rest of the node does during one handshake. -/
structure HandShakeEnv where
  /-- `MessageHeader::IsValid(m_config)`. -/
  IsValid : MessageHeader → Bool
  /-- The socket and the clock `RetrieveMessage` sees. -/
  socket : SocketEnv
  /-- `NONCE`, drawn once per process. -/
  NONCE : UInt64
  /-- `GetTotalDifficulty(EChainType::CONFIRMED)`. -/
  getTotalDifficulty : Except Exception UInt64
  /-- `MessageSender::Send`. -/
  Send : SentMessage → Bool
  /-- `ConnectionManager::IsConnected` of the peer's address. -/
  isConnected : Bool
  /-- `HandMessage::Deserialize` of a payload. -/
  deserializeHand : List UInt8 → Except Exception HandMessage
  /-- `ShakeMessage::Deserialize`. -/
  deserializeShake : List UInt8 → Except Exception ShakeMessage
  /-- `BanReasonMessage::Deserialize`. -/
  deserializeBanReason : List UInt8 → Except Exception Unit

/-- What a handshake leaves: `true`, `false` or the exception that escapes, the
peer's record, and the messages given to `MessageSender::Send`, in order. -/
structure HandShakeOutcome where
  result : Except Exception Bool
  peer : ConnectedPeer
  sent : List SentMessage

/-- The handshake returned true. -/
def HandShakeOutcome.succeeded (o : HandShakeOutcome) : Bool :=
  match o.result with
  | .ok b => b
  | .error _ => false

@[simp]
theorem HandShakeOutcome.succeeded_eq_true {o : HandShakeOutcome} :
    o.succeeded = true ↔ o.result = .ok true := by
  unfold HandShakeOutcome.succeeded
  split <;> simp_all

/-- `GetMessageType() == t`: the header's type byte is `t`'s id. -/
def MessageHeader.HasType (h : MessageHeader) (t : EMessageType) : Bool :=
  h.messageType.toNat == t.toCtorIdx

/-! ## The handshake -/

/-- `HandShake::TransmitHandMessage`: our `Hand`, and whether it was sent. -/
def TransmitHandMessage (env : HandShakeEnv) : Except Exception (SentMessage × Bool) := do
  let totalDifficulty ← env.getTotalDifficulty
  let handMessage := SentMessage.hand PROTOCOL_VERSION env.NONCE totalDifficulty
  return (handMessage, env.Send handMessage)

/-- `HandShake::TransmitShakeMessage`: our `Shake` in `protocolVersion`, and
whether it was sent. -/
def TransmitShakeMessage (env : HandShakeEnv) (protocolVersion : UInt32) :
    Except Exception (SentMessage × Bool) := do
  let totalDifficulty ← env.getTotalDifficulty
  let shakeMessage := SentMessage.shake protocolVersion totalDifficulty
    (if protocolVersion > 1 then .V2 else .V1)
  return (shakeMessage, env.Send shakeMessage)

/-- Lines 106-151, on what `RetrieveMessage` returned. -/
def inboundHandshake (env : HandShakeEnv) (peer : ConnectedPeer) (r : Retrieval) :
    HandShakeOutcome :=
  match r.result with
  | .error e => ⟨.error e, peer, []⟩
  | .ok none => ⟨.ok false, peer, []⟩
  | .ok (some f) =>
    if f.header.HasType .Hand then
      match env.deserializeHand f.payload with
      | .error e => ⟨.error e, peer, []⟩
      | .ok handMessage =>
        if handMessage.nonce ≠ env.NONCE ∧ env.isConnected = false then
          let version := min PROTOCOL_VERSION handMessage.version
          let peer' := { peer with
            capabilities := handMessage.capabilities, userAgent := handMessage.userAgent,
            totalDifficulty := handMessage.totalDifficulty, height := 0, version := version }
          match TransmitShakeMessage env version with
          | .error e => ⟨.error e, peer', []⟩
          | .ok (shakeMessage, sent) => ⟨.ok sent, peer', [shakeMessage]⟩
        else ⟨.ok false, peer, []⟩
    else ⟨.ok false, peer, []⟩

/-- `HandShake::PerformInboundHandshake`. -/
def PerformInboundHandshake (env : HandShakeEnv) (fuel : Nat) (peer : ConnectedPeer) :
    Option HandShakeOutcome :=
  (RetrieveMessage env.IsValid env.socket .BLOCKING fuel).map (inboundHandshake env peer)

/-- Lines 62-96, on what `RetrieveMessage` returned; the `Hand` already sent is
added by the caller. -/
def outboundHandshake (env : HandShakeEnv) (peer : ConnectedPeer) (r : Retrieval) :
    HandShakeOutcome :=
  match r.result with
  | .error e => ⟨.error e, peer, []⟩
  | .ok none => ⟨.ok false, peer, []⟩
  | .ok (some f) =>
    if f.header.HasType .Shake then
      match env.deserializeShake f.payload with
      | .error e => ⟨.error e, peer, []⟩
      | .ok shakeMessage =>
        ⟨.ok true, { peer with
          version := shakeMessage.version, capabilities := shakeMessage.capabilities,
          userAgent := shakeMessage.userAgent, totalDifficulty := shakeMessage.totalDifficulty,
          height := 0 }, []⟩
    else if f.header.HasType .BanReasonMsg then
      match env.deserializeBanReason f.payload with
      | .error e => ⟨.error e, peer, []⟩
      | .ok () => ⟨.ok false, peer, []⟩
    else ⟨.ok false, peer, []⟩

/-- `HandShake::PerformOutboundHandshake`. -/
def PerformOutboundHandshake (env : HandShakeEnv) (fuel : Nat) (peer : ConnectedPeer) :
    Option HandShakeOutcome :=
  match TransmitHandMessage env with
  | .error e => some ⟨.error e, peer, []⟩
  | .ok (handMessage, bHandMessageSent) =>
    if bHandMessageSent then
      (RetrieveMessage env.IsValid env.socket .BLOCKING fuel).map fun r =>
        ({ outboundHandshake env peer r with sent := [handMessage] } : HandShakeOutcome)
    else some ⟨.ok false, peer, [handMessage]⟩

/-- `PerformHandshake`'s `catch` clauses: a `DeserializationException` fails the
handshake.  (So does a `SocketException`, which no modelled call throws: `Send`
and `Receive` report a failure by their result.) -/
def catchHandshake : Except Exception Bool → Except Exception Bool
  | .error .DeserializationException => .ok false
  | r => r

/-- `HandShake::PerformHandshake`. -/
def PerformHandshake (env : HandShakeEnv) (fuel : Nat) (peer : ConnectedPeer)
    (direction : EDirection) : Option HandShakeOutcome :=
  (match direction with
    | .OUTBOUND => PerformOutboundHandshake env fuel peer
    | .INBOUND => PerformInboundHandshake env fuel peer).map
    fun (o : HandShakeOutcome) => { o with result := catchHandshake o.result }

/-! ## What each side sends and records -/

@[simp] theorem catchHandshake_eq_ok_true {r : Except Exception Bool} :
    catchHandshake r = .ok true ↔ r = .ok true := by
  unfold catchHandshake
  split <;> simp_all

/-- The inbound handshake answered the message `r` with a `Shake`: `r` is a
`Hand` whose nonce is not ours, from an address not connected; the peer's
version is recorded as `min(PROTOCOL_VERSION, theirs)`, one `Shake` is sent in
that version (in `V2` when it is above 1), and the handshake returns whether it
went out. -/
def AnswersHand (env : HandShakeEnv) (r : Retrieval) (o : HandShakeOutcome) : Prop :=
  ∃ f handMessage totalDifficulty, r.result = .ok (some f) ∧ f.header.HasType .Hand ∧
    env.deserializeHand f.payload = .ok handMessage ∧ handMessage.nonce ≠ env.NONCE ∧
    env.isConnected = false ∧ env.getTotalDifficulty = .ok totalDifficulty ∧
    o.peer.version = min PROTOCOL_VERSION handMessage.version ∧
    o.sent = [.shake o.peer.version totalDifficulty (if o.peer.version > 1 then .V2 else .V1)] ∧
    o.result = .ok (env.Send (.shake o.peer.version totalDifficulty
      (if o.peer.version > 1 then .V2 else .V1)))

/-- What the inbound handshake can do with a message: no reply and no success,
or it answers a `Hand`. -/
theorem inboundHandshake_cases (env : HandShakeEnv) (peer : ConnectedPeer) (r : Retrieval) :
    ((inboundHandshake env peer r).sent = [] ∧
        catchHandshake (inboundHandshake env peer r).result ≠ .ok true) ∨
      AnswersHand env r (inboundHandshake env peer r) := by
  unfold inboundHandshake
  split
  · simp
  · simp
  · rename_i f hf
    split_ifs with hhand
    · split
      · simp
      · rename_i handMessage hdes
        split_ifs with hforeign
        · unfold TransmitShakeMessage
          cases htd : env.getTotalDifficulty with
          | error e => simp [bind, Except.bind]
          | ok totalDifficulty =>
            exact .inr ⟨f, handMessage, totalDifficulty, hf, hhand, hdes, hforeign.1, hforeign.2,
              htd, rfl, rfl, rfl⟩
        · simp
    · simp

/-- The outbound handshake accepted the message `r`: it is a `Shake`, and the
peer's record takes its version, capabilities, user agent and total
difficulty, with height `0`. -/
def AcceptsShake (env : HandShakeEnv) (peer : ConnectedPeer) (r : Retrieval)
    (o : HandShakeOutcome) : Prop :=
  ∃ f shakeMessage, r.result = .ok (some f) ∧ f.header.HasType .Shake ∧
    env.deserializeShake f.payload = .ok shakeMessage ∧
    o.peer = { peer with
      version := shakeMessage.version, capabilities := shakeMessage.capabilities,
      userAgent := shakeMessage.userAgent, totalDifficulty := shakeMessage.totalDifficulty,
      height := 0 }

/-- What the outbound handshake can do with a message: succeed on a `Shake`,
or fail leaving the peer's record as it was. -/
theorem outboundHandshake_cases (env : HandShakeEnv) (peer : ConnectedPeer) (r : Retrieval) :
    ((outboundHandshake env peer r).result = .ok true ∧
        AcceptsShake env peer r (outboundHandshake env peer r)) ∨
      (catchHandshake (outboundHandshake env peer r).result ≠ .ok true ∧
        (outboundHandshake env peer r).peer = peer) := by
  unfold outboundHandshake
  split
  · simp
  · simp
  · rename_i f hf
    split_ifs with hshake hban
    · split
      · simp
      · rename_i shakeMessage hdes
        exact .inl ⟨rfl, f, shakeMessage, hf, hshake, hdes, rfl⟩
    · split <;> simp
    · simp

/-- `PerformHandshake`, inbound: the inbound handshake on what `RetrieveMessage`
returned, with `PerformHandshake`'s `catch`. -/
theorem PerformHandshake_INBOUND_eq (env : HandShakeEnv) (fuel : Nat) (peer : ConnectedPeer) :
    PerformHandshake env fuel peer .INBOUND =
      (RetrieveMessage env.IsValid env.socket .BLOCKING fuel).map fun r =>
        { inboundHandshake env peer r with
          result := catchHandshake (inboundHandshake env peer r).result } := by
  simp only [PerformHandshake, PerformInboundHandshake, Option.map_map]
  rfl

/-- **What the inbound handshake sends and records.**  Whenever it returns, it
has sent nothing and not succeeded, or the message it read is a `Hand` whose
nonce is not ours, from an address not connected, and it has recorded the
version `min(PROTOCOL_VERSION, theirs)`, sent one `Shake` in that version (in
`V2` when it is above 1), and returned whether that went out.  So a node that
dials itself gets no reply, and a `Shake` only ever answers a foreign `Hand`. -/
theorem PerformHandshake_INBOUND {env : HandShakeEnv} {fuel : Nat} {peer : ConnectedPeer}
    {o : HandShakeOutcome} (h : PerformHandshake env fuel peer .INBOUND = some o) :
    (o.sent = [] ∧ o.result ≠ .ok true) ∨
      ∃ r, RetrieveMessage env.IsValid env.socket .BLOCKING fuel = some r ∧ AnswersHand env r o := by
  rw [PerformHandshake_INBOUND_eq] at h
  obtain ⟨r, hr, rfl⟩ := Option.map_eq_some'.1 h
  rcases inboundHandshake_cases env peer r with hnone | ⟨f, m, td, h1, h2, h3, h4, h5, h6, h7, h8, h9⟩
  · exact .inl hnone
  · exact .inr ⟨r, hr, f, m, td, h1, h2, h3, h4, h5, h6, h7, h8, by simp only [h9]; rfl⟩

/-- **What the outbound handshake sends and records.**  Whenever it returns, it
has sent our `Hand` (our version and nonce, in `V2`), read a `Shake` and
recorded the peer's version, capabilities, user agent and total difficulty as
the `Shake` gives them, and succeeded; or it has failed, having sent nothing or
our `Hand` only, and left the peer's record as it was.  Unlike the inbound side,
it does not cap the peer's version at `PROTOCOL_VERSION`. -/
theorem PerformHandshake_OUTBOUND {env : HandShakeEnv} {fuel : Nat} {peer : ConnectedPeer}
    {o : HandShakeOutcome} (h : PerformHandshake env fuel peer .OUTBOUND = some o) :
    (o.result = .ok true ∧ ∃ totalDifficulty r, env.getTotalDifficulty = .ok totalDifficulty ∧
        o.sent = [.hand PROTOCOL_VERSION env.NONCE totalDifficulty] ∧
        env.Send (.hand PROTOCOL_VERSION env.NONCE totalDifficulty) = true ∧
        RetrieveMessage env.IsValid env.socket .BLOCKING fuel = some r ∧ AcceptsShake env peer r o) ∨
      (o.result ≠ .ok true ∧ o.peer = peer ∧
        (o.sent = [] ∨ ∃ totalDifficulty, env.getTotalDifficulty = .ok totalDifficulty ∧
          o.sent = [.hand PROTOCOL_VERSION env.NONCE totalDifficulty])) := by
  simp only [PerformHandshake, PerformOutboundHandshake, TransmitHandMessage] at h
  cases htd : env.getTotalDifficulty with
  | error e =>
    simp only [htd, bind, Except.bind, Option.map_some', Option.some.injEq] at h
    subst h
    exact .inr ⟨by simp, rfl, .inl rfl⟩
  | ok totalDifficulty =>
    simp only [htd, bind, Except.bind, pure, Except.pure] at h
    cases hs : env.Send (.hand PROTOCOL_VERSION env.NONCE totalDifficulty)
    · simp only [hs, Bool.false_eq_true, if_false, Option.map_some', Option.some.injEq] at h
      subst h
      exact .inr ⟨by simp, rfl, .inr ⟨totalDifficulty, rfl, rfl⟩⟩
    · simp only [hs, ↓reduceIte, Option.map_map] at h
      obtain ⟨r, hr, rfl⟩ := Option.map_eq_some'.1 h
      rcases outboundHandshake_cases env peer r with ⟨hok, hacc⟩ | ⟨hfail, hpeer⟩
      · exact .inl ⟨by simp [hok], totalDifficulty, r, rfl, rfl, hs, hr, hacc⟩
      · exact .inr ⟨hfail, hpeer, .inr ⟨totalDifficulty, rfl, rfl⟩⟩

/-! ## The code refines the interleaving model -/

/-- Inbound: the message read is a `Hand` whose nonce is not ours. -/
def ReadsForeignHand (env : HandShakeEnv) (r : Retrieval) : Bool :=
  match r.result with
  | .ok (some f) =>
    f.header.HasType .Hand &&
      match env.deserializeHand f.payload with
      | .ok handMessage => handMessage.nonce != env.NONCE
      | .error _ => false
  | _ => false

/-- Outbound: the message read is a `Shake`. -/
def ReadsShake (env : HandShakeEnv) (r : Retrieval) : Bool :=
  match r.result with
  | .ok (some f) =>
    f.header.HasType .Shake &&
      match env.deserializeShake f.payload with
      | .ok _ => true
      | .error _ => false
  | _ => false

/-- The inbound handshake succeeds exactly when the message it read is a foreign
`Hand`, the address is not connected and its `Shake` went out. -/
theorem inboundHandshake_succeeded (env : HandShakeEnv) (peer : ConnectedPeer) (r : Retrieval) :
    ({ inboundHandshake env peer r with
        result := catchHandshake (inboundHandshake env peer r).result } :
        HandShakeOutcome).succeeded =
      (ReadsForeignHand env r && !env.isConnected &&
        (inboundHandshake env peer r).sent.any env.Send) := by
  rcases inboundHandshake_cases env peer r with ⟨hsent, hfail⟩ |
    ⟨f, m, td, hr, hhand, hdes, hnonce, hfree, -, -, hsent, hres⟩
  · rw [hsent, List.any_nil, Bool.and_false, Bool.eq_false_iff]
    simpa using hfail
  · simp only [HandShakeOutcome.succeeded, hres, catchHandshake, ReadsForeignHand, hr, hhand, hdes,
      hfree, hsent, List.any_cons, List.any_nil, Bool.or_false, Bool.true_and, Bool.not_false,
      bne_iff_ne.mpr hnonce]

/-- The outbound handshake, past its `Hand`, succeeds exactly when the message it
read is a `Shake`. -/
theorem outboundHandshake_succeeds_iff (env : HandShakeEnv) (peer : ConnectedPeer)
    (r : Retrieval) :
    catchHandshake (outboundHandshake env peer r).result = .ok true ↔
      ReadsShake env r = true := by
  unfold outboundHandshake ReadsShake
  split
  · simp_all
  · simp_all
  · rename_i f hf
    simp only [hf]
    split_ifs with hshake hban
    · split <;> simp_all
    · split <;> simp_all
    · simp_all

/-- The outbound handshake succeeds exactly when its `Hand` went out and the
message it read is a `Shake`. -/
theorem PerformHandshake_OUTBOUND_succeeded {env : HandShakeEnv} {fuel : Nat}
    {peer : ConnectedPeer} {o : HandShakeOutcome}
    (h : PerformHandshake env fuel peer .OUTBOUND = some o) :
    o.succeeded = true ↔ (∃ m ∈ o.sent, env.Send m = true) ∧
      ∃ r, RetrieveMessage env.IsValid env.socket .BLOCKING fuel = some r ∧
        ReadsShake env r = true := by
  simp only [PerformHandshake, PerformOutboundHandshake, TransmitHandMessage] at h
  cases htd : env.getTotalDifficulty with
  | error e =>
    simp only [htd, bind, Except.bind, Option.map_some', Option.some.injEq] at h
    subst h
    simp
  | ok totalDifficulty =>
    simp only [htd, bind, Except.bind, pure, Except.pure] at h
    cases hs : env.Send (.hand PROTOCOL_VERSION env.NONCE totalDifficulty)
    · simp only [hs, Bool.false_eq_true, if_false, Option.map_some', Option.some.injEq] at h
      subst h
      simp [HandShakeOutcome.succeeded, catchHandshake, hs]
    · simp only [hs, ↓reduceIte, Option.map_map] at h
      obtain ⟨r, hr, rfl⟩ := Option.map_eq_some'.1 h
      simp only [Function.comp, HandShakeOutcome.succeeded_eq_true,
        outboundHandshake_succeeds_iff, List.mem_singleton, exists_eq_left, hs, true_and, hr,
        Option.some.injEq, exists_eq_left']

/-- The events of thread `i`'s handshake in the interleaving model: inbound, it
reads a `Hand` and sends a `Shake`; outbound, it exchanges `Hand` and `Shake`. -/
def handshakeEvents (i : Nat) (handFlag shakeFlag : Bool) : EDirection → List Event
  | .INBOUND => [.retrieveHand i handFlag, .transmitShake i shakeFlag]
  | .OUTBOUND => [.exchange i shakeFlag]

/-- An inbound thread's two events take it to `succeeded` exactly when its
`Hand` is foreign, its address is not connected and its `Shake` is sent. -/
theorem run_handshakeEvents_INBOUND {cs : List Connection} {i : Nat} {c : Connection}
    (hc : cs[i]? = some c) (hin : c.direction = .INBOUND) (hhs : c.phase = .handshaking)
    (handFlag shakeFlag : Bool) :
    (run cs (handshakeEvents i handFlag shakeFlag .INBOUND))[i]? =
      some { c with phase :=
        if handFlag && !IsConnected cs c.ipAddress && shakeFlag then .succeeded else .failed } := by
  have hi : i < cs.length := (List.getElem?_eq_some_iff.mp hc).1
  set q : Phase := if handFlag && !IsConnected cs c.ipAddress then .shaking else .failed with hq
  have h1 : step cs (.retrieveHand i handFlag) = cs.set i { c with phase := q } :=
    step_of_next hc (by simp [Connection.next, hin, hhs, hq])
  have hc1 : (cs.set i { c with phase := q })[i]? = some { c with phase := q } :=
    List.getElem?_set_self hi
  simp only [handshakeEvents, run, List.foldl_cons, List.foldl_nil, h1]
  cases hpass : (handFlag && !IsConnected cs c.ipAddress)
  · -- the `Hand` failed the test, and the `Shake` is not sent
    have hq' : q = .failed := by rw [hq, hpass]; rfl
    rw [step_of_next_none hc1 (by simp [Connection.next, hq']), hc1, hq', Bool.false_and]
    rfl
  · -- the `Hand` passed, and the thread ends as its `Shake` goes
    have hq' : q = .shaking := by rw [hq, hpass]; rfl
    have h2 := @step_of_next _ _ (.transmitShake i shakeFlag) _ hc1
      (show Connection.next _ { c with phase := q } _ =
        some (if shakeFlag then .succeeded else .failed) by simp [Connection.next, hq'])
    dsimp only [Event.thread] at h2
    rw [h2, List.getElem?_set_self (by simpa using hi), Bool.true_and]

/-- An outbound thread's exchange takes it to `succeeded` exactly when a `Shake`
comes back. -/
theorem run_handshakeEvents_OUTBOUND {cs : List Connection} {i : Nat} {c : Connection}
    (hc : cs[i]? = some c) (hout : c.direction = .OUTBOUND) (hhs : c.phase = .handshaking)
    (handFlag shakeFlag : Bool) :
    (run cs (handshakeEvents i handFlag shakeFlag .OUTBOUND))[i]? =
      some { c with phase := if shakeFlag then .succeeded else .failed } := by
  have h1 := @step_of_next cs c (.exchange i shakeFlag) (if shakeFlag then .succeeded else .failed)
    hc (by simp [Connection.next, hout, hhs])
  dsimp only [Event.thread] at h1
  simp only [handshakeEvents, run, List.foldl_cons, List.foldl_nil, h1,
    List.getElem?_set_self (List.getElem?_eq_some_iff.mp hc).1]

/-- **The code's handshake refines the interleaving model.**  Take a thread `i`
of the model that is handshaking, and an `IsConnected` that answers as the
model's registered connections do.  Read the thread's events off what
`PerformHandshake` does in its direction: inbound, whether the message it read
is a `Hand` whose nonce is not ours, and whether its `Shake` went out; outbound,
whether its `Hand` went out and the message it read is a `Shake`.  With those
events the thread ends in `succeeded` when the code returns true, and in
`failed` when the code returns false or throws. -/
theorem PerformHandshake_refines {env : HandShakeEnv} {fuel : Nat} {peer : ConnectedPeer}
    {o : HandShakeOutcome} {cs : List Connection} {i : Nat} {c : Connection}
    (hc : cs[i]? = some c) (hhs : c.phase = .handshaking)
    (hconn : env.isConnected = IsConnected cs c.ipAddress)
    (h : PerformHandshake env fuel peer c.direction = some o) :
    ∃ handFlag shakeFlag,
      (handFlag = true ↔ c.direction = .INBOUND ∧
        ∃ r, RetrieveMessage env.IsValid env.socket .BLOCKING fuel = some r ∧
          ReadsForeignHand env r = true) ∧
      (shakeFlag = true ↔ (∃ m ∈ o.sent, env.Send m = true) ∧
        (c.direction = .OUTBOUND →
          ∃ r, RetrieveMessage env.IsValid env.socket .BLOCKING fuel = some r ∧
            ReadsShake env r = true)) ∧
      (run cs (handshakeEvents i handFlag shakeFlag c.direction))[i]? =
        some { c with phase := if o.succeeded then .succeeded else .failed } := by
  obtain ⟨ip, direction, phase⟩ := c
  cases direction with
  | INBOUND =>
    rw [PerformHandshake_INBOUND_eq] at h
    obtain ⟨r, hr, rfl⟩ := Option.map_eq_some'.1 h
    refine ⟨ReadsForeignHand env r, (inboundHandshake env peer r).sent.any env.Send, ?_, ?_, ?_⟩
    · simp only [hr, Option.some.injEq, exists_eq_left', true_and]
    · simp [List.any_eq_true]
    · rw [run_handshakeEvents_INBOUND hc rfl hhs, ← hconn, inboundHandshake_succeeded]
  | OUTBOUND =>
    refine ⟨false, o.succeeded, by simp, ?_, run_handshakeEvents_OUTBOUND hc rfl hhs false _⟩
    simpa using PerformHandshake_OUTBOUND_succeeded h

/-- **The handshake returns within 1601 checks.**  When every 5 ms sleep lets
the clock advance by at least 5 ms, `PerformHandshake` returns, in either
direction, within 1601 passes of `RetrieveMessage`'s wait loop, and more passes
change nothing. -/
theorem PerformHandshake_terminates {env : HandShakeEnv} (peer : ConnectedPeer)
    (direction : EDirection) (hclock : ∀ k, env.socket.start + 5 * k ≤ (env.socket.polls k).now) :
    ∃ o, ∀ n, PerformHandshake env (1601 + n) peer direction = some o := by
  obtain ⟨r, hr⟩ := RetrieveMessage_stable env.IsValid .BLOCKING hclock
  cases direction with
  | INBOUND => exact ⟨_, fun n => by rw [PerformHandshake_INBOUND_eq, hr]; rfl⟩
  | OUTBOUND =>
    simp only [PerformHandshake, PerformOutboundHandshake, hr]
    cases TransmitHandMessage env with
    | error e => exact ⟨_, fun _ => rfl⟩
    | ok p =>
      obtain ⟨handMessage, _ | _⟩ := p
      all_goals exact ⟨_, fun _ => rfl⟩

/-! ## A peer that sends a `Hand` -/

/-- A peer whose first message is a `Hand` of version 1 and nonce 1, to a node
whose nonce is 0, not yet connected to it, and whose clock advances 5 ms a
pass. -/
def handPeer : HandShakeEnv where
  IsValid _ := true
  socket := ⟨true, 0, fun k => ⟨5 * k, false, false⟩,
    MessageHeader.codec.write ⟨⟨[0x1E, 0xC5], rfl⟩, 1, 0⟩⟩
  NONCE := 0
  getTotalDifficulty := .ok 0
  Send _ := true
  isConnected := false
  deserializeHand _ := .ok ⟨1, 1, 1, 0, ""⟩
  deserializeShake _ := .error .DeserializationException
  deserializeBanReason _ := .ok ()

/-- Inbound, `handPeer` is answered with a `Shake` in version 1, sent in `V1`. -/
theorem PerformHandshake_INBOUND_handPeer :
    PerformHandshake handPeer 0 ⟨2, 0, "", 0, 0⟩ .INBOUND =
        some ⟨.ok true, ⟨1, 1, "", 0, 0⟩, [.shake 1 0 .V1]⟩ ∧
      (((([.shake 1 0 .V1] : List SentMessage) = [] ∧
          (.ok true : Except Exception Bool) ≠ .ok true)) ∨
        ∃ r, RetrieveMessage handPeer.IsValid handPeer.socket .BLOCKING 0 = some r ∧
          AnswersHand handPeer r ⟨.ok true, ⟨1, 1, "", 0, 0⟩, [.shake 1 0 .V1]⟩) :=
  have h : PerformHandshake handPeer 0 ⟨2, 0, "", 0, 0⟩ .INBOUND =
      some ⟨.ok true, ⟨1, 1, "", 0, 0⟩, [.shake 1 0 .V1]⟩ := rfl
  ⟨h, PerformHandshake_INBOUND h⟩

/-- Outbound, `handPeer` answers our `Hand` with a `Hand`, and the handshake
fails. -/
theorem PerformHandshake_OUTBOUND_handPeer :
    PerformHandshake handPeer 0 ⟨2, 0, "", 0, 0⟩ .OUTBOUND =
        some ⟨.ok false, ⟨2, 0, "", 0, 0⟩, [.hand 2 0 0]⟩ ∧
      (((.ok false : Except Exception Bool) = .ok true ∧ ∃ totalDifficulty r,
          handPeer.getTotalDifficulty = .ok totalDifficulty ∧
          ([.hand 2 0 0] : List SentMessage) = [.hand PROTOCOL_VERSION handPeer.NONCE totalDifficulty] ∧
          handPeer.Send (.hand PROTOCOL_VERSION handPeer.NONCE totalDifficulty) = true ∧
          RetrieveMessage handPeer.IsValid handPeer.socket .BLOCKING 0 = some r ∧
          AcceptsShake handPeer ⟨2, 0, "", 0, 0⟩ r ⟨.ok false, ⟨2, 0, "", 0, 0⟩, [.hand 2 0 0]⟩) ∨
        ((.ok false : Except Exception Bool) ≠ .ok true ∧
          (⟨2, 0, "", 0, 0⟩ : ConnectedPeer) = ⟨2, 0, "", 0, 0⟩ ∧
          (([.hand 2 0 0] : List SentMessage) = [] ∨ ∃ totalDifficulty,
            handPeer.getTotalDifficulty = .ok totalDifficulty ∧
            ([.hand 2 0 0] : List SentMessage) =
              [.hand PROTOCOL_VERSION handPeer.NONCE totalDifficulty]))) :=
  have h : PerformHandshake handPeer 0 ⟨2, 0, "", 0, 0⟩ .OUTBOUND =
      some ⟨.ok false, ⟨2, 0, "", 0, 0⟩, [.hand 2 0 0]⟩ := rfl
  ⟨h, PerformHandshake_OUTBOUND h⟩

/-- `handPeer`'s inbound handshake, as the only thread of the model: its `Hand`
is foreign and its `Shake` goes out. -/
theorem PerformHandshake_refines_handPeer :
    ([⟨1, .INBOUND, .handshaking⟩] : List Connection)[0]? = some ⟨1, .INBOUND, .handshaking⟩ ∧
      (⟨1, .INBOUND, .handshaking⟩ : Connection).phase = .handshaking ∧
      handPeer.isConnected = IsConnected [⟨1, .INBOUND, .handshaking⟩] 1 ∧
      PerformHandshake handPeer 0 ⟨2, 0, "", 0, 0⟩ .INBOUND =
        some ⟨.ok true, ⟨1, 1, "", 0, 0⟩, [.shake 1 0 .V1]⟩ ∧
      ∃ handFlag shakeFlag,
        (handFlag = true ↔ EDirection.INBOUND = .INBOUND ∧
          ∃ r, RetrieveMessage handPeer.IsValid handPeer.socket .BLOCKING 0 = some r ∧
            ReadsForeignHand handPeer r = true) ∧
        (shakeFlag = true ↔ (∃ m ∈ [SentMessage.shake 1 0 .V1], handPeer.Send m = true) ∧
          (EDirection.INBOUND = .OUTBOUND →
            ∃ r, RetrieveMessage handPeer.IsValid handPeer.socket .BLOCKING 0 = some r ∧
              ReadsShake handPeer r = true)) ∧
        (run [⟨1, .INBOUND, .handshaking⟩]
            (handshakeEvents 0 handFlag shakeFlag .INBOUND))[0]? = some ⟨1, .INBOUND, .succeeded⟩ :=
  have hc : ([⟨1, .INBOUND, .handshaking⟩] : List Connection)[0]? =
      some ⟨1, .INBOUND, .handshaking⟩ := rfl
  have hconn : handPeer.isConnected = IsConnected [⟨1, .INBOUND, .handshaking⟩] 1 := by decide
  have h : PerformHandshake handPeer 0 ⟨2, 0, "", 0, 0⟩ .INBOUND =
      some ⟨.ok true, ⟨1, 1, "", 0, 0⟩, [.shake 1 0 .V1]⟩ := rfl
  have hrun := PerformHandshake_refines hc rfl hconn h
  ⟨hc, rfl, hconn, h, hrun⟩

/-- `handPeer`'s clock advances 5 ms a pass, so both handshakes return. -/
theorem PerformHandshake_terminates_handPeer :
    (∀ k, handPeer.socket.start + 5 * k ≤ (handPeer.socket.polls k).now) ∧
      ∃ o, ∀ n, PerformHandshake handPeer (1601 + n) ⟨2, 0, "", 0, 0⟩ .INBOUND = some o :=
  ⟨fun _ => Nat.le_of_eq (Nat.zero_add _),
    PerformHandshake_terminates _ _ fun _ => Nat.le_of_eq (Nat.zero_add _)⟩

end GrinPlusPlus.P2P
