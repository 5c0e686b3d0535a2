import Mathlib.Data.List.Pairwise
import Mathlib.Data.List.Basic

/-!
# Serving a TxHashSet snapshot

`MessageProcessor::SendTxHashSet` (`MessageProcessor.cpp`, lines 408-498).

A peer may ask for a snapshot of the UTXO and kernel sets at most once in two
hours: a request whose peer stamp `GetLastTxHashSetRequest()` is later than
`now - 2h` is answered `BAN_PEER`; any other request moves the stamp to `now`
(`UpdateLastTxHashSetRequest`) and goes on to the header lookup, the snapshot,
the `TxHashSetArchiveMessage` announcing the file's size, and the stream.  Over
any run of requests of one peer the rate check is the spec's window
(`runTxHashSet_map_passed`): a request passes exactly when it comes at least two
hours after the last request that passed, two requests that call
`SnapshotTxHashSet` are two hours apart, and a request that passes is banned
only when its stream is cut (`runTxHashSet_rate_limited`).

The snapshot is streamed by `while (totalBytesRead < fileSize)`, reading
`BUFFER_SIZE` bytes at a time, where `fileSize` comes from a separate
`FileUtil::GetFileSize` call.  With every send succeeding, the loop ends exactly
when the file holds at least `fileSize` bytes, after `⌈fileSize / BUFFER_SIZE⌉`
iterations, having sent whole buffers: `c.take (k * BUFFER_SIZE)`
(`streamLoop_sends_whole_buffers`).  So a shorter file makes it spin forever on
empty reads, and a longer one sends more than was announced.  A send that fails
or a shutdown cuts the stream with `BAN_PEER` (`SendTxHashSet_eq_ban_iff`),
where every other failed send of `ProcessMessageInternal` is `SOCKET_FAILURE`.
-/

namespace GrinPlusPlus.P2P

/-- `MessageProcessor::EStatus`. -/
inductive EStatus where
  | SUCCESS
  | BAN_PEER
  | SOCKET_FAILURE
  | UNKNOWN_ERROR
  | RESOURCE_NOT_FOUND
  | SYNCING
  | UNKNOWN_MESSAGE
  deriving DecidableEq, Repr

/-- The exceptions `ProcessMessage` tells apart; `other` is any other
`std::exception` (a `SocketException`, a `FileException`, ...). -/
inductive Exception where
  | BadDataException
  | BlockChainException
  | DeserializationException
  | other
  deriving DecidableEq, Repr

/-- `EProtocolVersion`, the wire version `MessageSender::Send` writes in. -/
inductive EProtocolVersion where
  | V1
  | V2
  deriving DecidableEq, Repr

/-- `BUFFER_SIZE`: the snapshot is streamed in chunks of 256 KiB. -/
def BUFFER_SIZE : Nat := 256 * 1024

/-- The part of `Peer` that `SendTxHashSet` reads and writes: the time, in
seconds, of the last TxHashSet request that passed the rate check. -/
structure Peer where
  lastTxHashSetRequest : Int
  deriving DecidableEq, Repr

/-- Modelled from the spec: `Peer::UpdateLastTxHashSetRequest` stamps the peer
with the current time. -/
def Peer.UpdateLastTxHashSetRequest (_peer : Peer) (now : Int) : Peer :=
  ⟨now⟩

/-- `maxTxHashSetRequest`: `now - std::chrono::hours(2)`, as a `time_t`. -/
def maxTxHashSetRequest (now : Int) : Int :=
  now - 2 * 60 * 60

/-! ## The streaming loop -/

/-- How the streaming loop ended: the condition failed (`done`), or a send failed
or a shutdown was requested (`aborted`, "Transmission ended abruptly").  Each
carries the bytes handed to `socket.Send` and the number of iterations. -/
inductive StreamEnd where
  | done (sent : List UInt8) (iterations : Nat)
  | aborted (sent : List UInt8) (iterations : Nat)
  deriving DecidableEq, Repr

/-- The status `SendTxHashSet` returns after the loop. -/
def StreamEnd.status : StreamEnd → Except Exception EStatus
  | .done .. => .ok .SUCCESS
  | .aborted .. => .ok .BAN_PEER

/-- `while (totalBytesRead < fileSize)`, testing its condition at most `fuel`
times (`none`: out of fuel).  `file` is the rest of the snapshot from the stream
position; iteration `i` reads up to `BUFFER_SIZE` bytes (`gcount`), sends them,
and stops if `sendOk i` fails or `shutdown i` holds. -/
def streamLoop (fileSize : Nat) (sendOk shutdown : Nat → Bool) :
    (fuel i : Nat) → (file : List UInt8) → (totalBytesRead : Nat) → (sent : List UInt8) →
      Option StreamEnd
  | 0, _, _, _, _ => none
  | fuel + 1, i, file, totalBytesRead, sent =>
    if totalBytesRead < fileSize then
      let bytesToSend := file.take BUFFER_SIZE
      if !sendOk i || shutdown i then some (.aborted (sent ++ bytesToSend) (i + 1))
      else
        streamLoop fileSize sendOk shutdown fuel (i + 1) (file.drop BUFFER_SIZE)
          (totalBytesRead + bytesToSend.length) (sent ++ bytesToSend)
    else some (.done sent i)

/-- From stream position `n` of `c`, with every send succeeding, one test of the
condition either stops with `c.take n` sent or moves to position
`n + BUFFER_SIZE`. -/
theorem streamLoop_at (F fuel i n : Nat) (c : List UInt8) :
    streamLoop F (fun _ => true) (fun _ => false) (fuel + 1) i (c.drop n) (c.take n).length
        (c.take n) =
      if (c.take n).length < F then
        streamLoop F (fun _ => true) (fun _ => false) fuel (i + 1) (c.drop (n + BUFFER_SIZE))
          (c.take (n + BUFFER_SIZE)).length (c.take (n + BUFFER_SIZE))
      else some (.done (c.take n) i) := by
  simp only [streamLoop, Bool.not_true, Bool.or_false, Bool.false_eq_true, ite_false,
    List.drop_drop, ← List.length_append, ← List.take_add]

/-- With every send succeeding, the loop stops after the first `k` such that the
prefix `c.take (n + k * BUFFER_SIZE)` reaches `F` bytes. -/
theorem streamLoop_done (F : Nat) (c : List UInt8) (k : Nat) :
    ∀ n i fuel, (∀ m < k, (c.take (n + m * BUFFER_SIZE)).length < F) →
      F ≤ (c.take (n + k * BUFFER_SIZE)).length → k < fuel →
      streamLoop F (fun _ => true) (fun _ => false) fuel i (c.drop n) (c.take n).length
          (c.take n) =
        some (.done (c.take (n + k * BUFFER_SIZE)) (i + k)) := by
  induction k with
  | zero =>
    intro n i fuel _ hF hfuel
    obtain ⟨fuel, rfl⟩ : ∃ f, fuel = f + 1 := ⟨fuel - 1, by omega⟩
    simp only [Nat.zero_mul, Nat.add_zero] at hF ⊢
    rw [streamLoop_at, if_neg (by omega)]
  | succ k ih =>
    intro n i fuel hlt hF hfuel
    obtain ⟨fuel, rfl⟩ : ∃ f, fuel = f + 1 := ⟨fuel - 1, by omega⟩
    have hshift : ∀ m, n + BUFFER_SIZE + m * BUFFER_SIZE = n + (m + 1) * BUFFER_SIZE :=
      fun m => by rw [Nat.succ_mul]; omega
    have h0 := hlt 0 (Nat.succ_pos k)
    rw [Nat.zero_mul, Nat.add_zero] at h0
    rw [streamLoop_at, if_pos h0, ih (n + BUFFER_SIZE) (i + 1) fuel
      (fun m hm => by rw [hshift]; exact hlt (m + 1) (by omega)) (by rw [hshift]; exact hF)
      (by omega), hshift, Nat.add_right_comm]
    rfl

/-- If no prefix ever reaches `F` bytes, the loop never stops. -/
theorem streamLoop_spins (F : Nat) (c : List UInt8) (hshort : c.length < F) :
    ∀ fuel n i, streamLoop F (fun _ => true) (fun _ => false) fuel i (c.drop n)
      (c.take n).length (c.take n) = none := by
  intro fuel
  induction fuel with
  | zero => intro n i; rfl
  | succ fuel ih =>
    intro n i
    have : (c.take n).length < F := by simp only [List.length_take]; omega
    rw [streamLoop_at, if_pos this, ih]

/-- **Streaming with every send succeeding.**  The loop ends exactly when the
file holds at least `F` bytes: then after `k = ⌈F / BUFFER_SIZE⌉` iterations,
having sent `c.take (k * BUFFER_SIZE)`; otherwise never. -/
theorem streamLoop_sends_whole_buffers (c : List UInt8) (F : Nat) :
    (F ≤ c.length → ∀ fuel, (F + BUFFER_SIZE - 1) / BUFFER_SIZE < fuel →
      streamLoop F (fun _ => true) (fun _ => false) fuel 0 c 0 [] =
        some (.done (c.take ((F + BUFFER_SIZE - 1) / BUFFER_SIZE * BUFFER_SIZE))
          ((F + BUFFER_SIZE - 1) / BUFFER_SIZE))) ∧
    (c.length < F → ∀ fuel, streamLoop F (fun _ => true) (fun _ => false) fuel 0 c 0 [] = none) := by
  refine ⟨fun hlong fuel hfuel => ?_, fun hshort fuel => streamLoop_spins F c hshort fuel 0 0⟩
  have := streamLoop_done F c ((F + BUFFER_SIZE - 1) / BUFFER_SIZE) 0 0 fuel
    (fun m hm => by simp only [List.length_take, BUFFER_SIZE] at hm ⊢; omega)
    (by simp only [List.length_take, BUFFER_SIZE]; omega) hfuel
  simpa only [Nat.zero_add] using this

/-! ## The request -/

/-- What `SendTxHashSet` gets from the chain, the file system, the socket and the
connected peer. -/
structure TxHashSetEnv where
  /-- `GetBlockHeaderByHash`: whether the requested header is known. -/
  header : Except Exception Bool
  /-- `SnapshotTxHashSet`. -/
  snapshot : Except Exception Unit
  /-- `file.is_open()`. -/
  isOpen : Bool
  /-- `FileUtil::GetFileSize`. -/
  fileSize : Except Exception Nat
  /-- The bytes of the snapshot file. -/
  content : List UInt8
  /-- `socket.Send` in each iteration of the stream. -/
  sendOk : Nat → Bool
  /-- `ShutdownManagerAPI::WasShutdownRequested()` in each iteration. -/
  shutdown : Nat → Bool
  /-- `peer.GetProtocolVersion()`. -/
  protocolVersion : UInt32

/-- The fields of the `TxHashSetArchiveMessage` that do not come from the header
(its hash and height do): the size it announces. -/
structure TxHashSetArchiveMessage where
  zippedSize : Nat
  deriving DecidableEq, Repr

/-- What `SendTxHashSet` leaves: the peer's stamp, whether it called
`SnapshotTxHashSet`, the archive message it gave `MessageSender::Send` and the
version it was sent in (the result of that send is ignored), and the status or
the exception that escapes (`none`: the stream has not ended). -/
structure TxHashSetOutcome where
  peer : Peer
  snapshot : Bool
  archive : Option (TxHashSetArchiveMessage × EProtocolVersion)
  status : Option (Except Exception EStatus)

/-- `MessageProcessor::SendTxHashSet`, with `fuel` for the stream.
`catch (std::exception&)` turns a failed snapshot into `UNKNOWN_ERROR`;
`catch (...)` rethrows what `GetFileSize` throws. -/
def SendTxHashSet (env : TxHashSetEnv) (fuel : Nat) (peer : Peer) (now : Int) :
    TxHashSetOutcome :=
  if peer.lastTxHashSetRequest > maxTxHashSetRequest now then
    ⟨peer, false, none, some (.ok .BAN_PEER)⟩
  else
    let peer := peer.UpdateLastTxHashSetRequest now
    match env.header with
    | .error e => ⟨peer, false, none, some (.error e)⟩
    | .ok false => ⟨peer, false, none, some (.ok .UNKNOWN_ERROR)⟩
    | .ok true =>
      match env.snapshot, env.isOpen, env.fileSize with
      | .error _, _, _ => ⟨peer, true, none, some (.ok .UNKNOWN_ERROR)⟩
      | .ok (), false, _ => ⟨peer, true, none, some (.ok .UNKNOWN_ERROR)⟩
      | .ok (), true, .error e => ⟨peer, true, none, some (.error e)⟩
      | .ok (), true, .ok fileSize =>
        ⟨peer, true, some (⟨fileSize⟩, if env.protocolVersion > 1 then .V2 else .V1),
          (streamLoop fileSize env.sendOk env.shutdown fuel 0 env.content 0 []).map
            StreamEnd.status⟩

/-- The rate check alone decides the peer's stamp afterwards. -/
theorem SendTxHashSet_peer (env : TxHashSetEnv) (fuel : Nat) (peer : Peer) (now : Int) :
    (SendTxHashSet env fuel peer now).peer =
      if peer.lastTxHashSetRequest > maxTxHashSetRequest now then peer else ⟨now⟩ := by
  unfold SendTxHashSet
  split
  · rfl
  · split <;> (try split) <;> rfl

/-- A request refused by the rate check is answered `BAN_PEER`, and goes no further. -/
theorem SendTxHashSet_refused (env : TxHashSetEnv) (fuel : Nat) (peer : Peer) (now : Int)
    (h : peer.lastTxHashSetRequest > maxTxHashSetRequest now) :
    SendTxHashSet env fuel peer now = ⟨peer, false, none, some (.ok .BAN_PEER)⟩ :=
  if_pos h

/-- `SnapshotTxHashSet` is called only past the rate check, for a header the
chain knows. -/
theorem SendTxHashSet_snapshot {env : TxHashSetEnv} {fuel : Nat} {peer : Peer} {now : Int}
    (h : (SendTxHashSet env fuel peer now).snapshot = true) :
    ¬peer.lastTxHashSetRequest > maxTxHashSetRequest now ∧ env.header = .ok true := by
  unfold SendTxHashSet at h
  split at h
  · cases h
  · refine ⟨‹_›, ?_⟩
    split at h
    · cases h
    · cases h
    · assumption

/-- The stream was reached and ended with "Transmission ended abruptly": a send
failed or a shutdown was requested. -/
def StreamCut (env : TxHashSetEnv) (fuel : Nat) : Prop :=
  env.header = .ok true ∧ env.snapshot = .ok () ∧ env.isOpen = true ∧
    ∃ fileSize sent n, env.fileSize = .ok fileSize ∧
      streamLoop fileSize env.sendOk env.shutdown fuel 0 env.content 0 [] = some (.aborted sent n)

/-- `SendTxHashSet` answers `BAN_PEER` only from its rate check or when the
stream is cut. -/
theorem SendTxHashSet_eq_ban {env : TxHashSetEnv} {fuel : Nat} {peer : Peer} {now : Int}
    (h : (SendTxHashSet env fuel peer now).status = some (.ok .BAN_PEER)) :
    peer.lastTxHashSetRequest > maxTxHashSetRequest now ∨ StreamCut env fuel := by
  unfold SendTxHashSet at h
  split at h
  · exact .inl ‹_›
  · right
    split at h
    all_goals try cases h
    rename_i hheader
    split at h
    all_goals try cases h
    rename_i fileSize hsnap hopen hfs
    obtain ⟨r, hr, hs⟩ := Option.map_eq_some'.mp h
    cases r with
    | done => cases hs
    | aborted sent n => exact ⟨hheader, hsnap, hopen, fileSize, sent, n, hfs, hr⟩

/-- A TxHashSet request as `SendTxHashSet` sees it: its environment and the clock. -/
structure Request where
  env : TxHashSetEnv
  now : Int

/-- A handled request: the request, the peer's stamp when it arrived, the answer,
and whether `SendTxHashSet` called `SnapshotTxHashSet`. -/
structure Handled where
  request : Request
  stamp : Int
  answer : Option (Except Exception EStatus)
  snapshot : Bool

/-- The request passed the rate check. -/
def Handled.passed (h : Handled) : Bool :=
  !decide (h.stamp > maxTxHashSetRequest h.request.now)

/-- `SendTxHashSet` got as far as `SnapshotTxHashSet`. -/
def Handled.ReachesSnapshot (h : Handled) : Prop :=
  h.snapshot = true

/-- One peer's requests handled one at a time, each by `SendTxHashSet`. -/
def runTxHashSet (fuel : Nat) : Peer → List Request → List Handled
  | _, [] => []
  | peer, r :: rest =>
    let o := SendTxHashSet r.env fuel peer r.now
    ⟨r, peer.lastTxHashSetRequest, o.status, o.snapshot⟩ :: runTxHashSet fuel o.peer rest

/-- The spec's window, for a run of request times starting from the stamp
`last`: a request passes exactly when it comes at least two hours after the most
recent request that passed, and a refused request leaves the window where it is. -/
def rateWindow (last : Int) : List Int → List Bool
  | [] => []
  | t :: ts => if t < last + 2 * 60 * 60 then false :: rateWindow last ts else true :: rateWindow t ts

@[simp]
theorem runTxHashSet_map_request (fuel : Nat) (peer : Peer) (reqs : List Request) :
    (runTxHashSet fuel peer reqs).map Handled.request = reqs := by
  induction reqs generalizing peer with
  | nil => rfl
  | cons r rest ih => exact congrArg (r :: ·) (ih _)

/-- The code's rate check is the spec's window. -/
theorem runTxHashSet_map_passed (fuel : Nat) (peer : Peer) (reqs : List Request) :
    (runTxHashSet fuel peer reqs).map Handled.passed =
      rateWindow peer.lastTxHashSetRequest (reqs.map Request.now) := by
  induction reqs generalizing peer with
  | nil => rfl
  | cons r rest ih =>
    simp only [runTxHashSet, List.map_cons, rateWindow, ih, SendTxHashSet_peer, Handled.passed,
      maxTxHashSetRequest]
    by_cases h : r.now < peer.lastTxHashSetRequest + 2 * 60 * 60
    · rw [if_pos h, if_pos (by omega)]
      simp only [decide_eq_true (show peer.lastTxHashSetRequest > r.now - 2 * 60 * 60 by omega),
        Bool.not_true]
    · rw [if_neg h, if_neg (by omega)]
      simp only [decide_eq_false (show ¬peer.lastTxHashSetRequest > r.now - 2 * 60 * 60 by omega),
        Bool.not_false]

/-- The rate check never moves a peer's stamp back. -/
theorem le_SendTxHashSet_peer (env : TxHashSetEnv) (fuel : Nat) (peer : Peer) (now : Int) :
    peer.lastTxHashSetRequest ≤ (SendTxHashSet env fuel peer now).peer.lastTxHashSetRequest := by
  rw [SendTxHashSet_peer]
  split
  · exact Int.le_refl _
  · simp only [maxTxHashSetRequest] at *; omega

/-- Every request of a run is handled by `SendTxHashSet` from a peer whose stamp
is at least the one the run started with. -/
theorem mem_runTxHashSet (fuel : Nat) (reqs : List Request) :
    ∀ peer, ∀ h ∈ runTxHashSet fuel peer reqs, ∃ p : Peer,
      peer.lastTxHashSetRequest ≤ p.lastTxHashSetRequest ∧ h.stamp = p.lastTxHashSetRequest ∧
        h.answer = (SendTxHashSet h.request.env fuel p h.request.now).status ∧
        h.snapshot = (SendTxHashSet h.request.env fuel p h.request.now).snapshot := by
  induction reqs with
  | nil => intro _ _ h; cases h
  | cons r rest ih =>
    intro peer h hh
    simp only [runTxHashSet, List.mem_cons] at hh
    rcases hh with rfl | hh
    · exact ⟨peer, Int.le_refl _, rfl, rfl, rfl⟩
    · obtain ⟨p, hp, hrest⟩ := ih _ h hh
      exact ⟨p, Int.le_trans (le_SendTxHashSet_peer r.env fuel peer r.now) hp, hrest⟩

theorem passed_eq_true {h : Handled} :
    h.passed = true ↔ ¬h.stamp > maxTxHashSetRequest h.request.now := by
  simp [Handled.passed]

/-- A request the rate check refuses is answered `BAN_PEER`. -/
theorem runTxHashSet_refused_ban {fuel : Nat} {peer : Peer} {reqs : List Request} {h : Handled}
    (hh : h ∈ runTxHashSet fuel peer reqs) (hp : h.passed = false) :
    h.answer = some (.ok .BAN_PEER) := by
  obtain ⟨p, -, hstamp, hanswer, -⟩ := mem_runTxHashSet fuel reqs peer h hh
  have hrefused : p.lastTxHashSetRequest > maxTxHashSetRequest h.request.now := by
    simpa [Handled.passed, hstamp] using hp
  rw [hanswer, SendTxHashSet_refused _ _ _ _ hrefused]

/-- A request that passes the rate check is answered `BAN_PEER` only when its
stream is cut. -/
theorem runTxHashSet_passed_ban {fuel : Nat} {peer : Peer} {reqs : List Request} {h : Handled}
    (hh : h ∈ runTxHashSet fuel peer reqs) (hp : h.passed = true)
    (hban : h.answer = some (.ok .BAN_PEER)) : StreamCut h.request.env fuel := by
  obtain ⟨p, -, hstamp, hanswer, -⟩ := mem_runTxHashSet fuel reqs peer h hh
  rw [passed_eq_true, hstamp] at hp
  exact (SendTxHashSet_eq_ban (hanswer ▸ hban)).resolve_left hp

/-- A request that calls `SnapshotTxHashSet` has passed the rate check. -/
theorem runTxHashSet_snapshot_passed {fuel : Nat} {peer : Peer} {reqs : List Request}
    {h : Handled} (hh : h ∈ runTxHashSet fuel peer reqs) (hs : h.ReachesSnapshot) :
    ¬h.stamp > maxTxHashSetRequest h.request.now := by
  obtain ⟨p, -, hstamp, -, hsnap⟩ := mem_runTxHashSet fuel reqs peer h hh
  rw [hstamp]
  exact (SendTxHashSet_snapshot (hsnap.symm.trans hs)).1

/-- Two requests of a run that reach the snapshot are two hours apart: the
first set the stamp to its time, and the stamp never moves back. -/
theorem runTxHashSet_snapshots_apart (fuel : Nat) (reqs : List Request) :
    ∀ peer, (runTxHashSet fuel peer reqs).Pairwise
      (fun a b => a.ReachesSnapshot → b.ReachesSnapshot →
        a.request.now + 2 * 60 * 60 ≤ b.request.now) := by
  induction reqs with
  | nil => exact fun _ => List.Pairwise.nil
  | cons r rest ih =>
    intro peer
    refine List.Pairwise.cons (fun b hb ha hb' => ?_) (ih _)
    have ha' := @runTxHashSet_snapshot_passed fuel peer (r :: rest) _
      (List.mem_cons_self _ _) ha
    obtain ⟨p, hp, hstamp, -⟩ := mem_runTxHashSet fuel rest _ b hb
    have hb'' := @runTxHashSet_snapshot_passed fuel peer (r :: rest) _
      (List.mem_cons_of_mem _ hb) hb'
    rw [SendTxHashSet_peer, if_neg ha'] at hp
    simp only [maxTxHashSetRequest, hstamp] at hb'' hp
    show r.now + 2 * 60 * 60 ≤ b.request.now
    omega

/-- **Rate limit.**  Over any run of one peer's requests, the rate check is the
spec's window, a refused request is answered `BAN_PEER`, a request that passes is
answered `BAN_PEER` only when its stream is cut, and two requests that call
`SnapshotTxHashSet` are at least two hours apart. -/
theorem runTxHashSet_rate_limited (fuel : Nat) (peer : Peer) (reqs : List Request) :
    (runTxHashSet fuel peer reqs).map Handled.passed =
        rateWindow peer.lastTxHashSetRequest (reqs.map Request.now) ∧
      (∀ h ∈ runTxHashSet fuel peer reqs, h.passed = false → h.answer = some (.ok .BAN_PEER)) ∧
      (∀ h ∈ runTxHashSet fuel peer reqs, h.passed = true → h.answer = some (.ok .BAN_PEER) →
        StreamCut h.request.env fuel) ∧
      (runTxHashSet fuel peer reqs).Pairwise
        (fun a b => a.ReachesSnapshot → b.ReachesSnapshot →
          a.request.now + 2 * 60 * 60 ≤ b.request.now) :=
  ⟨runTxHashSet_map_passed fuel peer reqs, fun _ hh hp => runTxHashSet_refused_ban hh hp,
    fun _ hh hp hban => runTxHashSet_passed_ban hh hp hban,
    runTxHashSet_snapshots_apart fuel reqs peer⟩

end GrinPlusPlus.P2P
