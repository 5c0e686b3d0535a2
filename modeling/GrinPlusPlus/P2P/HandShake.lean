import Mathlib.Data.List.Perm.Basic
import Mathlib.Data.List.Nodup

/-!
# Concurrent handshakes and one connection per address

`HandShake::PerformInboundHandshake` and `PerformOutboundHandshake`
(`HandShake.cpp`, lines 55-151).

Each connection runs its handshake on its own thread and is registered in the
`ConnectionManager` once `PerformHandshake` returns true.  The inbound handshake
reads the peer's `Hand` and goes on only if its nonce is not ours and
`IsConnected(ip)` is false; the outbound handshake checks nothing.  A run is a
list of `Event`s, each moving one thread one step, in any interleaving.

`step_cases` says what one step can do to the registered addresses: nothing, or
add the address of a thread whose handshake succeeded.  So at every point of a
run there is at most one registered connection per address exactly when every
registration finds its address unregistered (`onePerIP_run_iff`), and once two
connections share an address they keep sharing it (`not_onePerIP_run`).  The
inbound check and the registration are separate steps: two inbound handshakes
from one address that both pass the check before either registers, or an
outbound handshake to an address already connected inbound, register an address
twice, and leave two registered connections to one address
(`two_connections_one_ip`).
-/

namespace GrinPlusPlus.P2P

/-- `EDirection`. -/
inductive EDirection where
  | INBOUND
  | OUTBOUND
  deriving DecidableEq, Repr

/-- Where a connection's thread stands: in `PerformHandshake` before its first
message (`handshaking`); inbound, past the nonce and `IsConnected` test with the
`Shake` not yet sent (`shaking`); after `PerformHandshake` returned false
(`failed`) or true (`succeeded`); registered in the `ConnectionManager`
(`active`). -/
inductive Phase where
  | handshaking
  | shaking
  | failed
  | succeeded
  | active
  deriving DecidableEq, Repr

/-- A connection's thread: the peer's IP address, the direction and the phase. -/
structure Connection where
  ipAddress : Nat
  direction : EDirection
  phase : Phase
  deriving DecidableEq, Repr

/-- The addresses of the registered connections, one entry per connection. -/
def activeIPs (cs : List Connection) : List Nat :=
  cs.filterMap fun c => if c.phase = .active then some c.ipAddress else none

/-- Modelled from the spec: `ConnectionManager::IsConnected`, some registered
connection has this address. -/
def IsConnected (cs : List Connection) (ip : Nat) : Bool :=
  decide (ip ∈ activeIPs cs)

/-- One step of one thread. -/
inductive Event where
  /-- Inbound thread `i` reads its first message; `foreignHand`: it is a `Hand`
  whose nonce is not ours (anything else, or an exception, fails the handshake). -/
  | retrieveHand (i : Nat) (foreignHand : Bool)
  /-- Inbound thread `i` sends its `Shake`. -/
  | transmitShake (i : Nat) (sent : Bool)
  /-- Outbound thread `i` sends its `Hand` and reads a `Shake` (`shake`) or not. -/
  | exchange (i : Nat) (shake : Bool)
  /-- Thread `i`, whose handshake returned true, is added to the `ConnectionManager`. -/
  | register (i : Nat)
  deriving DecidableEq, Repr

/-- The thread an event moves. -/
def Event.thread : Event → Nat
  | .retrieveHand i _ | .transmitShake i _ | .exchange i _ | .register i => i

/-- The phase an event moves its thread `c` to, when the event is enabled. -/
def Connection.next (cs : List Connection) (c : Connection) : Event → Option Phase
  | .retrieveHand _ foreignHand =>
    if c.direction = .INBOUND ∧ c.phase = .handshaking then
      some (if foreignHand && !IsConnected cs c.ipAddress then .shaking else .failed)
    else none
  | .transmitShake _ sent =>
    if c.phase = .shaking then some (if sent then .succeeded else .failed) else none
  | .exchange _ shake =>
    if c.direction = .OUTBOUND ∧ c.phase = .handshaking then
      some (if shake then .succeeded else .failed)
    else none
  | .register _ => if c.phase = .succeeded then some .active else none

/-- One step of a run; an event that is not enabled changes nothing. -/
def step (cs : List Connection) (e : Event) : List Connection :=
  match cs[e.thread]? with
  | some c =>
    match c.next cs e with
    | some p => cs.set e.thread { c with phase := p }
    | none => cs
  | none => cs

/-- A run: the events in order. -/
def run (cs : List Connection) (es : List Event) : List Connection :=
  es.foldl step cs

/-- The spec's invariant: at most one registered connection per address. -/
def OnePerIP (cs : List Connection) : Prop :=
  (activeIPs cs).Nodup

instance (cs : List Connection) : Decidable (OnePerIP cs) :=
  inferInstanceAs (Decidable (activeIPs cs).Nodup)

/-! ## What one step does to the registered addresses -/

@[simp]
theorem activeIPs_cons (c : Connection) (cs : List Connection) :
    activeIPs (c :: cs) =
      if c.phase = .active then c.ipAddress :: activeIPs cs else activeIPs cs := by
  unfold activeIPs
  split <;> simp [*]

/-- Moving a thread between two unregistered phases changes no registered address. -/
theorem activeIPs_set_of_ne {cs : List Connection} {i : Nat} {c : Connection} {p : Phase}
    (hc : cs[i]? = some c) (hca : c.phase ≠ .active) (hp : p ≠ .active) :
    activeIPs (cs.set i { c with phase := p }) = activeIPs cs := by
  induction cs generalizing i with
  | nil => cases hc
  | cons d ds ih =>
    cases i with
    | zero =>
      obtain rfl : d = c := Option.some.inj (List.getElem?_cons_zero.symm.trans hc)
      simp [hca, hp]
    | succ k => simp [ih (List.getElem?_cons_succ.symm.trans hc)]

/-- Registering a thread adds its address. -/
theorem activeIPs_set_active {cs : List Connection} {i : Nat} {c : Connection}
    (hc : cs[i]? = some c) (hca : c.phase ≠ .active) :
    (activeIPs (cs.set i { c with phase := .active })).Perm (c.ipAddress :: activeIPs cs) := by
  induction cs generalizing i with
  | nil => cases hc
  | cons d ds ih =>
    cases i with
    | zero =>
      obtain rfl : d = c := Option.some.inj (List.getElem?_cons_zero.symm.trans hc)
      simp [hca]
    | succ k =>
      have ih := ih (List.getElem?_cons_succ.symm.trans hc)
      simp only [List.set_cons_succ, activeIPs_cons]
      split
      · exact (ih.cons d.ipAddress).trans (List.Perm.swap _ _ _)
      · exact ih

/-- An enabled event never starts from a registered thread, and it registers
its thread only as `register` of a thread whose handshake succeeded. -/
theorem next_eq_some {cs : List Connection} {c : Connection} {e : Event} {p : Phase}
    (h : c.next cs e = some p) :
    c.phase ≠ .active ∧ (p = .active → c.phase = .succeeded ∧ e = .register e.thread) := by
  cases e with
  | register i =>
    simp only [Connection.next] at h
    split at h
    · rename_i hs
      exact ⟨by rw [hs]; decide, fun _ => ⟨hs, rfl⟩⟩
    · cases h
  | _ =>
    simp only [Connection.next] at h
    split at h
    · obtain rfl := Option.some.inj h
      refine ⟨by simp_all, fun hp => absurd hp ?_⟩
      split <;> simp
    · cases h

/-- An enabled event sets its thread's phase. -/
theorem step_of_next {cs : List Connection} {c : Connection} {e : Event} {p : Phase}
    (hc : cs[e.thread]? = some c) (hn : c.next cs e = some p) :
    step cs e = cs.set e.thread { c with phase := p } := by
  simp [step, hc, hn]

/-- An event that is not enabled changes nothing. -/
theorem step_of_next_none {cs : List Connection} {c : Connection} {e : Event}
    (hc : cs[e.thread]? = some c) (hn : c.next cs e = none) : step cs e = cs := by
  simp [step, hc, hn]

/-- `register` of a thread whose handshake succeeded. -/
theorem step_register {cs : List Connection} {i : Nat} {c : Connection}
    (hc : cs[i]? = some c) (hs : c.phase = .succeeded) :
    step cs (.register i) = cs.set i { c with phase := .active } := by
  simp [step, Event.thread, hc, Connection.next, hs]

/-- **One step.**  A step leaves the registered addresses as they are, or it is
the registration of a thread whose handshake succeeded and adds its address. -/
theorem step_cases (cs : List Connection) (e : Event) :
    activeIPs (step cs e) = activeIPs cs ∨
      ∃ c, e = .register e.thread ∧ cs[e.thread]? = some c ∧ c.phase = .succeeded ∧
        (activeIPs (step cs e)).Perm (c.ipAddress :: activeIPs cs) := by
  unfold step
  split
  · rename_i c hc
    split
    · rename_i p hp
      obtain ⟨hca, hreg⟩ := next_eq_some hp
      by_cases hpa : p = .active
      · obtain ⟨hs, he⟩ := hreg hpa
        subst hpa
        exact .inr ⟨c, he, hc, hs, activeIPs_set_active hc hca⟩
      · exact .inl (activeIPs_set_of_ne hc hca hpa)
    · exact .inl rfl
  · exact .inl rfl

/-- The registration an event makes, if any, finds its address unregistered. -/
def FreshRegister (cs : List Connection) (e : Event) : Prop :=
  ∀ i c, e = .register i → cs[i]? = some c → c.phase = .succeeded →
    c.ipAddress ∉ activeIPs cs

theorem freshRegister_iff (cs : List Connection) (e : Event) :
    FreshRegister cs e ↔ ∀ c, cs[e.thread]? = some c → e = .register e.thread →
      c.phase = .succeeded → c.ipAddress ∉ activeIPs cs := by
  constructor
  · intro h c hc he hs
    exact h _ c he (by rwa [he] at hc) hs
  · rintro h i c rfl hc hs
    exact h c hc rfl hs

instance (cs : List Connection) (e : Event) : Decidable (FreshRegister cs e) :=
  decidable_of_iff' _ (freshRegister_iff cs e)

/-- A step keeps one connection per address exactly when its registration, if
any, is of an unregistered address. -/
theorem onePerIP_step_iff {cs : List Connection} (h : OnePerIP cs) (e : Event) :
    OnePerIP (step cs e) ↔ FreshRegister cs e := by
  constructor
  · rintro h' i c rfl hc hs hmem
    have hp := activeIPs_set_active hc (by simp [hs])
    rw [← step_register hc hs] at hp
    exact (List.nodup_cons.mp (hp.nodup_iff.mp h')).1 hmem
  · intro hfresh
    rcases step_cases cs e with he | ⟨c, he, hc, hs, hp⟩
    · unfold OnePerIP; rwa [he]
    · exact hp.nodup_iff.mpr (List.nodup_cons.mpr ⟨hfresh _ c he hc hs, h⟩)

/-! ## Runs -/

/-- Every registration of the run finds its address unregistered. -/
def RegistersFresh : List Connection → List Event → Prop
  | _, [] => True
  | cs, e :: es => FreshRegister cs e ∧ RegistersFresh (step cs e) es

instance decRegistersFresh : (cs : List Connection) → (es : List Event) →
    Decidable (RegistersFresh cs es)
  | _, [] => isTrue trivial
  | cs, e :: es =>
    haveI := decRegistersFresh (step cs e) es
    inferInstanceAs (Decidable (FreshRegister cs e ∧ RegistersFresh (step cs e) es))

/-- **One connection per address, over a run.**  From a state with one
connection per address, the property holds at every point of a run exactly
when every registration of the run finds its address unregistered. -/
theorem onePerIP_run_iff (es : List Event) :
    ∀ cs, OnePerIP cs → ((∀ k, OnePerIP (run cs (es.take k))) ↔ RegistersFresh cs es) := by
  induction es with
  | nil => intro cs h; simpa [run, RegistersFresh] using h
  | cons e es ih =>
    intro cs h
    have hk : (∀ k, OnePerIP (run cs ((e :: es).take k))) ↔
        ∀ k, OnePerIP (run (step cs e) (es.take k)) := by
      refine ⟨fun hall k => hall (k + 1), fun hall k => ?_⟩
      cases k with
      | zero => exact h
      | succ k => exact hall k
    rw [hk, RegistersFresh]
    constructor
    · intro hall
      have h1 : OnePerIP (step cs e) := hall 0
      exact ⟨(onePerIP_step_iff h e).mp h1, (ih _ h1).mp hall⟩
    · rintro ⟨hfresh, hrest⟩
      exact (ih _ ((onePerIP_step_iff h e).mpr hfresh)).mpr hrest

theorem run_append (cs : List Connection) (es es' : List Event) :
    run cs (es ++ es') = run (run cs es) es' :=
  List.foldl_append _ _ _ _

/-- No step unregisters a connection, so a step never makes two connections
sharing an address unique again. -/
theorem onePerIP_of_step {cs : List Connection} {e : Event} (h : OnePerIP (step cs e)) :
    OnePerIP cs := by
  rcases step_cases cs e with he | ⟨c, -, -, -, hp⟩
  · unfold OnePerIP at h ⊢
    rwa [he] at h
  · exact (List.nodup_cons.mp (hp.nodup_iff.mp h)).2

/-- Once two registered connections share an address, they keep sharing it. -/
theorem not_onePerIP_run {cs : List Connection} (h : ¬OnePerIP cs) :
    ∀ es, ¬OnePerIP (run cs es) := by
  intro es
  induction es generalizing cs with
  | nil => exact h
  | cons e es ih => exact ih fun h' => h (onePerIP_of_step h')

/-- A run from one connection per address that registers some address twice
ends with two registered connections to one address. -/
theorem not_onePerIP_of_not_registersFresh {cs : List Connection} {es : List Event}
    (h : OnePerIP cs) (hfresh : ¬RegistersFresh cs es) : ¬OnePerIP (run cs es) := by
  obtain ⟨k, hk⟩ := not_forall.mp (mt (onePerIP_run_iff es cs h).mp hfresh)
  rw [← List.take_append_drop k es, run_append]
  exact not_onePerIP_run hk _

/-- Two inbound handshakes from one address that both pass `IsConnected` before
either registers, and an outbound handshake to an address that an inbound one
has already registered, each register an address twice, and so leave two
registered connections to one address. -/
theorem two_connections_one_ip :
    ¬OnePerIP (run [⟨1, .INBOUND, .handshaking⟩, ⟨1, .INBOUND, .handshaking⟩]
        [.retrieveHand 0 true, .retrieveHand 1 true, .transmitShake 0 true,
          .transmitShake 1 true, .register 0, .register 1]) ∧
      ¬OnePerIP (run [⟨1, .INBOUND, .handshaking⟩, ⟨1, .OUTBOUND, .handshaking⟩]
        [.retrieveHand 0 true, .transmitShake 0 true, .register 0, .exchange 1 true,
          .register 1]) :=
  ⟨not_onePerIP_of_not_registersFresh (by decide) (by decide),
    not_onePerIP_of_not_registersFresh (by decide) (by decide)⟩

end GrinPlusPlus.P2P
