import Courier.Proofs.Failures

/-!
# Runs of a broker

A run is a list of actions: calls on the broker, and the changes made around it. The transport
is replaced by a fresh channel transport, a store is closed, wiped or reopened, and the disk
store's location is made unusable and usable again. `World.step` takes one action and appends
to the log what an observer of the call learns from its answer: a strand added, an envelope
saved, an id acknowledged, an envelope handed to the transport, taken by it or received from it,
the transport replaced.

A send builds its envelope (`Broker.draft`) before the caller sees anything. The log names that
envelope as saved when the call answered with it, or failed only at the transport. A recovery
pass logs every envelope of the durable store as handed to the transport, then those the
transport took, in order.

The laws of `Courier.Proofs.Placement`, `Courier.Proofs.Ledger` and `Courier.Proofs.Delivery`
are invariants of `World.run`: each holds of the start, and each action keeps it.
-/

namespace Courier

/-- What can happen to a broker: a call, or a change made around it. -/
inductive Action where
  | addStrand (s : String) (c : StrandConf)
  | send (s payload : String)
  | receive (s : String)
  | acknowledge (s id : String)
  | removeStrand (s : String)
  | recover
  | durability (s : String)
  | strandConfig (s : String)
  /-- The transport replaced by a fresh channel transport asked for this capacity. -/
  | restart (capacity : Nat)
  | close (d : Durability)
  /-- A store wiped while `readers` cursors are open on it. -/
  | reset (d : Durability) (readers : Nat)
  /-- A store reopened while `readers` cursors are open on it. -/
  | reload (d : Durability) (readers : Nat)
  /-- The disk store's location made unusable (`true`) or usable again (`false`). -/
  | block (flag : Bool)
  deriving Repr

/-- What a step tells an observer of the broker. -/
inductive Event where
  | added (s : String)
  | saved (m : Envelope)
  | acked (s id : String)
  /-- The transport was handed the envelope. -/
  | attempted (m : Envelope)
  /-- The transport took the envelope. -/
  | accepted (m : Envelope)
  /-- A receive on the strand returned the envelope. -/
  | received (s : String) (m : Envelope)
  /-- The transport was replaced by one asked for this capacity. -/
  | restarted (capacity : Nat)
  deriving DecidableEq, Repr

namespace Store

/-- The store with its location marked unusable or not; a memory store has no location. -/
def withBlocked (st : Store) (flag : Bool) : Store :=
  match st with
  | .memory m => .memory m
  | .disk d => .disk { d with blocked := flag }

theorem sameData_withBlocked (st : Store) (flag : Bool) : st.SameData (st.withBlocked flag) := by
  cases st <;> rfl

end Store

/-- A broker and the log of what its run has shown so far. -/
structure World where
  broker : Broker
  log : List Event := []

namespace World

/-- A call on the broker, logged by what its answer means. -/
def call {α : Type} (w : World) (op : Broker.Op α) (events : Except BrokerError α → List Event) :
    World :=
  { broker := (op.run.run w.broker).2, log := w.log ++ events (op.run.run w.broker).1 }

/-- The log of an add: the strand, when it was registered. -/
def addedEvents (s : String) : Except BrokerError Unit → List Event
  | .ok () => [.added s]
  | .error _ => []

/-- The log of a send that built `m`: saved and handed to the transport when the call answered
or failed at the transport, and taken by the transport when it answered. -/
def sendEvents (m : Envelope) : Except BrokerError Envelope → List Event
  | .ok m' => [.saved m', .attempted m', .accepted m']
  | .error (.transport _ _) => [.saved m, .attempted m]
  | .error _ => []

/-- The log of a receive: the envelope it returned, if any. -/
def receivedEvents (s : String) : Except BrokerError Polled → List Event
  | .ok (.ready m) => [.received s m]
  | _ => []

/-- The log of an acknowledge: the id, when the store let go of it. -/
def ackedEvents (s id : String) : Except BrokerError Envelope → List Event
  | .ok _ => [.acked s id]
  | .error _ => []

/-- The log of a recovery pass on `b`: every envelope of the durable store handed to the
transport, then those it took. -/
def resendEvents (b : Broker) : List Event :=
  b.durable.pending.map .attempted ++ (b.transport.handOver b.durable.pending).2.map .accepted

/-- The log of a recovery pass on `b` that answered `r`. -/
def recoverEvents (b : Broker) : Except BrokerError RecoveryReport → List Event
  | .ok _ => resendEvents b
  | .error _ => []

/-- One action, with stamps drawn from `stamps`. -/
def step (stamps : Nat → Stamp) (w : World) : Action → World
  | .addStrand s c => w.call (Broker.addStrand s c) (addedEvents s)
  | .send s p => w.call (Broker.send s p stamps) (sendEvents (w.broker.draft stamps s p))
  | .receive s => w.call (Broker.receive s) (receivedEvents s)
  | .acknowledge s id => w.call (Broker.acknowledge s id) (ackedEvents s id)
  | .removeStrand s => w.call (Broker.removeStrand s) fun _ => []
  | .recover => w.call Broker.recover (recoverEvents w.broker)
  | .durability s => w.call (Broker.durability s) fun _ => []
  | .strandConfig s => w.call (Broker.strandConfig s) fun _ => []
  | .restart n =>
    { broker := { w.broker with transport := .channel (Channel.make n) },
      log := w.log ++ [.restarted n] }
  | .close d => { w with broker := w.broker.withStore d (w.broker.storeOf d).close }
  | .reset d n => { w with broker := w.broker.withStore d ((w.broker.storeOf d).reset n).2 }
  | .reload d n => { w with broker := w.broker.withStore d ((w.broker.storeOf d).reload n).2 }
  | .block flag =>
    { w with broker := w.broker.withStore .durable (w.broker.durable.withBlocked flag) }

/-- The actions in order. -/
def run (stamps : Nat → Stamp) (w : World) (acts : List Action) : World :=
  acts.foldl (step stamps) w

@[simp] theorem call_broker {α : Type} (w : World) (op : Broker.Op α)
    (events : Except BrokerError α → List Event) :
    (w.call op events).broker = (op.run.run w.broker).2 := rfl

@[simp] theorem call_log {α : Type} (w : World) (op : Broker.Op α)
    (events : Except BrokerError α → List Event) :
    (w.call op events).log = w.log ++ events (op.run.run w.broker).1 := rfl

/-- What holds of the start and survives every action holds all along a run. -/
theorem run_invariant (stamps : Nat → Stamp) (P : World → Prop)
    (hstep : ∀ w a, P w → P (w.step stamps a)) {w : World} (hw : P w) (acts : List Action) :
    P (w.run stamps acts) := by
  induction acts generalizing w with
  | nil => exact hw
  | cons a rest ih => exact ih (hstep w a hw)

/-- What holds of the start and survives every action of a kind holds along a run of actions of
that kind. -/
theorem run_invariant_of (stamps : Nat → Stamp) (P : World → Prop) (ok : Action → Prop)
    (hstep : ∀ w a, ok a → P w → P (w.step stamps a)) {w : World} (hw : P w)
    (acts : List Action) (hacts : ∀ a ∈ acts, ok a) : P (w.run stamps acts) := by
  induction acts generalizing w with
  | nil => exact hw
  | cons a rest ih =>
    exact ih (hstep w a (hacts a List.mem_cons_self) hw)
      fun a' ha' => hacts a' (List.mem_cons_of_mem _ ha')

end World

namespace Broker

/-- A store the broker finds a strand in registers it. -/
theorem confOf_of_home {b : Broker} {s : String} {d : Durability} (h : b.home s = .ok d) :
    (b.storeOf d).confOf s ≠ none ∧ (b.storeOf d).isOpen = true := by
  have hh := has_of_home h
  rw [Store.has_eq] at hh
  by_cases ho : (b.storeOf d).isOpen
  · simp only [ho, if_true, Except.ok.injEq, Option.isSome_iff_ne_none] at hh
    exact ⟨hh, ho⟩
  · simp [ho] at hh

/-- A strand the lookup finds nowhere is registered nowhere. -/
theorem confOf_of_locate_none {b : Broker} {s : String} (h : b.locate s = .ok none)
    (d : Durability) : (b.storeOf d).confOf s = none := by
  unfold locate at h
  split at h
  · cases h
  · cases h
  · rename_i hd
    split at h
    · cases h
    · cases h
    · rename_i hv
      rw [Store.has_eq] at hd hv
      cases d with
      | durable =>
        split at hd
        · simpa using hd
        · cases hd
      | volatile =>
        split at hv
        · simpa using hv
        · cases hv

theorem locate_error {b : Broker} {s : String} {e : BrokerError} (h : b.locate s = .error e) :
    ∃ e', e = .ofStore s e' := by
  unfold locate at h
  split at h
  · exact ⟨_, (Except.error.inj h).symm⟩
  · cases h
  · split at h
    · exact ⟨_, (Except.error.inj h).symm⟩
    · cases h
    · cases h

/-- A strand the broker finds no home for is unknown, or a store could not answer. -/
theorem home_error {b : Broker} {s : String} {e : BrokerError} (h : b.home s = .error e) :
    e = .strandNotFound s ∨ ∃ e', e = .ofStore s e' := by
  unfold home at h
  cases hl : b.locate s with
  | error e' =>
    simp only [hl] at h
    obtain ⟨e'', rfl⟩ := locate_error hl
    exact .inr ⟨e'', (Except.error.inj h).symm⟩
  | ok d? =>
    cases d? with
    | none => simp only [hl] at h; exact .inl (Except.error.inj h).symm
    | some d => simp only [hl] at h; cases h

end Broker

namespace World

/-- A send refused before it drew a stamp logs nothing: the refusal is no transport error. -/
theorem sendEvents_of_home_error {b : Broker} {s : String} {e : BrokerError}
    (h : b.home s = .error e) (m : Envelope) : sendEvents m (.error e) = [] := by
  rcases Broker.home_error h with rfl | ⟨e', rfl⟩
  · rfl
  · cases e' <;> rfl

end World

end Courier
