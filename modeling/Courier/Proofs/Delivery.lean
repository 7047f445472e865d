import Courier.Proofs.Transport
import Courier.Proofs.World

/-!
# Delivery over the channel transport

Since the transport was last replaced, the log says per strand which envelopes the transport
took (`World.accepted`: sends that answered, and envelopes a recovery pass handed over and the
transport took), which ones receives returned (`World.received`), and whether the transport was
handed an envelope of the strand at all (`World.attempted`).

Over a channel transport, and fresh channel transports after each restart, receives return
exactly the envelopes taken, in order (`receives_follow_acceptance`). What has been received is
a prefix of what was taken, and the next receive on a strand the broker finds returns the next
envelope taken. It waits when all were received, and it fails as unavailable exactly when the
transport was never handed an envelope of the strand. A send on such a strand is refused as
`bufferFull` exactly when as many envelopes as the capacity are taken and not yet received.

The invariant `World.Delivering` says the transport is a channel that tracks every strand
against the log (`Channel.Tracks`).
-/

namespace Courier

/-- Whether the transport sees the event, or the event replaces the transport. -/
def Event.isTransport : Event → Bool
  | .attempted _ | .accepted _ | .received _ _ | .restarted _ => true
  | _ => false

/-- The envelope of strand `s` the transport took, if the event says it took one. -/
def Event.acceptedOn (s : String) : Event → Option Envelope
  | .accepted m => if m.strand = s then some m else none
  | _ => none

/-- The envelope a receive on strand `s` returned, if the event says one did. -/
def Event.receivedOn (s : String) : Event → Option Envelope
  | .received t m => if t = s then some m else none
  | _ => none

/-- Whether the event hands the transport an envelope of strand `s`. -/
def Event.attemptsOn (s : String) : Event → Bool
  | .attempted m => decide (m.strand = s)
  | _ => false

def Event.isRestart : Event → Bool
  | .restarted _ => true
  | _ => false

/-- The events since the transport was last replaced. -/
def sinceRestart (log : List Event) : List Event :=
  log.foldl (fun l e => if e.isRestart then [] else l ++ [e]) []

/-- The capacity the transport was last asked for; `cap` before any restart. -/
def capacityOf (cap : Nat) (log : List Event) : Nat :=
  log.foldl (fun n e => match e with
    | .restarted n' => n'
    | _ => n) cap

namespace World

/-- The envelopes of strand `s` the transport took since it was last replaced, in order. -/
def accepted (w : World) (s : String) : List Envelope :=
  (sinceRestart w.log).filterMap (Event.acceptedOn s)

/-- The envelopes receives on strand `s` returned since the transport was last replaced. -/
def received (w : World) (s : String) : List Envelope :=
  (sinceRestart w.log).filterMap (Event.receivedOn s)

/-- Whether the transport was handed an envelope of strand `s` since it was last replaced. -/
def attempted (w : World) (s : String) : Bool :=
  (sinceRestart w.log).any (Event.attemptsOn s)

end World

namespace Broker

theorem addStrand_transport (s : String) (c : StrandConf) (b : Broker) :
    ((addStrand s c).run.run b).2.transport = b.transport := by
  cases hr : (addStrand s c).run.run b with
  | mk r b' =>
    cases r with
    | error e => rw [addStrand_error hr]
    | ok u =>
      obtain ⟨-, -, -, -, -, -, ht⟩ := addStrand_ok hr
      exact ht

theorem acknowledge_transport (s id : String) (b : Broker) :
    ((acknowledge s id).run.run b).2.transport = b.transport := by
  cases hr : (acknowledge s id).run.run b with
  | mk r b' =>
    cases r with
    | error e => rw [acknowledge_error hr]
    | ok m' =>
      obtain ⟨-, -, -, -, -, -, -, -, ht⟩ := acknowledge_ok hr
      exact ht

theorem removeStrand_transport (s : String) (b : Broker) :
    ((removeStrand s).run.run b).2.transport = b.transport := by
  cases hr : (removeStrand s).run.run b with
  | mk r b' =>
    cases r with
    | error e => rw [removeStrand_error hr]
    | ok u =>
      obtain ⟨-, -, -, -, -, -, ht⟩ := removeStrand_ok hr
      exact ht

end Broker

/-! ## The log since the last restart -/

theorem Event.isRestart_of_isTransport {e : Event} (h : e.isTransport = false) :
    e.isRestart = false := by
  cases e <;> simp_all [isTransport, isRestart]

/-- An event the transport does not see shows nothing taken, received or handed over. -/
theorem Event.views_of_quiet {e : Event} (h : e.isTransport = false) (s : String) :
    e.acceptedOn s = none ∧ e.receivedOn s = none ∧ e.attemptsOn s = false := by
  cases e <;> simp_all [isTransport, acceptedOn, receivedOn, attemptsOn]

theorem foldl_sinceRestart {evs : List Event} (h : ∀ e ∈ evs, e.isRestart = false)
    (l : List Event) : evs.foldl (fun l e => if e.isRestart then [] else l ++ [e]) l = l ++ evs := by
  induction evs generalizing l with
  | nil => simp
  | cons e rest ih =>
    rw [List.foldl_cons, if_neg (by simp [h e List.mem_cons_self]),
      ih (fun e' he' => h e' (List.mem_cons_of_mem _ he'))]
    simp

theorem sinceRestart_append {log evs : List Event} (h : ∀ e ∈ evs, e.isRestart = false) :
    sinceRestart (log ++ evs) = sinceRestart log ++ evs := by
  rw [sinceRestart, List.foldl_append, foldl_sinceRestart h]
  rfl

@[simp] theorem sinceRestart_restarted (log : List Event) (n : Nat) :
    sinceRestart (log ++ [.restarted n]) = [] := by
  simp [sinceRestart, Event.isRestart]

theorem capacityOf_append {log evs : List Event} (h : ∀ e ∈ evs, e.isRestart = false)
    (cap : Nat) : capacityOf cap (log ++ evs) = capacityOf cap log := by
  rw [capacityOf, List.foldl_append]
  induction evs with
  | nil => rfl
  | cons e rest ih =>
    rw [List.foldl_cons]
    have he := h e List.mem_cons_self
    cases e <;> simp_all [Event.isRestart]

@[simp] theorem capacityOf_restarted (cap : Nat) (log : List Event) (n : Nat) :
    capacityOf cap (log ++ [.restarted n]) = n := by
  simp [capacityOf]

namespace World

variable {w w' : World}

theorem accepted_append {evs : List Event} (hlog : w'.log = w.log ++ evs)
    (hr : ∀ e ∈ evs, e.isRestart = false) (s : String) :
    w'.accepted s = w.accepted s ++ evs.filterMap (Event.acceptedOn s) := by
  rw [accepted, accepted, hlog, sinceRestart_append hr, List.filterMap_append]

theorem received_append {evs : List Event} (hlog : w'.log = w.log ++ evs)
    (hr : ∀ e ∈ evs, e.isRestart = false) (s : String) :
    w'.received s = w.received s ++ evs.filterMap (Event.receivedOn s) := by
  rw [received, received, hlog, sinceRestart_append hr, List.filterMap_append]

theorem attempted_append {evs : List Event} (hlog : w'.log = w.log ++ evs)
    (hr : ∀ e ∈ evs, e.isRestart = false) (s : String) :
    w'.attempted s = (w.attempted s || evs.any (Event.attemptsOn s)) := by
  rw [attempted, attempted, hlog, sinceRestart_append hr, List.any_append]

/-- Events the transport does not see leave what it took, gave out and was handed as it was. -/
theorem views_append_quiet {evs : List Event} (hlog : w'.log = w.log ++ evs)
    (hevs : ∀ e ∈ evs, e.isTransport = false) :
    w'.accepted = w.accepted ∧ w'.received = w.received ∧ w'.attempted = w.attempted := by
  have hr : ∀ e ∈ evs, e.isRestart = false := fun e he => Event.isRestart_of_isTransport (hevs e he)
  refine ⟨funext fun s => ?_, funext fun s => ?_, funext fun s => ?_⟩
  · rw [accepted_append hlog hr,
      List.filterMap_eq_nil_iff.2 fun e he => (Event.views_of_quiet (hevs e he) s).1, List.append_nil]
  · rw [received_append hlog hr,
      List.filterMap_eq_nil_iff.2 fun e he => (Event.views_of_quiet (hevs e he) s).2.1,
      List.append_nil]
  · have hnone : evs.any (Event.attemptsOn s) = false :=
      List.any_eq_false.2 fun e he => by simp [(Event.views_of_quiet (hevs e he) s).2.2]
    rw [attempted_append hlog hr, hnone, Bool.or_false]

/-- The transport is a channel that tracks every strand against the log since it was last
replaced, with the capacity it was last asked for. -/
def Delivering (cap : Nat) (w : World) : Prop :=
  ∃ c, w.broker.transport = .channel c ∧
    c.Tracks (capacityOf cap w.log) w.accepted w.received w.attempted

/-- A fresh channel transport with an empty log. -/
theorem delivering_start {b : Broker} {cap : Nat} (hb : b.transport = .channel (Channel.make cap)) :
    Delivering cap ⟨b, []⟩ :=
  ⟨Channel.make cap, hb, Channel.tracks_make cap⟩

/-- A step that leaves the transport alone and logs nothing it sees. -/
theorem Delivering.of_quiet {cap : Nat} (h : Delivering cap w)
    (ht : w'.broker.transport = w.broker.transport) {evs : List Event}
    (hlog : w'.log = w.log ++ evs) (hevs : ∀ e ∈ evs, e.isTransport = false) :
    Delivering cap w' := by
  obtain ⟨c, hc, htr⟩ := h
  obtain ⟨hacc, hrcv, hatt⟩ := views_append_quiet hlog hevs
  refine ⟨c, ht.trans hc, ?_⟩
  rw [hacc, hrcv, hatt, hlog,
    capacityOf_append fun e he => Event.isRestart_of_isTransport (hevs e he)]
  exact htr

/-- A restart replaces the transport by a fresh channel, and the log starts over. -/
theorem Delivering.restart {cap : Nat} (n : Nat) (stamps : Nat → Stamp) :
    Delivering cap (w.step stamps (.restart n)) := by
  refine ⟨Channel.make n, rfl, ?_⟩
  have hsince : sinceRestart (w.step stamps (.restart n)).log = [] :=
    sinceRestart_restarted w.log n
  have hacc : (w.step stamps (.restart n)).accepted = fun _ => [] := by
    funext s; simp [accepted, hsince]
  have hrcv : (w.step stamps (.restart n)).received = fun _ => [] := by
    funext s; simp [received, hsince]
  have hatt : (w.step stamps (.restart n)).attempted = fun _ => false := by
    funext s; simp [attempted, hsince]
  rw [hacc, hrcv, hatt]
  simpa [step] using Channel.tracks_make n

/-- A step after which the transport is a channel that tracks every strand against the log
grown by events `evs`, none of them a restart. -/
theorem Delivering.of_tracks {cap : Nat} {c : Channel} (ht : w'.broker.transport = .channel c)
    {evs : List Event} (hlog : w'.log = w.log ++ evs) (hr : ∀ e ∈ evs, e.isRestart = false)
    (htr : c.Tracks (capacityOf cap w.log)
      (fun s => w.accepted s ++ evs.filterMap (Event.acceptedOn s))
      (fun s => w.received s ++ evs.filterMap (Event.receivedOn s))
      (fun s => w.attempted s || evs.any (Event.attemptsOn s))) :
    Delivering cap w' := by
  refine ⟨c, ht, ?_⟩
  rw [funext (accepted_append hlog hr), funext (received_append hlog hr),
    funext (attempted_append hlog hr), hlog, capacityOf_append hr]
  exact htr

/-! ## The calls the transport sees -/

/-- A send that saved its envelope hands it to the channel, which takes it or finds the
strand's buffer full. -/
theorem Delivering.send {cap : Nat} (h : Delivering cap w) (s p : String)
    (stamps : Nat → Stamp) : Delivering cap (w.step stamps (.send s p)) := by
  obtain ⟨c, hc, htr⟩ := h
  simp only [step, call]
  cases hr : (Broker.send s p stamps).run.run w.broker with
  | mk r b' =>
    cases r with
    | error e =>
      rcases Broker.send_error hr with ⟨hh, rfl⟩ | ⟨d, st, te, hh, hs, ht, rfl, rfl⟩
      · exact Delivering.of_quiet ⟨c, hc, htr⟩ rfl rfl (by rw [sendEvents_of_home_error hh]; simp)
      · -- the channel refused the envelope: its strand's buffer was full
        rw [hc] at ht
        have hce := Transport.send_channel_error ht
        refine Delivering.of_tracks (c := c) (by simp [hc]) rfl (by simp [sendEvents, Event.isRestart])
          ⟨htr.capacity, htr.held, fun t => ?_⟩
        simpa [sendEvents, List.filterMap_cons, Event.acceptedOn, Event.receivedOn,
          Event.attemptsOn] using (htr.on t).send_error htr.one_le_capacity hce
    | ok m =>
      obtain ⟨d, st, t, -, -, ht, rfl, -, -, htr'⟩ := Broker.send_ok hr
      rw [hc] at ht
      obtain ⟨c', hc', rfl⟩ := Transport.send_channel_ok ht
      obtain ⟨hcap, hheld, -⟩ := Channel.send_ok_cases hc'
      refine Delivering.of_tracks (c := c') htr' rfl (by simp [sendEvents, Event.isRestart])
        ⟨hcap.trans htr.capacity, hheld.trans htr.held, fun t => ?_⟩
      by_cases hmt : s = t <;>
        simpa [sendEvents, List.filterMap_cons, Event.acceptedOn, Event.receivedOn,
          Event.attemptsOn, hmt] using (htr.on t).send hc'

/-- A receive on a strand the broker finds polls the channel once: it takes the oldest
envelope of the strand's buffer, or waits, or finds no buffer. -/
theorem Delivering.receive {cap : Nat} (h : Delivering cap w) (s : String)
    (stamps : Nat → Stamp) : Delivering cap (w.step stamps (.receive s)) := by
  obtain ⟨c, hc, htr⟩ := h
  simp only [step, call, Broker.receive_run]
  cases hh : w.broker.home s with
  | error e => exact Delivering.of_quiet ⟨c, hc, htr⟩ rfl rfl (by simp [receivedEvents])
  | ok d =>
    simp only [hc, Transport.poll_channel]
    cases hp : c.poll s with
    | error e => exact Delivering.of_quiet ⟨c, hc, htr⟩ rfl rfl (by simp [receivedEvents])
    | ok r =>
      obtain ⟨q, c'⟩ := r
      cases q with
      | waiting n =>
        have hsame := Channel.poll_waiting_eq hp
        subst hsame
        exact Delivering.of_quiet ⟨c', hc, htr⟩ hc.symm rfl (by simp [receivedEvents])
      | ready m =>
        obtain ⟨hcap, hheld, -⟩ := Channel.poll_ready_cases hp
        refine Delivering.of_tracks (c := c') rfl rfl (by simp [receivedEvents, Event.isRestart])
          ⟨hcap.trans htr.capacity, hheld.trans htr.held, fun t => ?_⟩
        by_cases hst : s = t <;>
          simpa [receivedEvents, List.filterMap_cons, Event.acceptedOn, Event.receivedOn,
            Event.attemptsOn, hst] using (htr.on t).receive hp

/-- A recovery pass shows, per strand, the envelopes the transport took of that strand, and
whether it was handed one. -/
theorem resendEvents_views (b : Broker) (s : String) :
    (resendEvents b).filterMap (Event.acceptedOn s) =
        (b.transport.handOver b.durable.pending).2.filter (·.strand = s) ∧
      (resendEvents b).filterMap (Event.receivedOn s) = [] ∧
      (resendEvents b).any (Event.attemptsOn s) = b.durable.pending.any (·.strand = s) := by
  have htaken : ∀ ms : List Envelope,
      (ms.map Event.accepted).filterMap (Event.acceptedOn s) = ms.filter (·.strand = s) := by
    intro ms
    induction ms with
    | nil => rfl
    | cons m rest ih => by_cases hms : m.strand = s <;> simp [Event.acceptedOn, hms, ih]
  refine ⟨?_, ?_, ?_⟩
  · rw [resendEvents, List.filterMap_append, htaken, List.filterMap_eq_nil_iff.2, List.nil_append]
    simp [Event.acceptedOn]
  · simp [resendEvents, List.filterMap_map, Function.comp_def, Event.receivedOn]
  · simp [resendEvents, List.any_map, Function.comp_def, Event.attemptsOn]

/-- A recovery pass hands the channel every envelope of the durable store, and the channel
keeps tracking with what it took. -/
theorem Delivering.recover {cap : Nat} (h : Delivering cap w) (stamps : Nat → Stamp) :
    Delivering cap (w.step stamps .recover) := by
  obtain ⟨c, hc, htr⟩ := h
  simp only [step, call, Broker.recover_run]
  split
  · exact Delivering.of_quiet ⟨c, hc, htr⟩ rfl rfl (by simp [recoverEvents])
  · obtain ⟨c', hc', htr'⟩ := Transport.Tracks.handOver htr w.broker.durable.pending
    refine Delivering.of_tracks (c := c') (by simp [hc, hc']) rfl ?_ ?_
    · intro e he
      simp only [recoverEvents, resendEvents, List.mem_append, List.mem_map] at he
      rcases he with ⟨m, -, rfl⟩ | ⟨m, -, rfl⟩ <;> rfl
    · refine ⟨htr'.capacity, htr'.held, fun t => ?_⟩
      obtain ⟨hacc, hrcv, hatt⟩ := resendEvents_views w.broker t
      simp only [recoverEvents, hacc, hrcv, hatt, hc, List.append_nil]
      exact htr'.on t

/-- A recovery pass counts as resent exactly the envelopes it logs as taken by the transport. -/
theorem recover_resent {b : Broker} {r : RecoveryReport}
    (h : (Broker.recover.run.run b).1 = .ok r) :
    r.resent = (recoverEvents b (.ok r)).countP fun e => e matches .accepted _ := by
  rw [Broker.recover_run] at h
  split at h
  · cases h
  · cases h
    simp [recoverEvents, resendEvents, List.countP_append, List.countP_map, Function.comp_def]

/-! ## Every action keeps delivery -/

theorem addedEvents_isTransport (s : String) (r : Except BrokerError Unit) :
    ∀ e ∈ addedEvents s r, e.isTransport = false := by
  rcases r with _ | _ <;> simp [addedEvents, Event.isTransport]

theorem ackedEvents_isTransport (s id : String) (r : Except BrokerError Envelope) :
    ∀ e ∈ ackedEvents s id r, e.isTransport = false := by
  rcases r with _ | _ <;> simp [ackedEvents, Event.isTransport]

theorem Delivering.step {cap : Nat} (h : Delivering cap w) (stamps : Nat → Stamp) (a : Action) :
    Delivering cap (w.step stamps a) := by
  cases a with
  | addStrand s c =>
    exact h.of_quiet (Broker.addStrand_transport s c w.broker) rfl (addedEvents_isTransport s _)
  | send s p => exact h.send s p stamps
  | receive s => exact h.receive s stamps
  | acknowledge s id =>
    exact h.of_quiet (Broker.acknowledge_transport s id w.broker) rfl
      (ackedEvents_isTransport s id _)
  | removeStrand s => exact h.of_quiet (Broker.removeStrand_transport s w.broker) rfl (by simp)
  | recover => exact h.recover stamps
  | durability s => exact h.of_quiet (by simp [World.step, Broker.durability_run]) rfl (by simp)
  | strandConfig s => exact h.of_quiet (by simp [World.step, Broker.strandConfig_run]) rfl (by simp)
  | restart n => exact Delivering.restart n stamps
  | close d => exact h.of_quiet (by simp [World.step]) (List.append_nil _).symm (by simp)
  | reset d n => exact h.of_quiet (by simp [World.step]) (List.append_nil _).symm (by simp)
  | reload d n => exact h.of_quiet (by simp [World.step]) (List.append_nil _).symm (by simp)
  | block flag => exact h.of_quiet (by simp [World.step]) (List.append_nil _).symm (by simp)

theorem delivering_run {cap : Nat} (h : Delivering cap w) (stamps : Nat → Stamp)
    (acts : List Action) : Delivering cap (w.run stamps acts) :=
  run_invariant stamps (Delivering cap) (fun _ a hw => hw.step stamps a) h acts

/-! ## What the calls answer -/

/-- What receives returned is a prefix of what the transport took. -/
theorem Delivering.received_prefix {cap : Nat} (h : Delivering cap w) (s : String) :
    w.received s <+: w.accepted s := by
  obtain ⟨c, -, htr⟩ := h
  exact ⟨c.queueOf s, (htr.on s).append_queueOf⟩

/-- A send on a strand the broker finds is refused as `bufferFull` exactly when as many
envelopes as the capacity were taken and not received; otherwise it answers its envelope. -/
theorem Delivering.send_answer {cap : Nat} (h : Delivering cap w) {s : String} {d : Durability}
    (hh : w.broker.home s = .ok d) (p : String) (stamps : Nat → Stamp) :
    ((Broker.send s p stamps).run.run w.broker).1 =
      if (w.accepted s).length = (w.received s).length + max 1 (capacityOf cap w.log)
      then .error (.transport s (.bufferFull s)) else .ok (w.broker.draft stamps s p) := by
  obtain ⟨c, hc, htr⟩ := h
  obtain ⟨st, hs⟩ := Broker.save_draft_ok hh stamps p
  have hlen : (w.accepted s).length = (w.received s).length + (c.queueOf s).length := by
    rw [← (htr.on s).append_queueOf, List.length_append]
  have hle : (c.queueOf s).length ≤ max 1 (capacityOf cap w.log) :=
    htr.capacity ▸ (htr.on s).length_queueOf_le
  rw [Broker.send_run, hh]
  simp only [hs, hc, Transport.send_channel]
  cases hcs : c.send (w.broker.draft stamps s p) with
  | error e =>
    obtain ⟨rfl, hfull⟩ := Channel.send_error_cases hcs
    rw [htr.capacity, Broker.draft_strand] at hfull
    rw [if_pos (by omega)]
    rfl
  | ok c' =>
    obtain ⟨-, -, -, buf, hbuf, hlen', hq⟩ := Channel.send_ok_cases hcs
    rw [hq, List.length_append, htr.capacity, Broker.draft_strand] at hlen'
    rw [List.length_singleton] at hlen'
    rw [if_neg (by omega)]

/-- On a strand the broker finds, a receive polls the channel's buffer for the strand once. -/
theorem receive_channel {b : Broker} {s : String} {d : Durability} {c : Channel}
    (hh : b.home s = .ok d) (hc : b.transport = .channel c) (hheld : c.held = []) :
    ((Broker.receive s).run.run b).1 = match c.buffers.get? s with
      | none => .error (.messageUnavailable s (.noConnection s))
      | some buf => match buf.queue with
        | [] => .ok (.waiting buf.serial)
        | m :: _ => .ok (.ready m) := by
  rw [Broker.receive_run, hh]
  simp only [hc, Transport.poll_channel, Channel.poll_eq c s hheld]
  cases c.buffers.get? s with
  | none => rfl
  | some buf =>
    obtain ⟨n, q⟩ := buf
    cases q <;> rfl

/-- A receive fails as unavailable exactly when the transport was never handed an envelope of
the strand since it was last replaced. -/
theorem Delivering.receive_unavailable_iff {cap : Nat} (h : Delivering cap w) {s : String}
    {d : Durability} (hh : w.broker.home s = .ok d) :
    ((Broker.receive s).run.run w.broker).1 = .error (.messageUnavailable s (.noConnection s)) ↔
      w.attempted s = false := by
  obtain ⟨c, hc, htr⟩ := h
  rw [receive_channel hh hc htr.held, ← (htr.on s).get?_eq_none_iff]
  cases c.buffers.get? s with
  | none => simp
  | some buf =>
    obtain ⟨n, q⟩ := buf
    cases q <;> simp

/-- A receive waits when every envelope taken on the strand has been received. -/
theorem Delivering.receive_waits {cap : Nat} (h : Delivering cap w) {s : String} {d : Durability}
    (hh : w.broker.home s = .ok d) (hatt : w.attempted s = true)
    (hall : w.accepted s = w.received s) :
    ∃ n, ((Broker.receive s).run.run w.broker).1 = .ok (.waiting n) := by
  obtain ⟨c, hc, htr⟩ := h
  have hq : c.queueOf s = [] := by
    have happ := (htr.on s).append_queueOf
    rw [hall] at happ
    simpa using happ
  rw [receive_channel hh hc htr.held]
  cases hb : c.buffers.get? s with
  | none => simp [(htr.on s).get?_eq_none_iff.1 hb] at hatt
  | some buf =>
    have hbq : buf.queue = [] := by simpa [Channel.queueOf, hb] using hq
    exact ⟨buf.serial, by simp [hbq]⟩

/-- A receive returns the oldest envelope taken on the strand and not yet received. -/
theorem Delivering.receive_next {cap : Nat} (h : Delivering cap w) {s : String} {d : Durability}
    (hh : w.broker.home s = .ok d) {m : Envelope} (hnext : w.received s ++ [m] <+: w.accepted s) :
    ((Broker.receive s).run.run w.broker).1 = .ok (.ready m) := by
  obtain ⟨c, hc, htr⟩ := h
  obtain ⟨rest, hrest⟩ := hnext
  have hq : c.queueOf s = m :: rest := by
    have happ := (htr.on s).append_queueOf
    rw [← hrest, List.append_assoc] at happ
    simpa using List.append_cancel_left happ
  rw [receive_channel hh hc htr.held]
  cases hb : c.buffers.get? s with
  | none => simp [Channel.queueOf, hb] at hq
  | some buf =>
    have hbq : buf.queue = m :: rest := by simpa [Channel.queueOf, hb] using hq
    simp [hbq]

end World

open World in
/-- Over a channel transport, with a fresh channel after each restart, receives return exactly
the envelopes the transport took, strand by strand and in order. What receives on a strand
returned since the last restart is a prefix of what the transport took on it. On a strand the
broker finds, a send is refused as `bufferFull` exactly when as many envelopes as the capacity
are taken and not yet received. A receive fails as unavailable exactly when the transport was
never handed an envelope of the strand, waits when all were received, and otherwise returns the
next one. -/
theorem receives_follow_acceptance (stamps : Nat → Stamp) (cap : Nat) (b : Broker)
    (hb : b.transport = .channel (Channel.make cap)) (acts : List Action) (s : String) :
    let w := World.run stamps ⟨b, []⟩ acts
    w.received s <+: w.accepted s ∧
    ∀ d, w.broker.home s = .ok d →
      (∀ p, ((Broker.send s p stamps).run.run w.broker).1 =
        if (w.accepted s).length = (w.received s).length + max 1 (capacityOf cap w.log)
        then .error (.transport s (.bufferFull s)) else .ok (w.broker.draft stamps s p)) ∧
      (((Broker.receive s).run.run w.broker).1 = .error (.messageUnavailable s (.noConnection s)) ↔
        w.attempted s = false) ∧
      (w.attempted s = true → w.accepted s = w.received s →
        ∃ n, ((Broker.receive s).run.run w.broker).1 = .ok (.waiting n)) ∧
      (∀ m, w.received s ++ [m] <+: w.accepted s →
        ((Broker.receive s).run.run w.broker).1 = .ok (.ready m)) := by
  intro w
  have h : Delivering cap w := delivering_run (delivering_start hb) stamps acts
  exact ⟨h.received_prefix s, fun d hh => ⟨fun p => h.send_answer hh p stamps,
    h.receive_unavailable_iff hh, h.receive_waits hh, fun _ => h.receive_next hh⟩⟩

/-- Two sends and a receive on a broker over a fresh channel transport of capacity two. -/
theorem receives_follow_acceptance_after_two_sends :
    let b : Broker := ⟨.memory {}, .memory {}, .channel (Channel.make 2), Metrics.fresh, 0⟩
    let w := World.run (fun n => ⟨toString n, 0⟩) ⟨b, []⟩
      [.addStrand "a" {}, .send "a" "x", .send "a" "y", .receive "a"]
    b.transport = .channel (Channel.make 2) ∧ w.received "a" <+: w.accepted "a" := by
  intro b w
  exact ⟨rfl, (receives_follow_acceptance _ 2 b rfl _ "a").1⟩

end Courier
