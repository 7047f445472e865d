import Courier.Proofs.Op

/-!
# The channel transport, one strand at a time

A channel transport keeps one first-in first-out buffer per strand. `Channel.TracksOn` says what
a channel holds for one strand, measured against the envelopes it took and gave out on that
strand since it was made: a buffer exactly when it was handed an envelope of the strand, and in
the buffer, in order, what it took and has not given out yet, within its capacity.
`Channel.Tracks` says so of every strand, of a channel of capacity at least one on which no
receive waits.

A send, a receive and a hand-over of a list of envelopes (`Transport.handOver`) each keep
tracking, with the lists grown by what was taken and given out. The channel refuses an envelope
exactly when its strand's buffer is full (`send_ok_of_lt`, `send_error_cases`); so with a
capacity of at least one the first envelope handed over on a strand is always taken.
-/

namespace Courier

namespace Channel

/-- The envelopes waiting in a strand's buffer; none without one. -/
def queueOf (c : Channel) (s : String) : List Envelope := ((c.buffers.get? s).map (·.queue)).getD []

/-! ## Sending and receiving -/

/-- A send the channel took appends the envelope to its strand's buffer, made empty if there was
none, and changes no other strand's buffer. -/
theorem send_ok_cases {c c' : Channel} {m : Envelope} (h : c.send m = .ok c') :
    c'.capacity = c.capacity ∧ c'.held = c.held ∧
      (∀ t, m.strand ≠ t → c'.buffers.get? t = c.buffers.get? t) ∧
      ∃ buf, c'.buffers.get? m.strand = some buf ∧ buf.queue.length ≤ c.capacity ∧
        buf.queue = c.queueOf m.strand ++ [m] := by
  unfold send at h
  cases hb : c.buffers.get? m.strand with
  | none =>
    simp only [hb] at h
    split at h
    · cases h
    · rename_i hlen
      cases h
      refine ⟨rfl, rfl, fun t ht => by simp [ht], ⟨c.made + 1, [m]⟩, by simp, ?_,
        by simp [queueOf, hb]⟩
      simp at hlen ⊢
      omega
  | some buf =>
    simp only [hb] at h
    split at h
    · cases h
    · rename_i hlen
      cases h
      refine ⟨rfl, rfl, fun t ht => by simp [ht], { buf with queue := buf.queue ++ [m] },
        by simp, ?_, by simp [queueOf, hb]⟩
      simp at hlen ⊢
      omega

/-- The channel refuses an envelope only as `bufferFull`, when its strand's buffer is full. -/
theorem send_error_cases {c : Channel} {m : Envelope} {e : TransportError}
    (h : c.send m = .error e) :
    e = .bufferFull m.strand ∧ c.capacity ≤ (c.queueOf m.strand).length := by
  unfold send at h
  cases hb : c.buffers.get? m.strand with
  | none =>
    simp only [hb] at h
    split at h
    · rename_i hlen
      cases h
      refine ⟨rfl, ?_⟩
      simpa [queueOf, hb] using hlen
    · cases h
  | some buf =>
    simp only [hb] at h
    split at h
    · rename_i hlen
      cases h
      exact ⟨rfl, by simpa [queueOf, hb] using hlen⟩
    · cases h

/-- The channel takes an envelope whose strand's buffer has room. -/
theorem send_ok_of_lt {c : Channel} {m : Envelope} (h : (c.queueOf m.strand).length < c.capacity) :
    ∃ c', c.send m = .ok c' := by
  cases hs : c.send m with
  | ok c' => exact ⟨c', rfl⟩
  | error e => exact absurd (send_error_cases hs).2 (Nat.not_le.2 h)

/-- A receive takes the oldest envelope of the strand's buffer, or waits on an empty one; a
strand without a buffer has no connection. -/
theorem poll_eq (c : Channel) (s : String) (hheld : c.held = []) :
    c.poll s = match c.buffers.get? s with
      | none => .error (.noConnection s)
      | some b => match b.queue with
        | [] => .ok (.waiting b.serial, c)
        | m :: rest =>
          .ok (.ready m, { c with buffers := c.buffers.insert s { b with queue := rest } }) := by
  unfold poll
  cases c.buffers.get? s with
  | none => rfl
  | some b =>
    obtain ⟨n, q⟩ := b
    cases q <;> simp [hheld]

/-! ## Tracking one strand -/

/-- What a channel holds for strand `s`, against the envelopes it took (`acc`) and gave out
(`rcv`) on `s`: a buffer exactly when it was handed an envelope of `s` (`att`), holding what it
took and has not given out, within capacity. -/
def TracksOn (c : Channel) (s : String) (acc rcv : List Envelope) (att : Bool) : Prop :=
  match c.buffers.get? s with
  | none => att = false ∧ acc = [] ∧ rcv = []
  | some buf => att = true ∧ rcv ++ buf.queue = acc ∧ buf.queue.length ≤ c.capacity

variable {c c' : Channel} {s : String} {acc rcv : List Envelope} {att : Bool}

theorem TracksOn.append_queueOf (h : c.TracksOn s acc rcv att) : rcv ++ c.queueOf s = acc := by
  unfold TracksOn at h
  unfold queueOf
  cases hb : c.buffers.get? s with
  | none => simp only [hb] at h; simp [h.2.1, h.2.2]
  | some buf => simp only [hb] at h; simpa using h.2.1

theorem TracksOn.length_queueOf_le (h : c.TracksOn s acc rcv att) :
    (c.queueOf s).length ≤ c.capacity := by
  unfold TracksOn at h
  unfold queueOf
  cases hb : c.buffers.get? s with
  | none => simp
  | some buf => simp only [hb] at h; simpa using h.2.2

theorem TracksOn.get?_eq_none_iff (h : c.TracksOn s acc rcv att) :
    c.buffers.get? s = none ↔ att = false := by
  unfold TracksOn at h
  cases hb : c.buffers.get? s with
  | none => simp only [hb] at h; simp [h.1]
  | some buf => simp only [hb] at h; simp [h.1]

theorem TracksOn.congr (h : c.TracksOn s acc rcv att) (hg : c'.buffers.get? s = c.buffers.get? s)
    (hcap : c'.capacity = c.capacity) : c'.TracksOn s acc rcv att := by
  unfold TracksOn at h ⊢
  rw [hg, hcap]
  exact h

/-- A send the channel took grows what it took on the envelope's strand. -/
theorem TracksOn.send {m : Envelope} (hs : c.send m = .ok c') (h : c.TracksOn s acc rcv att) :
    c'.TracksOn s (if m.strand = s then acc ++ [m] else acc) rcv (att || decide (m.strand = s)) := by
  obtain ⟨hcap, -, hother, buf, hbuf, hlen, hq⟩ := send_ok_cases hs
  by_cases hms : m.strand = s
  · subst hms
    unfold TracksOn
    rw [hbuf]
    refine ⟨by simp, ?_, by rw [hcap]; exact hlen⟩
    rw [hq, ← List.append_assoc, h.append_queueOf, if_pos rfl]
  · simpa [hms] using h.congr (hother s hms) hcap

/-- A send the channel refused found its strand's buffer full, so the strand had one. -/
theorem TracksOn.send_error {m : Envelope} {e : TransportError} (hcap : 1 ≤ c.capacity)
    (hs : c.send m = .error e) (h : c.TracksOn s acc rcv att) :
    c.TracksOn s acc rcv (att || decide (m.strand = s)) := by
  by_cases hms : m.strand = s
  · subst hms
    have hfull := (send_error_cases hs).2
    have hatt : att = true := by
      cases hb : c.buffers.get? m.strand with
      | none => simp [queueOf, hb] at hfull; omega
      | some buf => unfold TracksOn at h; simp only [hb] at h; exact h.1
    simpa [hatt] using h
  · simpa [hms] using h

/-- A receive that returned an envelope gave out the oldest one of its strand's buffer. -/
theorem poll_ready_cases {m : Envelope} (hp : c.poll s = .ok (.ready m, c')) :
    c'.capacity = c.capacity ∧ c'.held = c.held ∧
      (∀ t, s ≠ t → c'.buffers.get? t = c.buffers.get? t) ∧
      ∃ buf rest, c.buffers.get? s = some buf ∧ buf.queue = m :: rest ∧
        c'.buffers.get? s = some { buf with queue := rest } := by
  unfold poll at hp
  cases hb : c.buffers.get? s with
  | none => simp [hb] at hp
  | some buf =>
    simp only [hb] at hp
    split at hp
    · cases hp
    · split at hp
      · cases hp
      · rename_i m' rest hq
        simp only [Except.ok.injEq, Prod.mk.injEq, Polled.ready.injEq] at hp
        obtain ⟨rfl, rfl⟩ := hp
        exact ⟨rfl, rfl, fun t ht => by simp [ht], buf, rest, rfl, hq, by simp⟩

/-- A receive that waits leaves the channel as it was. -/
theorem poll_waiting_eq {n : Nat} (hp : c.poll s = .ok (.waiting n, c')) : c' = c := by
  unfold poll at hp
  cases hb : c.buffers.get? s with
  | none => simp [hb] at hp
  | some buf =>
    simp only [hb] at hp
    split at hp
    · simp only [Except.ok.injEq, Prod.mk.injEq] at hp
      exact hp.2.symm
    · split at hp
      · simp only [Except.ok.injEq, Prod.mk.injEq] at hp
        exact hp.2.symm
      · simp at hp

theorem TracksOn.receive {m : Envelope} (hp : c.poll s = .ok (.ready m, c')) {t : String}
    (h : c.TracksOn t acc rcv att) :
    c'.TracksOn t acc (if s = t then rcv ++ [m] else rcv) att := by
  obtain ⟨hcap, -, hother, buf, rest, hb, hq, hb'⟩ := poll_ready_cases hp
  by_cases hst : s = t
  · subst hst
    unfold TracksOn at h ⊢
    rw [hb] at h
    rw [hb', hcap, if_pos rfl]
    obtain ⟨hatt, hacc, hlen⟩ := h
    refine ⟨hatt, ?_, ?_⟩
    · rw [← hacc, hq]; simp
    · show rest.length ≤ c.capacity
      simp only [hq, List.length_cons] at hlen
      omega
  · simpa [hst] using h.congr (hother t hst) hcap

/-! ## Tracking every strand -/

/-- A channel of capacity `max 1 cap` on which no receive waits, tracking every strand against
`acc`, `rcv` and `att`. -/
structure Tracks (c : Channel) (cap : Nat) (acc rcv : String → List Envelope)
    (att : String → Bool) : Prop where
  capacity : c.capacity = max 1 cap
  held : c.held = []
  on : ∀ s, c.TracksOn s (acc s) (rcv s) (att s)

theorem Tracks.one_le_capacity {cap : Nat} {acc rcv : String → List Envelope}
    {att : String → Bool} (h : c.Tracks cap acc rcv att) : 1 ≤ c.capacity := by
  rw [h.capacity]; exact Nat.le_max_left 1 cap

/-- A fresh channel has taken, given out and been handed nothing. -/
theorem tracks_make (cap : Nat) : (make cap).Tracks cap (fun _ => []) (fun _ => []) (fun _ => false) :=
  ⟨rfl, rfl, fun _ => ⟨rfl, rfl, rfl⟩⟩

end Channel

namespace Transport

open Channel

theorem send_channel (c : Channel) (m : Envelope) :
    (Transport.channel c).send m = match c.send m with
      | .ok c' => .ok (.channel c')
      | .error e => .error e := by
  cases h : c.send m <;> simp [Transport.send, h, Functor.map, Except.map]

theorem send_channel_error {c : Channel} {m : Envelope} {e : TransportError}
    (h : (Transport.channel c).send m = .error e) : c.send m = .error e := by
  cases hs : c.send m with
  | ok c' => simp only [send_channel, hs] at h; cases h
  | error e' => simp only [send_channel, hs] at h; cases h; rfl

theorem send_channel_ok {c : Channel} {m : Envelope} {t : Transport}
    (h : (Transport.channel c).send m = .ok t) : ∃ c', c.send m = .ok c' ∧ t = .channel c' := by
  cases hs : c.send m with
  | ok c' => simp only [send_channel, hs] at h; cases h; exact ⟨c', rfl, rfl⟩
  | error e' => simp only [send_channel, hs] at h; cases h

theorem poll_channel (c : Channel) (s : String) :
    (Transport.channel c).poll s = match c.poll s with
      | .ok (p, c') => .ok (p, .channel c')
      | .error e => .error e := by
  cases h : c.poll s with
  | error e => simp [Transport.poll, h, Functor.map, Except.map]
  | ok r => obtain ⟨p, c'⟩ := r; simp [Transport.poll, h, Functor.map, Except.map]

theorem handOver_cons_ok {c c' : Channel} {m : Envelope} (hs : c.send m = .ok c')
    (ms : List Envelope) :
    (Transport.channel c).handOver (m :: ms) =
      (((Transport.channel c').handOver ms).1, m :: ((Transport.channel c').handOver ms).2) := by
  simp [handOver, Transport.send, hs, Functor.map, Except.map]

theorem handOver_cons_error {c : Channel} {m : Envelope} {e : TransportError}
    (hs : c.send m = .error e) (ms : List Envelope) :
    (Transport.channel c).handOver (m :: ms) = (Transport.channel c).handOver ms := by
  simp [handOver, Transport.send, hs, Functor.map, Except.map]

/-- Handing a channel a list of envelopes one by one keeps it a channel that tracks every
strand: it has taken, on each strand, the envelopes of that strand it took, in order, and was
handed envelopes of every strand of the list. -/
theorem Tracks.handOver {c : Channel} {cap : Nat} {acc rcv : String → List Envelope}
    {att : String → Bool} (h : c.Tracks cap acc rcv att) (ms : List Envelope) :
    ∃ c', ((Transport.channel c).handOver ms).1 = .channel c' ∧
      c'.Tracks cap (fun s => acc s ++ ((Transport.channel c).handOver ms).2.filter (·.strand = s))
        rcv (fun s => att s || ms.any (·.strand = s)) := by
  induction ms generalizing c acc att with
  | nil => exact ⟨c, rfl, by simpa [Transport.handOver] using h⟩
  | cons m rest ih =>
    cases hs : c.send m with
    | ok c₁ =>
      have h₁ : c₁.Tracks cap (fun s => if m.strand = s then acc s ++ [m] else acc s) rcv
          (fun s => att s || decide (m.strand = s)) := by
        obtain ⟨hcap, hheld, -⟩ := send_ok_cases hs
        exact ⟨hcap.trans h.capacity, hheld.trans h.held, fun s => (h.on s).send hs⟩
      obtain ⟨c', hc', ht⟩ := ih h₁
      refine ⟨c', by rw [handOver_cons_ok hs, hc'], ?_⟩
      -- the envelope taken first joins its strand's list ahead of the rest
      have hacc : (fun s => acc s ++ ((channel c).handOver (m :: rest)).2.filter (·.strand = s)) =
          fun s => (if m.strand = s then acc s ++ [m] else acc s) ++
            ((channel c₁).handOver rest).2.filter (·.strand = s) := by
        funext s
        rw [handOver_cons_ok hs]
        by_cases hms : m.strand = s <;> simp [hms]
      have hatt : (fun s => att s || (m :: rest).any (·.strand = s)) =
          fun s => att s || decide (m.strand = s) || rest.any (·.strand = s) := by
        funext s
        simp [List.any_cons, Bool.or_assoc]
      rw [hacc, hatt]
      exact ht
    | error e =>
      have h₁ : c.Tracks cap acc rcv (fun s => att s || decide (m.strand = s)) :=
        ⟨h.capacity, h.held, fun s => (h.on s).send_error h.one_le_capacity hs⟩
      obtain ⟨c', hc', ht⟩ := ih h₁
      refine ⟨c', by rw [handOver_cons_error hs, hc'], ?_⟩
      have hatt : (fun s => att s || (m :: rest).any (·.strand = s)) =
          fun s => att s || decide (m.strand = s) || rest.any (·.strand = s) := by
        funext s
        simp [List.any_cons, Bool.or_assoc]
      rw [handOver_cons_error hs, hatt]
      exact ht

end Transport

end Courier
