import Mathlib
import Courier.Proofs.Transport
import Courier.Proofs.Keyed

/-!
# The channel as a map of bounded queues

Seen from outside, a channel transport is a map from strands to first-in first-out lists
(`Channel.queues`): a send appends to its strand's list, made empty if there was none, while the
list is shorter than the capacity, and is refused as `bufferFull` otherwise; a receive on which
no other receive waits pops the head of the list, waits on an empty one and has no connection
without one; closing a strand or every strand takes the lists away. Every list stays within the
capacity, which is the configured one with zero taken as one (`Channel.Bounded`).

A receive that waits remembers the serial of the buffer it waits on. When that buffer is closed
it is kept aside, and the receive drains what it had left, oldest first, and is then told the
strand is closed; nothing else adds to it or takes from it. This needs serials to tell buffers
apart, open or closed (`Channel.Fresh`): a buffer gets a serial never used before, so a closed
buffer is never confused with a later buffer of its strand.

Both invariants hold after every call (`Channel.step`), whatever the interleaving of sends,
receives, waiting receives and closes.
-/

namespace Courier.Channel

/-! ## The map a channel holds -/

/-- What a channel holds for each strand: the list of its buffer, oldest first; nothing for a
strand without a buffer. -/
def queues (c : Channel) (s : String) : Option (List Envelope) := (c.buffers.get? s).map (·.queue)

/-- A send the channel took appends the envelope to its strand's list, made empty if there was
none. -/
theorem queues_of_send_ok {c c' : Channel} {m : Envelope} (h : c.send m = .ok c') :
    c'.queues = Function.update c.queues m.strand (some (c.queueOf m.strand ++ [m])) := by
  obtain ⟨-, -, hother, buf, hbuf, -, hq⟩ := send_ok_cases h
  funext t
  by_cases ht : t = m.strand
  · subst ht
    simp [queues, hbuf, hq]
  · simp [queues, Function.update_of_ne ht, hother t (Ne.symm ht)]

/-- A receive that returned an envelope popped the head of its strand's list. -/
theorem queues_of_poll_ready {c c' : Channel} {s : String} {m : Envelope}
    (h : c.poll s = .ok (.ready m, c')) :
    ∃ rest, c.queues s = some (m :: rest) ∧
      c'.queues = Function.update c.queues s (some rest) := by
  obtain ⟨-, -, hother, buf, rest, hb, hq, hb'⟩ := poll_ready_cases h
  refine ⟨rest, by simp [queues, hb, hq], funext fun t => ?_⟩
  by_cases ht : t = s
  · subst ht
    simp [queues, hb']
  · simp [queues, Function.update_of_ne ht, hother t (Ne.symm ht)]

theorem queues_closeStrand (c : Channel) (s : String) :
    (c.closeStrand s).queues = Function.update c.queues s none := by
  funext t
  by_cases ht : t = s
  · subst ht
    simp [queues, closeStrand]
  · simp [queues, closeStrand, Function.update_of_ne ht, Ne.symm ht]

theorem queues_reset (c : Channel) : c.reset.queues = fun _ => none := by
  funext t
  rfl

theorem pending_eq (c : Channel) (s : String) : c.pending s = (c.queueOf s).length := by
  unfold pending queueOf
  cases c.buffers.get? s <;> rfl

/-- The channel takes an envelope whose strand's list is shorter than the capacity. -/
theorem send_of_lt {c : Channel} {m : Envelope} (h : (c.queueOf m.strand).length < c.capacity) :
    ∃ c', c.send m = .ok c' ∧
      c'.queues = Function.update c.queues m.strand (some (c.queueOf m.strand ++ [m])) := by
  obtain ⟨c', hc'⟩ := send_ok_of_lt h
  exact ⟨c', hc', queues_of_send_ok hc'⟩

/-- The channel refuses an envelope whose strand's list is full, as `bufferFull`. -/
theorem send_of_le {c : Channel} {m : Envelope} (h : c.capacity ≤ (c.queueOf m.strand).length) :
    c.send m = .error (.bufferFull m.strand) := by
  cases hs : c.send m with
  | ok c' =>
    obtain ⟨-, -, -, buf, -, hlen, hq⟩ := send_ok_cases hs
    rw [hq, List.length_append, List.length_singleton] at hlen
    omega
  | error e => rw [(send_error_cases hs).1]

section Poll

variable {c : Channel} {s : String}

/-- With no receive waiting, a receive has no connection exactly on a strand without a list. -/
theorem poll_noConnection_iff (hheld : c.held = []) :
    c.poll s = .error (.noConnection s) ↔ c.queues s = none := by
  rw [poll_eq c s hheld]
  unfold queues
  cases c.buffers.get? s with
  | none => simp
  | some b =>
    obtain ⟨k, q⟩ := b
    cases q <;> simp

/-- With no receive waiting, a receive pops the head of a non-empty list. -/
theorem poll_of_cons (hheld : c.held = []) {x : Envelope} {rest : List Envelope}
    (hq : c.queues s = some (x :: rest)) :
    ∃ c', c.poll s = .ok (.ready x, c') ∧
      c'.queues = Function.update c.queues s (some rest) := by
  obtain ⟨b, hb, hbq⟩ : ∃ b, c.buffers.get? s = some b ∧ b.queue = x :: rest := by
    simpa [queues] using hq
  have hp : c.poll s =
      .ok (.ready x, { c with buffers := c.buffers.insert s { b with queue := rest } }) := by
    rw [poll_eq c s hheld]
    simp [hb, hbq]
  obtain ⟨rest', hq', hview⟩ := queues_of_poll_ready hp
  rw [hq, Option.some.injEq, List.cons.injEq] at hq'
  rw [← hq'.2] at hview
  exact ⟨_, hp, hview⟩

/-- With no receive waiting, a receive on an empty list waits, leaving the channel as it was. -/
theorem poll_of_nil (hheld : c.held = []) (hq : c.queues s = some []) :
    ∃ k, c.poll s = .ok (.waiting k, c) := by
  obtain ⟨b, hb, hbq⟩ : ∃ b, c.buffers.get? s = some b ∧ b.queue = [] := by
    simpa [queues] using hq
  exact ⟨b.serial, by rw [poll_eq c s hheld]; simp [hb, hbq]⟩

end Poll

/-! ## Calls -/

/-- A call on a channel, or a step of a receive that waits: taking its turn on a buffer, letting
go of it, or looking again. -/
inductive Call where
  | send (m : Envelope)
  | poll (s : String)
  | pending (s : String)
  | closeStrand (s : String)
  | reset
  | hold (serial : Nat)
  | release (serial : Nat)
  | resume (s : String) (serial : Nat)

/-- Whether a call is one a caller makes that polls once and never waits: any call but the
steps of a waiting receive. -/
def Call.isSinglePoll : Call → Bool
  | .hold _ | .release _ | .resume _ _ => false
  | _ => true

/-- The channel after a call; a refused send or receive leaves it as it was. -/
def step (c : Channel) : Call → Channel
  | .send m => (c.send m).toOption.getD c
  | .poll s => ((c.poll s).toOption.map (·.2)).getD c
  | .pending _ => c
  | .closeStrand s => c.closeStrand s
  | .reset => c.reset
  | .hold k => c.hold k
  | .release k => c.release k
  | .resume s k => (c.resume s k).2

/-- The channel after a run of calls. -/
def run (c : Channel) (ops : List Call) : Channel := ops.foldl step c

@[simp] theorem run_cons (c : Channel) (op : Call) (ops : List Call) :
    c.run (op :: ops) = (c.step op).run ops := rfl

/-- A send leaves the channel as it was, when refused, or is the channel the send made. -/
theorem step_send_cases (c : Channel) (m : Envelope) :
    c.step (.send m) = c ∨ c.send m = .ok (c.step (.send m)) := by
  cases h : c.send m <;> simp [step, h, Except.toOption]

/-- A receive leaves the channel as it was, unless it popped an envelope. -/
theorem step_poll_cases (c : Channel) (s : String) :
    c.step (.poll s) = c ∨ ∃ m, c.poll s = .ok (.ready m, c.step (.poll s)) := by
  cases h : c.poll s with
  | error e => simp [step, h, Except.toOption]
  | ok r =>
    obtain ⟨p, c'⟩ := r
    cases p with
    | ready m => exact .inr ⟨m, by simp [step, h, Except.toOption]⟩
    | waiting k =>
      left
      simp [step, h, Except.toOption, poll_waiting_eq h]

/-- Held turns only change through `hold`, `release` and `resume`; every other call keeps
them. -/
theorem step_held_of_isSinglePoll (c : Channel) {op : Call} (hop : op.isSinglePoll = true) :
    (c.step op).held = c.held := by
  cases op with
  | send m =>
    rcases step_send_cases c m with h | h
    · rw [h]
    · exact (send_ok_cases h).2.1
  | poll s =>
    rcases step_poll_cases c s with h | ⟨m, h⟩
    · rw [h]
    · exact (poll_ready_cases h).2.1
  | pending s => rfl
  | closeStrand s => rfl
  | reset => rfl
  | hold k => simp [Call.isSinglePoll] at hop
  | release k => simp [Call.isSinglePoll] at hop
  | resume s k => simp [Call.isSinglePoll] at hop

theorem run_held_of_isSinglePoll (c : Channel) {ops : List Call}
    (hops : ∀ op ∈ ops, op.isSinglePoll = true) : (c.run ops).held = c.held := by
  induction ops generalizing c with
  | nil => rfl
  | cons op ops ih =>
    rw [run_cons, ih (c.step op) fun o ho => hops o (List.mem_cons_of_mem op ho),
      step_held_of_isSinglePoll c (hops op List.mem_cons_self)]

/-! ## What each call makes of the channel -/

section Calls

variable {c c' : Channel} {s : String} {k : Nat} {m : Envelope}

/-- A send the channel took, written out: the strand's buffer, or a new one with the next
serial, gets the envelope at its end. -/
theorem send_ok_eq (h : c.send m = .ok c') :
    (∃ b, c.buffers.get? m.strand = some b ∧
      c' = { c with buffers := c.buffers.insert m.strand { b with queue := b.queue ++ [m] } }) ∨
    (c.buffers.get? m.strand = none ∧
      c' = { c with made := c.made + 1, buffers :=
          ((c.buffers.insert m.strand ⟨c.made + 1, []⟩).insert m.strand
            ⟨c.made + 1, [m]⟩) }) := by
  unfold send at h
  cases hb : c.buffers.get? m.strand with
  | none =>
    simp only [hb] at h
    split at h
    · cases h
    · cases h
      exact .inr ⟨rfl, rfl⟩
  | some b =>
    simp only [hb] at h
    split at h
    · cases h
    · cases h
      exact .inl ⟨b, rfl, rfl⟩

/-- A receive that returned an envelope, written out: the strand's buffer loses its head. -/
theorem poll_ready_eq (h : c.poll s = .ok (.ready m, c')) :
    ∃ b rest, c.buffers.get? s = some b ∧ b.queue = m :: rest ∧
      c' = { c with buffers := c.buffers.insert s { b with queue := rest } } := by
  unfold poll at h
  cases hb : c.buffers.get? s with
  | none => simp [hb] at h
  | some b =>
    simp only [hb] at h
    split at h
    · cases h
    · split at h
      · cases h
      · rename_i m' rest hq
        simp only [Except.ok.injEq, Prod.mk.injEq, Polled.ready.injEq] at h
        obtain ⟨rfl, rfl⟩ := h
        exact ⟨b, rest, rfl, hq, rfl⟩

/-- A receive waiting on a buffer that is no longer the open buffer of its strand drains it. -/
theorem resume_of_ne (h : ∀ b, c.buffers.get? s = some b → b.serial ≠ k) :
    c.resume s k = c.drain s k := by
  unfold resume
  cases hb : c.buffers.get? s with
  | none => rfl
  | some b => simp only [if_neg (h b hb)]

/-- A waiting receive that looks again finds its buffer still open and empty, and keeps
waiting; or finds it open and pops its head; or drains it, closed. -/
theorem resume_cases (c : Channel) (s : String) (k : Nat) :
    c.resume s k = (none, c) ∨
    (∃ b m rest, c.buffers.get? s = some b ∧ b.serial = k ∧ b.queue = m :: rest ∧
      c.resume s k =
        (some (.ok m), { c with buffers := c.buffers.insert s { b with queue := rest } })) ∨
    (c.resume s k = c.drain s k ∧ ∀ b, c.buffers.get? s = some b → b.serial ≠ k) := by
  cases hb : c.buffers.get? s with
  | none => exact .inr (.inr ⟨resume_of_ne (by simp [hb]), by simp⟩)
  | some b =>
    by_cases hk : b.serial = k
    · cases hq : b.queue with
      | nil =>
        left
        simp only [resume, hb, if_pos hk, hq]
      | cons x rest =>
        exact .inr (.inl ⟨b, x, rest, rfl, hk, hq, by simp only [resume, hb, if_pos hk, hq]⟩)
    · exact .inr (.inr ⟨resume_of_ne (by simp [hb, hk]), by simp [hk]⟩)

theorem drain_of_nil (h : c.leftIn k = []) : c.drain s k = (some (.error (.closed s)), c) := by
  simp only [drain, h]

theorem drain_of_cons {rest : List Envelope} (h : c.leftIn k = m :: rest) :
    c.drain s k = (some (.ok m), { c with orphans := c.orphans.map fun o =>
      if o.serial == k then { o with queue := rest } else o }) := by
  simp only [drain, h]

end Calls

/-! ## Every list within the capacity -/

/-- A channel of capacity `max 1 n` whose every list is within the capacity. -/
structure Bounded (c : Channel) (n : Nat) : Prop where
  capacity : c.capacity = max 1 n
  fits : ∀ s q, c.queues s = some q → q.length ≤ c.capacity

section Bounded

variable {c c' : Channel} {n : Nat}

theorem bounded_make (n : Nat) : (make n).Bounded n where
  capacity := rfl
  fits s q h := by simp [queues, make] at h

/-- A change that keeps the capacity and only shortens or removes lists keeps them within it. -/
theorem Bounded.of_shrink (h : c.Bounded n) (hcap : c'.capacity = c.capacity)
    (hsub : ∀ s q, c'.queues s = some q →
      ∃ q', c.queues s = some q' ∧ q.length ≤ q'.length) :
    c'.Bounded n where
  capacity := hcap.trans h.capacity
  fits s q hq := by
    obtain ⟨q', hq', hle⟩ := hsub s q hq
    rw [hcap]
    exact hle.trans (h.fits s q' hq')

/-- Popping the head of a strand's list keeps every list within the capacity. -/
theorem Bounded.pop (h : c.Bounded n) {s : String} {b : Buffer} {x : Envelope}
    {rest : List Envelope} (hb : c.buffers.get? s = some b) (hq : b.queue = x :: rest) :
    ({ c with buffers := c.buffers.insert s { b with queue := rest } } : Channel).Bounded n := by
  refine h.of_shrink rfl fun t q ht => ?_
  by_cases hst : s = t
  · subst hst
    simp [queues] at ht
    subst ht
    exact ⟨b.queue, by simp [queues, hb], by simp [hq]⟩
  · exact ⟨q, by simpa [queues, hst] using ht, le_rfl⟩

theorem Bounded.send (h : c.Bounded n) {m : Envelope} (hs : c.send m = .ok c') : c'.Bounded n := by
  obtain ⟨hcap, -, hother, buf, hbuf, hlen, -⟩ := send_ok_cases hs
  refine ⟨hcap.trans h.capacity, fun t q ht => ?_⟩
  rw [hcap]
  by_cases hst : m.strand = t
  · subst hst
    simp only [queues, hbuf, Option.map_some, Option.some.injEq] at ht
    exact ht ▸ hlen
  · exact h.fits t q (by simpa [queues, hother t hst] using ht)

theorem Bounded.step (h : c.Bounded n) (op : Call) : (c.step op).Bounded n := by
  cases op with
  | send m =>
    rcases step_send_cases c m with he | he
    · rw [he]; exact h
    · exact h.send he
  | poll s =>
    rcases step_poll_cases c s with he | ⟨x, he⟩
    · rw [he]; exact h
    · obtain ⟨b, rest, hb, hq, he'⟩ := poll_ready_eq he
      rw [he']
      exact h.pop hb hq
  | pending s => exact h
  | closeStrand s =>
    refine h.of_shrink rfl fun t q ht => ⟨q, ?_, le_rfl⟩
    rw [Channel.step, queues_closeStrand] at ht
    by_cases hts : t = s
    · subst hts; simp at ht
    · rwa [Function.update_of_ne hts] at ht
  | reset => exact h.of_shrink rfl fun t q ht => by simp [Channel.step, queues_reset] at ht
  | hold k => exact ⟨h.capacity, h.fits⟩
  | release k => exact ⟨h.capacity, h.fits⟩
  | resume s k =>
    rcases resume_cases c s k with he | ⟨b, x, rest, hb, -, hq, he⟩ | ⟨he, -⟩
    · simp only [Channel.step, he]; exact h
    · simp only [Channel.step, he]; exact h.pop hb hq
    · simp only [Channel.step, he]
      unfold drain
      split
      · exact h
      · exact ⟨h.capacity, h.fits⟩

theorem Bounded.run (h : c.Bounded n) (ops : List Call) : (c.run ops).Bounded n := by
  induction ops generalizing c with
  | nil => exact h
  | cons op ops ih => exact ih (h.step op)

end Bounded

/-! ## Serials tell buffers apart -/

/-- Serials tell buffers apart: every buffer, open or kept aside, has a serial the channel has
made; no two open buffers share one; and no buffer kept aside shares one with an open buffer.
The keys of the open buffers increase, so each buffer listed is the one its key finds. -/
structure Fresh (c : Channel) : Prop where
  sorted : c.buffers.Sorted
  below : ∀ s b, c.buffers.get? s = some b → b.serial ≤ c.made
  distinct : ∀ s t b b', c.buffers.get? s = some b → c.buffers.get? t = some b' →
    b.serial = b'.serial → s = t
  orphan_below : ∀ o ∈ c.orphans, o.serial ≤ c.made
  orphan_ne : ∀ s b, c.buffers.get? s = some b → ∀ o ∈ c.orphans, o.serial ≠ b.serial

section Fresh

variable {c c' : Channel}

theorem fresh_make (n : Nat) : (make n).Fresh where
  sorted := Keyed.sorted_mk_nil
  below s b h := by simp [make] at h
  distinct s t b b' h := by simp [make] at h
  orphan_below o h := by simp [make] at h
  orphan_ne s b h := by simp [make] at h

/-- A change keeps serials apart when the open buffers after it are open buffers from before,
under the same strand and serial, or buffers of one strand `s` with a serial the change made,
and the buffers kept aside after it are ones from before, or open buffers it closed, under
their serial. -/
theorem Fresh.of_step (h : c.Fresh) (s : String) (hsorted : c'.buffers.Sorted)
    (hmade : c.made ≤ c'.made)
    (hbuf : ∀ t b', c'.buffers.get? t = some b' →
      (∃ b, c.buffers.get? t = some b ∧ b'.serial = b.serial) ∨
        (t = s ∧ c.made < b'.serial ∧ b'.serial ≤ c'.made))
    (horph : ∀ o' ∈ c'.orphans, (∃ o ∈ c.orphans, o'.serial = o.serial) ∨
      ∃ t b, c.buffers.get? t = some b ∧ o'.serial = b.serial ∧ c'.buffers.get? t = none) :
    c'.Fresh where
  sorted := hsorted
  below t b' hb' := by
    rcases hbuf t b' hb' with ⟨b, hb, hser⟩ | ⟨-, -, hle⟩
    · rw [hser]
      exact (h.below t b hb).trans hmade
    · exact hle
  distinct t u b' b'' h1 h2 heq := by
    rcases hbuf t b' h1 with ⟨b1, hb1, hs1⟩ | ⟨rfl, hlt1, -⟩ <;>
      rcases hbuf u b'' h2 with ⟨b2, hb2, hs2⟩ | ⟨rfl, hlt2, -⟩
    · exact h.distinct t u b1 b2 hb1 hb2 (by rw [← hs1, ← hs2, heq])
    · have := h.below t b1 hb1
      omega
    · have := h.below u b2 hb2
      omega
    · rfl
  orphan_below o' ho' := by
    rcases horph o' ho' with ⟨o, ho, hser⟩ | ⟨t, b, hb, hser, -⟩
    · rw [hser]
      exact (h.orphan_below o ho).trans hmade
    · rw [hser]
      exact (h.below t b hb).trans hmade
  orphan_ne t b' hb' o' ho' := by
    rcases hbuf t b' hb' with ⟨b1, hb1, hs1⟩ | ⟨-, hlt, -⟩ <;>
      rcases horph o' ho' with ⟨o, ho, hso⟩ | ⟨u, b2, hb2, hso, hgone⟩
    · rw [hso, hs1]
      exact h.orphan_ne t b1 hb1 o ho
    · -- a closed buffer with the serial of an open one was that strand's buffer, now gone
      intro heq
      have hut : u = t := h.distinct u t b2 b1 hb2 hb1 (by rw [← hso, heq, hs1])
      subst hut
      rw [hgone] at hb'
      cases hb'
    · have := h.orphan_below o ho
      omega
    · have := h.below u b2 hb2
      omega

/-- Replacing the list of an open buffer keeps serials apart. -/
theorem Fresh.requeue (h : c.Fresh) {s : String} {b : Buffer} (hb : c.buffers.get? s = some b)
    (q : List Envelope) :
    ({ c with buffers := c.buffers.insert s { b with queue := q } } : Channel).Fresh := by
  refine h.of_step s (h.sorted.insert _ _) le_rfl (fun t b' hb' => .inl ?_)
    (fun o' ho' => .inl ⟨o', ho', rfl⟩)
  by_cases hst : s = t
  · subst hst
    simp at hb'
    subst hb'
    exact ⟨b, hb, rfl⟩
  · exact ⟨b', by simpa [hst] using hb', rfl⟩

theorem Fresh.send (h : c.Fresh) {m : Envelope} (hs : c.send m = .ok c') : c'.Fresh := by
  rcases send_ok_eq hs with ⟨b, hb, rfl⟩ | ⟨-, rfl⟩
  · exact h.requeue hb _
  · -- a new buffer, with the serial just made
    refine h.of_step m.strand ((h.sorted.insert _ _).insert _ _) (Nat.le_succ _)
      (fun t b' hb' => ?_) (fun o' ho' => .inl ⟨o', ho', rfl⟩)
    by_cases hst : m.strand = t
    · subst hst
      simp at hb'
      subst hb'
      exact .inr ⟨rfl, Nat.lt_succ_self _, le_rfl⟩
    · exact .inl ⟨b', by simpa [hst] using hb', rfl⟩

theorem Fresh.closeStrand (h : c.Fresh) (s : String) : (c.closeStrand s).Fresh := by
  refine h.of_step s (h.sorted.erase s) le_rfl (fun t b' hb' => .inl ⟨b', ?_, rfl⟩)
    (fun o' ho' => ?_)
  · by_cases hst : s = t
    · simp [Channel.closeStrand, hst] at hb'
    · simpa [Channel.closeStrand, hst] using hb'
  · simp only [Channel.closeStrand, waitedOn, List.mem_append, List.mem_filter] at ho'
    rcases ho' with ho | ⟨hb, -⟩
    · exact .inl ⟨o', ho, rfl⟩
    · -- the strand's own buffer, closed while a receive waited on it
      have hget : c.buffers.get? s = some o' := Option.mem_toList.1 hb
      exact .inr ⟨s, o', hget, rfl, by simp [Channel.closeStrand]⟩

theorem Fresh.reset (h : c.Fresh) : c.reset.Fresh := by
  refine h.of_step "" Keyed.sorted_mk_nil le_rfl (fun t b' hb' => by simp [Channel.reset] at hb')
    (fun o' ho' => ?_)
  simp only [Channel.reset, waitedOn, List.mem_append, List.mem_filter] at ho'
  rcases ho' with ho | ⟨hv, -⟩
  · exact .inl ⟨o', ho, rfl⟩
  · obtain ⟨t, ht⟩ := Keyed.mem_values_iff.1 hv
    exact .inr ⟨t, o', h.sorted.get?_eq_some_iff.2 ht, rfl, by simp [Channel.reset]⟩

/-- Draining a buffer kept aside keeps serials apart: it only shortens its list. -/
theorem Fresh.drain (h : c.Fresh) (s : String) (k : Nat) : (c.drain s k).2.Fresh := by
  unfold Channel.drain
  split
  · exact h
  · refine h.of_step s h.sorted le_rfl (fun t b' hb' => .inl ⟨b', hb', rfl⟩)
      (fun o' ho' => .inl ?_)
    obtain ⟨o, ho, rfl⟩ := List.mem_map.1 ho'
    exact ⟨o, ho, by split <;> rfl⟩

theorem Fresh.step (h : c.Fresh) (op : Call) : (c.step op).Fresh := by
  cases op with
  | send m =>
    rcases step_send_cases c m with he | he
    · rw [he]; exact h
    · exact h.send he
  | poll s =>
    rcases step_poll_cases c s with he | ⟨x, he⟩
    · rw [he]; exact h
    · obtain ⟨b, rest, hb, -, he'⟩ := poll_ready_eq he
      rw [he']
      exact h.requeue hb rest
  | pending s => exact h
  | closeStrand s => exact h.closeStrand s
  | reset => exact h.reset
  | hold k => exact ⟨h.sorted, h.below, h.distinct, h.orphan_below, h.orphan_ne⟩
  | release k => exact ⟨h.sorted, h.below, h.distinct, h.orphan_below, h.orphan_ne⟩
  | resume s k =>
    rcases resume_cases c s k with he | ⟨b, x, rest, hb, -, -, he⟩ | ⟨he, -⟩
    · simp only [Channel.step, he]; exact h
    · simp only [Channel.step, he]; exact h.requeue hb rest
    · simp only [Channel.step, he]; exact h.drain s k

theorem Fresh.run (h : c.Fresh) (ops : List Call) : (c.run ops).Fresh := by
  induction ops generalizing c with
  | nil => exact h
  | cons op ops ih => exact ih (h.step op)

end Fresh

/-! ## A receive waiting on a closed buffer -/

section Closed

variable {c : Channel} {k : Nat}

/-- The first buffer of serial `k` in a list is the one of a list with more appended, when the
list has one. -/
theorem find?_append_of_mem {l l' : List Buffer} (h : k ∈ l.map (·.serial)) :
    (l ++ l').find? (·.serial == k) = l.find? (·.serial == k) := by
  obtain ⟨o, ho, rfl⟩ := List.mem_map.1 h
  have hs : (l.find? (·.serial == o.serial)).isSome := List.find?_isSome.2 ⟨o, ho, by simp⟩
  obtain ⟨x, hx⟩ := Option.isSome_iff_exists.1 hs
  rw [List.find?_append, hx, Option.some_or]

theorem find?_append_of_not_mem {l l' : List Buffer} (h : k ∉ l.map (·.serial)) :
    (l ++ l').find? (·.serial == k) = l'.find? (·.serial == k) := by
  have hnone : l.find? (·.serial == k) = none := List.find?_eq_none.2 fun o ho hk =>
    h (List.mem_map.2 ⟨o, ho, beq_iff_eq.1 hk⟩)
  rw [List.find?_append, hnone, Option.none_or]

/-- A buffer that is the only one of its serial in a list is the one its serial finds. -/
theorem find?_of_unique {l : List Buffer} {b : Buffer} (hb : b ∈ l)
    (hu : ∀ x ∈ l, x.serial = b.serial → x = b) :
    l.find? (·.serial == b.serial) = some b := by
  have hs : (l.find? (·.serial == b.serial)).isSome := List.find?_isSome.2 ⟨b, hb, by simp⟩
  obtain ⟨x, hx⟩ := Option.isSome_iff_exists.1 hs
  have hxs : x.serial = b.serial := by simpa using List.find?_some hx
  rw [hx, hu x (List.mem_of_find?_eq_some hx) hxs]

/-- Shortening the lists of the buffers of serial `k` keeps every serial, and which buffer a
serial finds. -/
theorem find?_map_queue (l : List Buffer) (j : Nat) (q : List Envelope) :
    (l.map fun o => if o.serial == k then { o with queue := q } else o).find? (·.serial == j) =
      (l.find? (·.serial == j)).map fun o =>
        if o.serial == k then { o with queue := q } else o := by
  rw [List.find?_map]
  congr 2
  funext o
  simp only [Function.comp]
  split <;> rfl

theorem serials_map_queue (l : List Buffer) (q : List Envelope) :
    (l.map fun o => if o.serial == k then { o with queue := q } else o).map (·.serial) =
      l.map (·.serial) := by
  rw [List.map_map]
  congr 1
  funext o
  simp only [Function.comp]
  split <;> rfl

/-- No buffer kept aside has the serial of an open buffer. -/
theorem Fresh.serial_not_mem_orphans (h : c.Fresh) {s : String} {b : Buffer}
    (hb : c.buffers.get? s = some b) : b.serial ∉ c.orphans.map (·.serial) := fun hm => by
  obtain ⟨o, ho, he⟩ := List.mem_map.1 hm
  exact h.orphan_ne s b hb o ho he

/-- Closing a strand whose buffer a receive waits on keeps that buffer aside, with all it holds. -/
theorem Fresh.leftIn_closeStrand (h : c.Fresh) {s : String} {b : Buffer}
    (hb : c.buffers.get? s = some b) (hk : b.serial ∈ c.held) :
    (c.closeStrand s).leftIn b.serial = b.queue ∧
      b.serial ∈ (c.closeStrand s).orphans.map (·.serial) := by
  have hw : c.waitedOn (c.buffers.get? s).toList = [b] := by simp [waitedOn, hb, hk]
  refine ⟨?_, by simp [Channel.closeStrand, hw]⟩
  simp only [leftIn, Channel.closeStrand, hw, find?_append_of_not_mem (h.serial_not_mem_orphans hb)]
  simp

/-- Closing every strand keeps aside each buffer a receive waits on, with all it holds. -/
theorem Fresh.leftIn_reset (h : c.Fresh) {s : String} {b : Buffer}
    (hb : c.buffers.get? s = some b) (hk : b.serial ∈ c.held) :
    c.reset.leftIn b.serial = b.queue ∧ b.serial ∈ c.reset.orphans.map (·.serial) := by
  have hin : b ∈ c.waitedOn c.buffers.values :=
    List.mem_filter.2
      ⟨Keyed.mem_values_iff.2 ⟨s, Keyed.mem_toList_of_get? hb⟩, by simpa using hk⟩
  -- open buffers have distinct serials, so `b` is the only one of its serial
  have hu : ∀ x ∈ c.waitedOn c.buffers.values, x.serial = b.serial → x = b := by
    intro x hx hxs
    obtain ⟨t, ht⟩ := Keyed.mem_values_iff.1 (List.mem_filter.1 hx).1
    have hget := h.sorted.get?_eq_some_iff.2 ht
    obtain rfl := h.distinct t s x b hget hb hxs
    rw [hb] at hget
    exact (Option.some.inj hget).symm
  refine ⟨?_, ?_⟩
  · simp only [leftIn, Channel.reset, find?_append_of_not_mem (h.serial_not_mem_orphans hb), find?_of_unique hin hu]
    rfl
  · simp only [Channel.reset, List.map_append, List.mem_append]
    exact .inr (List.mem_map.2 ⟨b, hin, rfl⟩)

/-- A receive waiting on a buffer kept aside drains it: no open buffer has its serial. -/
theorem Fresh.resume_eq_drain (h : c.Fresh) (hk : k ∈ c.orphans.map (·.serial)) (s : String) :
    c.resume s k = c.drain s k :=
  resume_of_ne fun _ hb hbk => h.serial_not_mem_orphans hb (hbk ▸ hk)

theorem leftIn_drain_of_cons {s : String} {m : Envelope} {rest : List Envelope}
    (h : c.leftIn k = m :: rest) : (c.drain s k).2.leftIn k = rest := by
  rw [drain_of_cons h]
  unfold leftIn at h ⊢
  rw [find?_map_queue]
  cases hf : c.orphans.find? (·.serial == k) with
  | none => simp [hf] at h
  | some o =>
    have ho : o.serial = k := by simpa using List.find?_some hf
    simp [ho]

/-- What a call does to the buffers kept aside: nothing; adds some at the end; or, for a
receive draining one of them, shortens the lists of those of its serial. -/
theorem orphans_step_cases (c : Channel) (op : Call) :
    (c.step op).orphans = c.orphans ∨ (∃ l, (c.step op).orphans = c.orphans ++ l) ∨
    ∃ s k rest, op = .resume s k ∧
      (c.step op).orphans = c.orphans.map fun o =>
        if o.serial == k then { o with queue := rest } else o := by
  cases op with
  | send m =>
    rcases step_send_cases c m with he | he
    · exact .inl (by rw [he])
    · rcases send_ok_eq he with ⟨b, -, he'⟩ | ⟨-, he'⟩ <;> exact .inl (by rw [he'])
  | poll s =>
    rcases step_poll_cases c s with he | ⟨x, he⟩
    · exact .inl (by rw [he])
    · obtain ⟨b, rest, -, -, he'⟩ := poll_ready_eq he
      exact .inl (by rw [he'])
  | pending s => exact .inl rfl
  | closeStrand s => exact .inr (.inl ⟨_, rfl⟩)
  | reset => exact .inr (.inl ⟨_, rfl⟩)
  | hold k => exact .inl rfl
  | release k => exact .inl rfl
  | resume s k =>
    rcases resume_cases c s k with he | ⟨b, x, rest, -, -, -, he⟩ | ⟨he, -⟩
    · exact .inl (by simp only [Channel.step, he])
    · exact .inl (by simp only [Channel.step, he])
    · simp only [Channel.step, he]
      unfold Channel.drain
      split
      · exact .inl rfl
      · exact .inr (.inr ⟨s, k, _, rfl, rfl⟩)

/-- The serials of the buffers kept aside only grow, at the end. -/
theorem orphans_prefix_step (c : Channel) (op : Call) :
    c.orphans.map (·.serial) <+: (c.step op).orphans.map (·.serial) := by
  rcases orphans_step_cases c op with he | ⟨l, he⟩ | ⟨s, k, rest, -, he⟩
  · rw [he]
  · rw [he, List.map_append]
    exact List.prefix_append _ _
  · rw [he, serials_map_queue]

/-- Only a receive waiting on a buffer kept aside takes from it; no other call changes what it
has left. -/
theorem leftIn_step (hk : k ∈ c.orphans.map (·.serial)) {op : Call}
    (hop : ∀ t, op ≠ .resume t k) : (c.step op).leftIn k = c.leftIn k := by
  rcases orphans_step_cases c op with he | ⟨l, he⟩ | ⟨s, k', rest, rfl, he⟩
  · unfold leftIn
    rw [he]
  · unfold leftIn
    rw [he, find?_append_of_mem hk]
  · have hne : k ≠ k' := fun hkk => hop s (by rw [hkk])
    unfold leftIn
    rw [he, find?_map_queue]
    cases hf : c.orphans.find? (·.serial == k) with
    | none => rfl
    | some o =>
      have ho : o.serial = k := by simpa using List.find?_some hf
      simp [ho, hne]

end Closed

/-! ## The channel a run leaves -/

/-- A channel transport made with capacity `n`, after any run of calls, is a map from strands to
first-in first-out lists, each of at most `max 1 n` envelopes. A send appends to its strand's
list, made empty if there was none, while the list is shorter than the capacity, and is refused
as `bufferFull` otherwise (so never as `closed`). After a run of single polls, with no receive
left waiting, a receive has no connection exactly on a strand without a list, pops the head of
a non-empty list, and waits on an empty one. `pending` is the list's length, zero without one.
Closing a strand takes its list away, and a reset takes every list away.

A receive waiting on a buffer that is closed, alone or with every other, finds it kept aside
with all it held; from then on a look by a receive waiting on it takes the oldest envelope left
or, once none is left, answers that the strand is closed, and no other call adds to it, takes
from it or drops it. -/
theorem channel_is_a_map_of_bounded_queues (n : Nat) (ops : List Call) (s : String)
    (m : Envelope) :
    let c := (make n).run ops
    c.capacity = max 1 n ∧ (∀ t q, c.queues t = some q → q.length ≤ c.capacity) ∧
    ((c.queueOf m.strand).length < c.capacity → ∃ c', c.send m = .ok c' ∧
      c'.queues = Function.update c.queues m.strand (some (c.queueOf m.strand ++ [m]))) ∧
    (c.capacity ≤ (c.queueOf m.strand).length → c.send m = .error (.bufferFull m.strand)) ∧
    ((∀ op ∈ ops, op.isSinglePoll) →
      (c.poll s = .error (.noConnection s) ↔ c.queues s = none) ∧
      (∀ x rest, c.queues s = some (x :: rest) → ∃ c', c.poll s = .ok (.ready x, c') ∧
        c'.queues = Function.update c.queues s (some rest)) ∧
      (c.queues s = some [] → ∃ k, c.poll s = .ok (.waiting k, c))) ∧
    c.pending s = (c.queueOf s).length ∧
    (c.closeStrand s).queues = Function.update c.queues s none ∧
    c.reset.queues = (fun _ => none) ∧
    (∀ b, c.buffers.get? s = some b → b.serial ∈ c.held →
      ((c.closeStrand s).leftIn b.serial = b.queue ∧
        b.serial ∈ (c.closeStrand s).orphans.map (·.serial)) ∧
      (c.reset.leftIn b.serial = b.queue ∧ b.serial ∈ c.reset.orphans.map (·.serial))) ∧
    (∀ k ∈ c.orphans.map (·.serial),
      (c.leftIn k = [] → c.resume s k = (some (.error (.closed s)), c)) ∧
      (∀ x rest, c.leftIn k = x :: rest →
        (c.resume s k).1 = some (.ok x) ∧ (c.resume s k).2.leftIn k = rest) ∧
      ∀ op, k ∈ (c.step op).orphans.map (·.serial) ∧
        ((∀ t, op ≠ .resume t k) → (c.step op).leftIn k = c.leftIn k)) := by
  intro c
  have hb : c.Bounded n := (bounded_make n).run ops
  have hf : c.Fresh := (fresh_make n).run ops
  refine ⟨hb.capacity, hb.fits, send_of_lt, send_of_le, fun hops => ?_, pending_eq c s,
    queues_closeStrand c s, queues_reset c,
    fun b hgb hk => ⟨hf.leftIn_closeStrand hgb hk, hf.leftIn_reset hgb hk⟩, fun k hk => ?_⟩
  · -- single polls never take a turn, so no receive waits
    have hheld : c.held = [] := run_held_of_isSinglePoll (make n) hops
    exact ⟨poll_noConnection_iff hheld, fun x rest => poll_of_cons hheld, poll_of_nil hheld⟩
  · rw [hf.resume_eq_drain hk]
    refine ⟨fun h0 => drain_of_nil h0,
      fun x rest hx => ⟨by rw [drain_of_cons hx], leftIn_drain_of_cons hx⟩,
      fun op => ⟨(orphans_prefix_step c op).subset hk, leftIn_step hk⟩⟩

/-- A receive waits on an empty strand of a channel of capacity one, and the channel is reset:
the receive is told the strand is closed. -/
theorem channel_is_a_map_of_bounded_queues_when_reset :
    let c := (make 1).run [.send (Envelope.make "1" "a" "x" 0), .poll "a", .poll "a", .hold 1,
      .reset]
    c.resume "a" 1 = (some (.error (.closed "a")), c) :=
  ((channel_is_a_map_of_bounded_queues 1 [.send (Envelope.make "1" "a" "x" 0), .poll "a",
    .poll "a", .hold 1, .reset] "a" (Envelope.make "1" "a" "x" 0)).2.2.2.2.2.2.2.2.2 1
    (by decide)).1 (by decide)

end Courier.Channel
