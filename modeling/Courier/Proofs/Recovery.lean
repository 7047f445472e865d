import Courier.Proofs.Metrics
import Courier.Proofs.Store.Refinement
import Mathlib

/-!
# What a recovery pass does

A recovery pass walks what a cursor over the durable store gives and hands each envelope to the
transport again (`Broker.recoverFrom`). Over a channel transport its outcome is exact
(`Broker.Recovered`). Write `room s` for the places left in the buffer of strand `s`, and
`fitting s` for the smaller of `room s` and the number of envelopes of `s` the walk reads:

- the buffer of `s` gains the first `fitting s` envelopes of `s`, in the order read
  (`Channel.handOver_channel`);
- the report counts the sum of `fitting s` as resent, and the envelopes that did not fit,
  together with the undecodable entries, as failed;
- the count of envelopes sent on `s` grows by `fitting s`; every strand read has its depth
  reported from the durable store, and neither store changes;
- a read error other than an undecodable entry stops the walk and fails the pass, after the
  depths of the strands read so far are reported and with what was resent kept.

`recover` is that pass over every envelope of an open durable store. A well-formed store gives
the walk each strand's envelopes in increasing id order, and counts for a strand with envelopes
exactly their number, so its depth is reported as that number
(`recovery_pass_resends_what_fits`). A disk store counts a strand's records by the key prefix
`s:`; where a registered strand id holds `:`, the depth of `a` counts the records of `a:b` as
well (`recover_counts_nested_strand_in_depth`).
-/

namespace Courier

namespace Channel

/-- How many more envelopes a strand's buffer takes. -/
def room (c : Channel) (s : String) : Nat := c.capacity - (c.queueOf s).length

/-- A send the channel took appends the envelope to its strand's buffer and to no other. -/
theorem queueOf_send {c c' : Channel} {m : Envelope} (h : c.send m = .ok c') (t : String) :
    c'.queueOf t = if m.strand = t then c.queueOf t ++ [m] else c.queueOf t := by
  obtain ⟨-, -, hother, buf, hbuf, -, hq⟩ := send_ok_cases h
  by_cases hmt : m.strand = t
  · subst hmt
    simp only [queueOf, hbuf, Option.map_some, Option.getD_some, hq, if_true]
  · simp only [queueOf, hother t hmt, hmt, if_false]

theorem room_pos_of_send {c c' : Channel} {m : Envelope} (h : c.send m = .ok c') :
    0 < c.room m.strand := by
  obtain ⟨-, -, -, buf, -, hle, hq⟩ := send_ok_cases h
  have hlen : (c.queueOf m.strand).length + 1 ≤ c.capacity := by
    simpa [hq] using hle
  unfold room
  omega

theorem room_send {c c' : Channel} {m : Envelope} (h : c.send m = .ok c') (t : String) :
    c'.room t = if m.strand = t then c.room t - 1 else c.room t := by
  have hcap := (send_ok_cases h).1
  by_cases hmt : m.strand = t
  · simp only [room, queueOf_send h t, hmt, if_true, hcap, List.length_append,
      List.length_singleton]
    omega
  · simp only [room, queueOf_send h t, hmt, if_false, hcap]

theorem room_eq_zero_of_send {c : Channel} {m : Envelope} {e : TransportError}
    (h : c.send m = .error e) : c.room m.strand = 0 := by
  have hfull := (send_error_cases h).2
  unfold room
  omega

/-- Handed envelopes one by one, a channel takes from each strand's envelopes, in order, as many
as its buffer has room for, and appends them to that buffer. -/
theorem handOver_channel (c : Channel) (ms : List Envelope) :
    ∃ c', ((Transport.channel c).handOver ms).1 = .channel c' ∧ c'.capacity = c.capacity ∧
      ∀ s, ((Transport.channel c).handOver ms).2.filter (·.strand = s) =
          (ms.filter (·.strand = s)).take (c.room s) ∧
        c'.queueOf s = c.queueOf s ++ (ms.filter (·.strand = s)).take (c.room s) := by
  induction ms generalizing c with
  | nil => exact ⟨c, rfl, rfl, fun s => by simp [Transport.handOver]⟩
  | cons m rest ih =>
    cases hs : c.send m with
    | ok c₁ =>
      obtain ⟨c', hc', hcap, hq⟩ := ih c₁
      refine ⟨c', by rw [Transport.handOver_cons_ok hs, hc'], hcap.trans (send_ok_cases hs).1,
        fun s => ?_⟩
      rw [Transport.handOver_cons_ok hs]
      by_cases hms : m.strand = s
      · obtain ⟨htaken, hqueue⟩ := hq s
        -- the envelope goes to its own strand's buffer, which had room for it
        have hroom : c.room s = c₁.room s + 1 := by
          have hpos : 0 < c.room s := hms ▸ room_pos_of_send hs
          rw [room_send hs s, if_pos hms]
          omega
        simp only [List.filter_cons, hms, decide_true, if_true, htaken, hroom,
          List.take_succ_cons, hqueue, queueOf_send hs s, List.append_assoc, List.singleton_append,
          and_self]
      · have hroom : c₁.room s = c.room s := by rw [room_send hs s, if_neg hms]
        simpa only [List.filter_cons, hms, decide_false, Bool.false_eq_true, if_false, hroom,
          queueOf_send hs s] using hq s
    | error e =>
      obtain ⟨c', hc', hcap, hq⟩ := ih c
      refine ⟨c', by rw [Transport.handOver_cons_error hs, hc'], hcap, fun s => ?_⟩
      rw [Transport.handOver_cons_error hs]
      by_cases hms : m.strand = s
      · -- the strand's buffer is full: it takes none of the strand's envelopes
        have hroom : c.room s = 0 := hms ▸ room_eq_zero_of_send hs
        obtain ⟨htaken, hqueue⟩ := hq s
        simp only [List.filter_cons, hms, decide_true, if_true, hroom, List.take_zero]
          at htaken hqueue ⊢
        exact ⟨htaken, hqueue⟩
      · simpa only [List.filter_cons, hms, decide_false, Bool.false_eq_true, if_false] using hq s

end Channel

/-- A list of envelopes whose strands all lie in a list without repeats is as long as the sum,
over that list, of the numbers of its envelopes of each strand. -/
theorem length_eq_sum_filter {S : List String} (hS : S.Nodup) (l : List Envelope)
    (hl : ∀ m ∈ l, m.strand ∈ S) :
    l.length = (S.map fun s => (l.filter (·.strand = s)).length).sum := by
  have hcount : ∀ s,
      (l.filter (·.strand = s)).length = Multiset.count s ↑(l.map (·.strand)) := by
    intro s
    rw [Multiset.coe_count, List.count_eq_countP, List.countP_map, List.countP_eq_length_filter]
    rfl
  have hin : ∀ s ∈ (↑(l.map (·.strand)) : Multiset String), s ∈ S.toFinset := by
    intro s hs
    obtain ⟨m, hm, rfl⟩ := List.mem_map.1 (Multiset.mem_coe.1 hs)
    exact List.mem_toFinset.2 (hl m hm)
  rw [← List.sum_toFinset _ hS, Finset.sum_congr rfl fun s _ => hcount s,
    Multiset.sum_count_eq_card hin, Multiset.coe_card, List.length_map]

namespace Broker

/-! ## The strands a walk meets -/

theorem foldl_insert_sorted (ms : List Envelope) {t : Keyed Unit} (ht : t.Sorted) :
    (ms.foldl (fun (t : Keyed Unit) m => t.insert m.strand ()) t).Sorted := by
  induction ms generalizing t with
  | nil => exact ht
  | cons m rest ih => exact ih (ht.insert _ _)

theorem get?_foldl_insert (ms : List Envelope) (t : Keyed Unit) (s : String) :
    (ms.foldl (fun (t : Keyed Unit) m => t.insert m.strand ()) t).get? s ≠ none ↔
      t.get? s ≠ none ∨ ∃ m ∈ ms, m.strand = s := by
  induction ms generalizing t with
  | nil => simp
  | cons m rest ih =>
    rw [List.foldl_cons, ih, Keyed.get?_insert]
    by_cases h : m.strand = s <;> simp [h]

theorem mem_strandsOf {ms : List Envelope} {s : String} :
    s ∈ strandsOf ms ↔ ∃ m ∈ ms, m.strand = s := by
  rw [strandsOf, Keyed.mem_keys, get?_foldl_insert]
  simp [Keyed.get?, Keyed.lookup]

theorem nodup_strandsOf (ms : List Envelope) : (strandsOf ms).Nodup :=
  (foldl_insert_sorted ms Keyed.sorted_mk_nil).imp ne_of_lt

/-! ## Depth reports -/

variable {b : Broker}

theorem depthsReported_cons (b : Broker) (s : String) (rest : List String) :
    b.depthsReported (s :: rest) = (b.depthReported .durable s).depthsReported rest := rfl

theorem sent_depthsReported (b : Broker) (ss : List String) (t : String) :
    ((b.depthsReported ss).metrics.get t).sent = (b.metrics.get t).sent := by
  induction ss generalizing b with
  | nil => rfl
  | cons s rest ih => rw [depthsReported_cons, ih, sent_depthReported]

/-- Reporting depths leaves the depth figure of every other strand as it was. -/
theorem depth_depthsReported_of_not_mem (hrec : b.metrics.Recording) {ss : List String}
    {t : String} (ht : t ∉ ss) :
    ((b.depthsReported ss).metrics.get t).depth = (b.metrics.get t).depth := by
  induction ss generalizing b with
  | nil => rfl
  | cons s rest ih =>
    simp only [List.mem_cons, not_or] at ht
    rw [depthsReported_cons, ih (recording_depthReported hrec _ s) ht.2, depthReported_metrics]
    split
    · rw [Metrics.get_noteDepth hrec, if_neg (Ne.symm ht.1)]
    · rfl

/-- Reporting the depth of a strand the durable store counts sets its figure to that count. -/
theorem depth_depthsReported_of_mem (hrec : b.metrics.Recording) {ss : List String}
    {t : String} (ht : t ∈ ss) {n : Nat} (hu : b.durable.unacked t = .ok n) :
    ((b.depthsReported ss).metrics.get t).depth = n := by
  induction ss generalizing b with
  | nil => simp at ht
  | cons s rest ih =>
    rw [depthsReported_cons]
    by_cases hrest : t ∈ rest
    · exact ih (recording_depthReported hrec _ s) hrest (by simpa using hu)
    · -- the last report of `t` is the one made first
      have hts : t = s := by simpa [hrest] using ht
      subst hts
      rw [depth_depthsReported_of_not_mem (recording_depthReported hrec _ t) hrest,
        depthReported_metrics, storeOf_durable, hu, Metrics.get_noteDepth hrec, if_pos rfl]

/-! ## One pass -/

/-- The envelopes of strand `s` that a recovery walk over `items` reads, in the order read. -/
def readOn (items : List (Except StoreError Envelope)) (s : String) : List Envelope :=
  (readEnvelopes items).filter (·.strand = s)

/-- How many of them the buffer of `s` in channel `c` has room for. -/
def fitting (c : Channel) (items : List (Except StoreError Envelope)) (s : String) : Nat :=
  min (readOn items s).length (c.room s)

/-- The report of a pass over `items` that reads them to the end, on channel `c`: every envelope
that fits is resent; the rest, and every undecodable entry, failed. -/
def fullReport (c : Channel) (items : List (Except StoreError Envelope)) : RecoveryReport where
  resent := ((strandsOf (readEnvelopes items)).map (fitting c items)).sum
  failed := ((strandsOf (readEnvelopes items)).map fun s =>
    (readOn items s).length - fitting c items s).sum + undecodable items

/-- What a recovery pass over the items of a cursor leaves, run from broker `b` whose transport
is the channel `c`: its answer `out.1` and the broker `out.2` after it. -/
structure Recovered (c : Channel) (items : List (Except StoreError Envelope)) (b : Broker)
    (out : Except BrokerError RecoveryReport × Broker) : Prop where
  /-- The full report, unless a read error stopped the walk. -/
  answer : out.1 = (stopOf items).elim (.ok (fullReport c items)) fun e => .error (.recovery e)
  /-- Each strand's buffer gains the first of its envelopes read, as many as it has room for. -/
  buffers : ∃ c', out.2.transport = .channel c' ∧ c'.capacity = c.capacity ∧
    ∀ s, c'.queueOf s = c.queueOf s ++ (readOn items s).take (c.room s)
  /-- Neither store changes. -/
  durable : out.2.durable = b.durable
  volatile : out.2.volatile = b.volatile
  /-- Each strand's count of envelopes sent grows by those resent. -/
  sent : ∀ s, (out.2.metrics.get s).sent = (b.metrics.get s).sent + fitting c items s
  /-- A strand read has its depth reported from the durable store; any other keeps its figure. -/
  depthRead : ∀ s ∈ strandsOf (readEnvelopes items), ∀ n, b.durable.unacked s = .ok n →
    (out.2.metrics.get s).depth = n
  depthOther : ∀ s ∉ strandsOf (readEnvelopes items),
    (out.2.metrics.get s).depth = (b.metrics.get s).depth

/-- The resent count and the failed count of a pass add up, strand by strand. -/
theorem sum_fitting_add_sum_rest (c : Channel) (items : List (Except StoreError Envelope)) :
    ((strandsOf (readEnvelopes items)).map fun s =>
        (readOn items s).length - fitting c items s).sum +
      ((strandsOf (readEnvelopes items)).map (fitting c items)).sum =
      (readEnvelopes items).length := by
  rw [← List.sum_map_add, length_eq_sum_filter (nodup_strandsOf _) _
    fun m hm => mem_strandsOf.2 ⟨m, hm, rfl⟩]
  congr 1
  refine List.map_congr_left fun s _ => ?_
  have hle : fitting c items s ≤ (readOn items s).length := Nat.min_le_left _ _
  rw [Nat.sub_add_cancel hle, readOn]

/-- A recovery pass over a channel transport, whatever the cursor gives. -/
theorem recoverFrom_recovered (c : Channel) (items : List (Except StoreError Envelope))
    (b : Broker) (hc : b.transport = .channel c) (hrec : b.metrics.Recording) :
    Recovered c items b ((recoverFrom items).run.run b) := by
  obtain ⟨c', hc', hcap, hq⟩ := Channel.handOver_channel c (readEnvelopes items)
  rw [← hc] at hc' hq
  -- the envelopes taken on each strand are the first of its envelopes read
  have hfit : ∀ s, ((b.transport.handOver (readEnvelopes items)).2.filter
      (·.strand = s)).length = fitting c items s := by
    intro s
    rw [(hq s).1, List.length_take, Nat.min_comm, fitting, readOn]
  have hresent : (b.transport.handOver (readEnvelopes items)).2.length =
      ((strandsOf (readEnvelopes items)).map (fitting c items)).sum := by
    rw [length_eq_sum_filter (nodup_strandsOf _) _ fun m hm =>
      mem_strandsOf.2 ⟨m, Transport.mem_handOver hm, rfl⟩]
    exact congrArg List.sum (List.map_congr_left fun s _ => hfit s)
  have hsum := sum_fitting_add_sum_rest c items
  have hrec' := Metrics.Recording.foldl_noteSent hrec (b.transport.handOver (readEnvelopes items)).2
  rw [recoverFrom_run]
  refine ⟨?_, ⟨c', by simpa using hc', hcap, fun s => (hq s).2⟩, by simp, by simp,
    fun s => ?_, fun s hs n hn => ?_, fun s hs => ?_⟩
  · cases stopOf items with
    | some e => rfl
    | none =>
      simp only [Option.elim_none, Except.ok.injEq, fullReport, RecoveryReport.mk.injEq]
      omega
  · rw [sent_depthsReported, Metrics.get_foldl_noteSent hrec, hfit]
  · exact depth_depthsReported_of_mem hrec' hs hn
  · rw [depth_depthsReported_of_not_mem hrec' hs, Metrics.get_foldl_noteSent hrec]

end Broker

/-! ## What a well-formed store gives a walk -/

namespace Store

variable {st : Store}

/-- An envelope a well-formed store keeps belongs to a strand the store registers. -/
theorem confOf_of_mem_pending (hs : st.Sorted) (hwf : st.WF) {m : Envelope}
    (hm : m ∈ st.pending) : st.confOf m.strand ≠ none := by
  rw [mem_pending_iff hs hwf] at hm
  cases st with
  | memory st =>
    obtain ⟨e, he, -⟩ := Option.bind_eq_some_iff.1 hm
    simp [confOf, he]
  | disk st => exact (hwf.2 _ (Keyed.mem_toList_of_get? hm)).2

/-- A strand without `:` holds exactly the envelopes of that strand the store keeps. -/
theorem held_eq_pending_filter (hs : st.Sorted) (hwf : st.WF) {t : String}
    (ht : ':' ∉ t.toList) : st.held t = st.pending.filter (·.strand = t) :=
  eq_of_pairwise_key_lt Envelope.id (held_sorted hs hwf ht) (pending_filter_sorted hs hwf t)
    fun x => by
      rw [mem_held_iff hs hwf ht, List.mem_filter, mem_pending_iff hs hwf, decide_eq_true_eq]
      constructor
      · rintro ⟨rfl, hx⟩
        exact ⟨hx, rfl⟩
      · rintro ⟨hx, rfl⟩
        exact ⟨rfl, hx⟩

/-- An open well-formed store counts a strand that has envelopes at exactly their number. -/
theorem unacked_of_mem_pending (hs : st.Sorted) (hwf : st.WF) (ho : st.isOpen = true)
    {m : Envelope} (hm : m ∈ st.pending) :
    st.unacked m.strand = .ok (st.pending.filter (·.strand = m.strand)).length := by
  rw [unacked_eq, if_pos ho, if_neg (confOf_of_mem_pending hs hwf hm),
    held_eq_pending_filter hs hwf (plain_of_mem_pending hs hwf hm)]

/-- A well-formed store keeps no envelope of a strand it does not register. -/
theorem pending_filter_of_confOf_none (hs : st.Sorted) (hwf : st.WF) {s : String}
    (h : st.confOf s = none) : st.pending.filter (·.strand = s) = [] := by
  rw [List.filter_eq_nil_iff]
  intro m hm hms
  rw [decide_eq_true_eq] at hms
  exact confOf_of_mem_pending hs hwf hm (hms ▸ h)

/-- A disk store counts, for a strand, the records whose key starts with the strand's prefix. -/
theorem unacked_of_isDisk (hd : st.isDisk = true) (s : String) :
    st.unacked s =
      if st.isOpen then
        if st.confOf s = none then .error (.strandNotFound s)
        else .ok (st.diskRecords.envelopes.toList.filter fun p =>
          decide ((DiskStore.strandPrefix s).toList <+: p.1.toList)).length
      else .error .closed := by
  cases st with
  | memory st => simp [isDisk] at hd
  | disk st =>
    have hprefix : ∀ p : String × Envelope, (DiskStore.strandPrefix s).isPrefixOf p.1 =
        decide ((DiskStore.strandPrefix s).toList <+: p.1.toList) := fun p => by
      rw [Bool.eq_iff_iff, String.isPrefixOf, String.startsWith_string_iff, decide_eq_true_iff]
    simp only [unacked_eq, held, DiskStore.strandRecords_eq, diskRecords, List.length_map, hprefix]

/-- A cursor opens on an open store. -/
theorem open?_ok (ho : st.isOpen = true) : ∃ cur, Cursor.open? st = .ok cur := by
  cases st with
  | memory st =>
    have hc : st.closed = false := by simpa [isOpen] using ho
    exact ⟨.listing st.pending, by simp [Cursor.open?, MemoryStore.snapshot, MemoryStore.guard,
      hc, bind, Except.bind, pure, Except.pure, Functor.map, Except.map]⟩
  | disk st =>
    have hc : st.isOpen = true := ho
    exact ⟨.scan none none, by
      simp [Cursor.open?, DiskStore.guard, hc, Functor.map, Except.map]⟩

end Store

namespace Broker

/-- On an open durable store, recovery is the pass over the store's envelopes. -/
theorem recover_run_of_open {b : Broker} (ho : b.durable.isOpen = true) :
    recover.run.run b = (recoverFrom (b.durable.pending.map .ok)).run.run b := by
  obtain ⟨cur, h⟩ := Store.open?_ok ho
  simp only [recover, run_bind, run_get, h]

end Broker

/-! ## The pass -/

/-- One recovery pass over a channel transport. Whatever a cursor gives, the pass resends, of
each strand's envelopes read, as many as its buffer has room for; counts the rest, and every
undecodable entry, as failed; keeps both stores; counts what it resent as sent; reports the depth
of every strand read; and fails with the read error that stopped the walk, if one did.
`recover` is that pass over every envelope of an open durable store. A well-formed store gives
each strand's envelopes in increasing id order and none of a strand it does not register, and
the depth reported for a strand with envelopes is their number. -/
theorem recovery_pass_resends_what_fits (b : Broker) (c : Channel)
    (hc : b.transport = .channel c) (hrec : b.metrics.Recording) :
    (∀ items, Broker.Recovered c items b ((Broker.recoverFrom items).run.run b)) ∧
      (b.durable.Sorted → b.durable.WF → b.durable.isOpen = true →
        Broker.Recovered c (b.durable.pending.map .ok) b (Broker.recover.run.run b) ∧
          Broker.readEnvelopes (b.durable.pending.map .ok) = b.durable.pending ∧
          Broker.undecodable (b.durable.pending.map .ok) = 0 ∧
          Broker.stopOf (b.durable.pending.map .ok) = none ∧
          ∀ s, (b.durable.pending.filter (·.strand = s)).Pairwise (fun x y => x.id < y.id) ∧
            (b.durable.confOf s = none → b.durable.pending.filter (·.strand = s) = []) ∧
            (0 < (b.durable.pending.filter (·.strand = s)).length →
              ((Broker.recover.run.run b).2.metrics.get s).depth =
                (b.durable.pending.filter (·.strand = s)).length)) := by
  refine ⟨fun items => Broker.recoverFrom_recovered c items b hc hrec, fun hs hwf ho => ?_⟩
  obtain ⟨hread, hskip, hstop⟩ := Broker.read_map_ok b.durable.pending
  have hpass : Broker.Recovered c (b.durable.pending.map .ok) b (Broker.recover.run.run b) := by
    rw [Broker.recover_run_of_open ho]
    exact Broker.recoverFrom_recovered c _ b hc hrec
  refine ⟨hpass, hread, hskip, hstop, fun s => ⟨Store.pending_filter_sorted hs hwf s,
    Store.pending_filter_of_confOf_none hs hwf, fun hpos => ?_⟩⟩
  -- a strand with envelopes is read, and the store counts exactly its envelopes
  obtain ⟨m, hm, hms⟩ : ∃ m ∈ b.durable.pending, m.strand = s := by
    simpa using List.exists_mem_of_length_pos hpos
  have hmet : s ∈ Broker.strandsOf (Broker.readEnvelopes (b.durable.pending.map .ok)) := by
    rw [hread]
    exact Broker.mem_strandsOf.2 ⟨m, hm, hms⟩
  have hu := Store.unacked_of_mem_pending hs hwf ho hm
  rw [hms] at hu
  exact hpass.depthRead s hmet _ hu

/-- The calls that give strand `a` two envelopes and strand `b` one. -/
def recoveryCalls : List StoreCall :=
  [.create "a" {}, .create "b" {}, .save (Envelope.make "2" "a" "y" 0),
    .save (Envelope.make "1" "a" "x" 0), .save (Envelope.make "3" "b" "z" 0)]

/-- A broker whose durable memory store holds those envelopes, over a channel that buffers one
envelope per strand. -/
def recoverySample : Broker where
  volatile := .memory {}
  durable := (Store.memory {}).afterCalls recoveryCalls
  transport := .channel (Channel.make 1)
  metrics := .fresh

theorem recovery_pass_resends_what_fits_on_a_full_buffer :
    recoverySample.transport = .channel (Channel.make 1) ∧ recoverySample.metrics.Recording ∧
      recoverySample.durable.Sorted ∧ recoverySample.durable.WF ∧
      recoverySample.durable.isOpen = true ∧
      (∀ items, Broker.Recovered (Channel.make 1) items recoverySample
        ((Broker.recoverFrom items).run.run recoverySample)) ∧
      (recoverySample.durable.Sorted → recoverySample.durable.WF →
        recoverySample.durable.isOpen = true →
        Broker.Recovered (Channel.make 1) (recoverySample.durable.pending.map .ok) recoverySample
            (Broker.recover.run.run recoverySample) ∧
          Broker.readEnvelopes (recoverySample.durable.pending.map .ok) =
            recoverySample.durable.pending ∧
          Broker.undecodable (recoverySample.durable.pending.map .ok) = 0 ∧
          Broker.stopOf (recoverySample.durable.pending.map .ok) = none ∧
          ∀ s, (recoverySample.durable.pending.filter (·.strand = s)).Pairwise
              (fun x y => x.id < y.id) ∧
            (recoverySample.durable.confOf s = none →
              recoverySample.durable.pending.filter (·.strand = s) = []) ∧
            (0 < (recoverySample.durable.pending.filter (·.strand = s)).length →
              ((Broker.recover.run.run recoverySample).2.metrics.get s).depth =
                (recoverySample.durable.pending.filter (·.strand = s)).length)) := by
  have hblank : (Store.memory {}).Blank := rfl
  have hplain : ∀ c ∈ recoveryCalls, c.plainIds = true := by decide
  have hsorted : recoverySample.durable.Sorted :=
    Store.afterCalls_invariant Store.Sorted (fun _ => True) (fun _ c _ h => Store.sorted_call h c)
      hblank.sorted recoveryCalls (fun _ _ => trivial)
  have hwf : recoverySample.durable.WF :=
    Store.afterCalls_invariant Store.WF (fun c => c.plainIds = true)
      (fun _ c hc h => Store.wf_call h c hc) hblank.wf recoveryCalls hplain
  exact ⟨rfl, trivial, hsorted, hwf, by decide,
    recovery_pass_resends_what_fits recoverySample (Channel.make 1) rfl trivial⟩

/-- Strands `a` and `a:b` of a disk store, with one envelope each: recovery resends both, but
reports a depth of two for `a`, since the store counts the records under the key prefix `a:`,
and the record of `a:b` is one of them. -/
theorem recover_counts_nested_strand_in_depth :
    let calls := [StoreCall.create "a" {}, .create "a:b" {},
      .save (Envelope.make "1" "a" "x" 0), .save (Envelope.make "2" "a:b" "y" 0)]
    let b : Broker :=
      { volatile := .memory {}, durable := (Store.disk {}).afterCalls calls,
        transport := .channel (Channel.make 100), metrics := .fresh }
    (Broker.recover.run.run b).1 = .ok { resent := 2, failed := 0 } ∧
      (b.durable.pending.filter (·.strand = "a")).length = 1 ∧
      ((Broker.recover.run.run b).2.metrics.get "a").depth = 2 := by
  intro calls b
  have hu : b.durable.unacked "a" = .ok 2 := by
    rw [Store.unacked_of_isDisk (by decide)]
    decide
  have hpass := Broker.recoverFrom_recovered (Channel.make 100) (b.durable.pending.map .ok) b
    rfl trivial
  rw [← Broker.recover_run_of_open (by decide)] at hpass
  exact ⟨by decide, by decide, hpass.depthRead "a" (by decide) 2 hu⟩

end Courier
