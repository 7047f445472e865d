import Courier.Broker.Recovery

/-!
# Running broker operations

A broker operation (`Broker.Op`) runs over the broker's state and answers or fails. This module
gives each operation one equation for `op.run.run b`: its answer and the broker after it, as
plain data. Later proofs rewrite with these equations and never unfold an operation.

The answers of the lookups are pure functions of the broker:

- `Broker.locate`: the store that has a strand, asking the durable store first (`owner`);
- `Broker.home`: the same, with an unknown strand refused (`requireOwner`).

The effects are named too: `Broker.draft` is the envelope a send builds from the generator's
next stamp, `Broker.depthReported` is the broker after a depth report, and
`Transport.handOver` is a transport handed a list of envelopes one by one, with the envelopes it
took.
-/

namespace Courier

namespace Broker

/-! ## The monad -/

theorem run_bind {α β : Type} (x : Op α) (f : α → Op β) (b : Broker) :
    (x >>= f).run.run b = match x.run.run b with
      | (.ok a, b') => (f a).run.run b'
      | (.error e, b') => (.error e, b') := by
  simp only [ExceptT.run_bind, StateT.run_bind]
  rcases x.run.run b with ⟨_ | _, b'⟩ <;> rfl

theorem run_map {α β : Type} (f : α → β) (x : Op α) (b : Broker) :
    (f <$> x).run.run b = match x.run.run b with
      | (.ok a, b') => (.ok (f a), b')
      | (.error e, b') => (.error e, b') := by
  simp only [ExceptT.run_map, StateT.run_map]
  rcases x.run.run b with ⟨_ | _, b'⟩ <;> rfl

@[simp] theorem run_pure {α : Type} (a : α) (b : Broker) : (pure a : Op α).run.run b = (.ok a, b) :=
  rfl

@[simp] theorem run_throw {α : Type} (e : BrokerError) (b : Broker) :
    (throw e : Op α).run.run b = (.error e, b) := rfl

@[simp] theorem run_get (b : Broker) : (get : Op Broker).run.run b = (.ok b, b) := rfl

@[simp] theorem ofStore_ok {α : Type} (s : String) (a : α) (b : Broker) :
    (ofStore s (.ok a)).run.run b = (.ok a, b) := rfl

@[simp] theorem ofStore_error {α : Type} (s : String) (e : StoreError) (b : Broker) :
    (ofStore s (.error e) : Op α).run.run b = (.error (.ofStore s e), b) := rfl

@[simp] theorem run_modify (f : Broker → Broker) (b : Broker) :
    (modify f : Op Unit).run.run b = (.ok (), f b) := rfl

theorem report_run (f : Metrics → Metrics) (b : Broker) :
    (report f).run.run b = (.ok (), { b with metrics := f b.metrics }) := rfl

/-! ## Stores by durability -/

@[simp] theorem storeOf_withStore (b : Broker) (d : Durability) (st : Store) (d' : Durability) :
    (b.withStore d st).storeOf d' = if d' = d then st else b.storeOf d' := by
  cases d <;> cases d' <;> rfl

@[simp] theorem withStore_transport (b : Broker) (d : Durability) (st : Store) :
    (b.withStore d st).transport = b.transport := by
  cases d <;> rfl

@[simp] theorem withStore_metrics (b : Broker) (d : Durability) (st : Store) :
    (b.withStore d st).metrics = b.metrics := by
  cases d <;> rfl

@[simp] theorem withStore_drawn (b : Broker) (d : Durability) (st : Store) :
    (b.withStore d st).drawn = b.drawn := by
  cases d <;> rfl

@[simp] theorem storeOf_withDrawn (b : Broker) (n : Nat) (d : Durability) :
    ({ b with drawn := n } : Broker).storeOf d = b.storeOf d := by
  cases d <;> rfl

@[simp] theorem storeOf_durable (b : Broker) : b.storeOf .durable = b.durable := rfl

@[simp] theorem storeOf_volatile (b : Broker) : b.storeOf .volatile = b.volatile := rfl

/-! ## Lookups -/

/-- The answer of `owner`: the durable store first, then the volatile one. -/
def locate (b : Broker) (s : String) : Except BrokerError (Option Durability) :=
  match b.durable.has s with
  | .error e => .error (.ofStore s e)
  | .ok true => .ok (some .durable)
  | .ok false =>
    match b.volatile.has s with
    | .error e => .error (.ofStore s e)
    | .ok true => .ok (some .volatile)
    | .ok false => .ok none

/-- The answer of `requireOwner`: the store a call on the strand goes to. -/
def home (b : Broker) (s : String) : Except BrokerError Durability :=
  match b.locate s with
  | .error e => .error e
  | .ok (some d) => .ok d
  | .ok none => .error (.strandNotFound s)

theorem owner_run (s : String) (b : Broker) : (owner s).run.run b = (b.locate s, b) := by
  cases h : b.durable.has s with
  | error e => simp only [owner, run_bind, run_get, h, ofStore_error, locate]
  | ok x =>
    cases h' : b.volatile.has s with
    | error e => cases x <;> simp only [owner, run_bind, run_get, h, h', ofStore_ok,
        Bool.false_eq_true, ↓reduceIte, ofStore_error, locate, run_pure]
    | ok y => cases x <;> cases y <;> simp only [owner, run_bind, run_get, h, h', ofStore_ok,
        Bool.false_eq_true, ↓reduceIte, run_pure, locate]

theorem requireOwner_run (s : String) (b : Broker) :
    (requireOwner s).run.run b = (b.home s, b) := by
  simp only [requireOwner, run_bind, owner_run, home]
  rcases b.locate s with e | _ | d <;> rfl

theorem durability_run (s : String) (b : Broker) :
    (durability s).run.run b = (b.locate s, b) :=
  owner_run s b

/-- A lookup that answers `some d` found the strand in the store of `d`. -/
theorem has_of_locate {b : Broker} {s : String} {d : Durability}
    (h : b.locate s = .ok (some d)) : (b.storeOf d).has s = .ok true := by
  unfold locate at h
  split at h
  · cases h
  · cases h; assumption
  · split at h <;> cases h; assumption

theorem has_of_home {b : Broker} {s : String} {d : Durability}
    (h : b.home s = .ok d) : (b.storeOf d).has s = .ok true := by
  unfold home at h
  split at h <;> cases h
  exact has_of_locate (by assumption)

/-! ## Depth reports and stamps -/

/-- The broker after `reportDepth d s`: the depth of `s` in the store of `d`, when it can be
counted. -/
def depthReported (b : Broker) (d : Durability) (s : String) : Broker :=
  match (b.storeOf d).unacked s with
  | .ok n => { b with metrics := b.metrics.noteDepth s n }
  | .error _ => b

@[simp] theorem depthReported_storeOf (b : Broker) (d : Durability) (s : String) (d' : Durability) :
    (b.depthReported d s).storeOf d' = b.storeOf d' := by
  unfold depthReported; split <;> rfl

@[simp] theorem depthReported_volatile (b : Broker) (d : Durability) (s : String) :
    (b.depthReported d s).volatile = b.volatile :=
  depthReported_storeOf b d s .volatile

@[simp] theorem depthReported_durable (b : Broker) (d : Durability) (s : String) :
    (b.depthReported d s).durable = b.durable :=
  depthReported_storeOf b d s .durable

@[simp] theorem depthReported_transport (b : Broker) (d : Durability) (s : String) :
    (b.depthReported d s).transport = b.transport := by
  unfold depthReported; split <;> rfl

@[simp] theorem depthReported_drawn (b : Broker) (d : Durability) (s : String) :
    (b.depthReported d s).drawn = b.drawn := by
  unfold depthReported; split <;> rfl

theorem reportDepth_run (d : Durability) (s : String) (b : Broker) :
    (reportDepth d s).run.run b = (.ok (), b.depthReported d s) := by
  cases h : (b.storeOf d).unacked s <;>
    simp only [reportDepth, run_bind, run_get, h, run_pure, depthReported,
        report_run]

/-- The envelope a send on `s` with payload `p` builds: the generator's next stamp. -/
def draft (b : Broker) (stamps : Nat → Stamp) (s p : String) : Envelope :=
  Envelope.make (stamps (b.drawn + 1)).id s p (stamps (b.drawn + 1)).timestamp

@[simp] theorem draft_strand (b : Broker) (stamps : Nat → Stamp) (s p : String) :
    (b.draft stamps s p).strand = s := rfl

theorem make_eq_draft (b : Broker) (stamps : Nat → Stamp) (s p : String) :
    Envelope.make (stamps (b.drawn + 1)).id s p (stamps (b.drawn + 1)).timestamp =
      b.draft stamps s p := rfl

theorem draw_run (stamps : Nat → Stamp) (b : Broker) :
    (draw stamps).run.run b = (.ok (stamps (b.drawn + 1)), { b with drawn := b.drawn + 1 }) := rfl

/-! ## The operations -/

theorem strandConfig_run (s : String) (b : Broker) :
    (strandConfig s).run.run b =
      (match b.home s with
        | .error e => .error e
        | .ok d =>
          match (b.storeOf d).config s with
          | .error e => .error (.ofStore s e)
          | .ok (some c) => .ok c
          | .ok none => .error (.strandNotFound s), b) := by
  cases h : b.home s with
  | error e => simp only [strandConfig, run_bind, requireOwner_run, h]
  | ok d =>
    cases h' : (b.storeOf d).config s with
    | error e => simp only [strandConfig, run_bind, requireOwner_run, h, run_get, h', ofStore_error]
    | ok c? => cases c? <;> simp only [strandConfig, run_bind, requireOwner_run, h, run_get, h',
        ofStore_ok, run_throw, run_pure]

theorem addStrand_run (s : String) (c : StrandConf) (b : Broker) :
    (addStrand s c).run.run b =
      match Strand.check s with
      | .error r => (.error (.invalidStrand s r), b)
      | .ok () =>
        match b.locate s with
        | .error e => (.error e, b)
        | .ok (some _) => (.error (.strandExists s), b)
        | .ok none =>
          match (b.storeOf (Durability.ofConf c)).create s c with
          | .error e => (.error (.ofStore s e), b)
          | .ok st =>
            (.ok (), { b.withStore (Durability.ofConf c) st with
              metrics := b.metrics.noteDepth s 0 }) := by
  cases hc : Strand.check s with
  | error r => simp only [addStrand, hc, ExceptT.bind_throw, run_throw]
  | ok u =>
    cases hl : b.locate s with
    | error e => simp only [addStrand, hc, ExceptT.bind_throw, run_bind, owner_run, hl]
    | ok d? =>
      cases d? with
      | some d => simp only [addStrand, hc, ExceptT.bind_throw, run_bind, owner_run, hl,
          Option.isSome_some, ↓reduceIte, run_throw]
      | none =>
        cases hs : (b.storeOf (Durability.ofConf c)).create s c with
        | error e => simp only [addStrand, hc, ExceptT.bind_throw, run_bind, owner_run, hl,
            Option.isSome_none, Bool.false_eq_true, ↓reduceIte, run_get, hs, ofStore_error]
        | ok st => simp only [addStrand, hc, ExceptT.bind_throw, run_bind, owner_run, hl,
            Option.isSome_none, Bool.false_eq_true, ↓reduceIte, run_get, hs, ofStore_ok, run_modify,
            report_run, withStore_transport, withStore_metrics, withStore_drawn]

theorem send_run (s p : String) (stamps : Nat → Stamp) (b : Broker) :
    (send s p stamps).run.run b =
      match b.home s with
      | .error e => (.error e, b)
      | .ok d =>
        match (b.storeOf d).save (b.draft stamps s p) with
        | .error e => (.error (.ofStore s e), { b with drawn := b.drawn + 1 })
        | .ok st =>
          match b.transport.send (b.draft stamps s p) with
          | .error e =>
            (.error (.transport s e),
              ({ b with drawn := b.drawn + 1 }.withStore d st).depthReported d s)
          | .ok t =>
            (.ok (b.draft stamps s p),
              { ({ b with drawn := b.drawn + 1 }.withStore d st).depthReported d s with
                transport := t,
                metrics := (({ b with drawn := b.drawn + 1 }.withStore d st).depthReported d s).metrics.noteSent s }) := by
  cases hh : b.home s with
  | error e => simp only [send, bind_pure_comp, run_bind, requireOwner_run, hh]
  | ok d =>
    cases hs : (b.storeOf d).save (b.draft stamps s p) with
    | error e => simp only [send, bind_pure_comp, run_bind, requireOwner_run, hh, draw_run,
        make_eq_draft, run_get, storeOf_withDrawn, hs, ofStore_error]
    | ok st =>
      cases ht : b.transport.send (b.draft stamps s p) with
      | error e =>
        simp only [send, bind_pure_comp, run_bind, requireOwner_run, hh, draw_run, make_eq_draft,
            run_get, storeOf_withDrawn, hs, ofStore_ok, run_modify, reportDepth_run,
            depthReported_transport, withStore_transport, ht, run_throw]
      | ok t =>
        simp only [send, bind_pure_comp, run_bind, requireOwner_run, hh, draw_run, make_eq_draft,
            run_get, storeOf_withDrawn, hs, ofStore_ok, run_modify, reportDepth_run,
            depthReported_transport, withStore_transport, ht, depthReported_volatile,
            depthReported_durable, depthReported_drawn, withStore_drawn, run_map, report_run]

theorem receive_run (s : String) (b : Broker) :
    (receive s).run.run b =
      match b.home s with
      | .error e => (.error e, b)
      | .ok _ =>
        match b.transport.poll s with
        | .error e => (.error (receiveError s e), b)
        | .ok (.ready m, t) =>
          (.ok (.ready m), { b with transport := t, metrics := b.metrics.noteReceived s })
        | .ok (.waiting n, t) => (.ok (.waiting n), { b with transport := t }) := by
  cases hh : b.home s with
  | error e => simp only [receive, bind_pure_comp, run_bind, requireOwner_run, hh]
  | ok d =>
    cases hp : b.transport.poll s with
    | error e => simp only [receive, bind_pure_comp, run_bind, requireOwner_run, hh, run_get, hp,
        run_throw]
    | ok r =>
      obtain ⟨_ | _, t⟩ := r <;> simp only [receive, bind_pure_comp, run_bind, requireOwner_run, hh,
          run_get, hp, run_modify, run_map, report_run]

theorem acknowledge_run (s id : String) (b : Broker) :
    (acknowledge s id).run.run b =
      match b.home s with
      | .error e => (.error e, b)
      | .ok d =>
        match (b.storeOf d).acknowledge s id with
        | .error e => (.error (.ofStore s e), b)
        | .ok (m, st) => (.ok m.markAcked, (b.withStore d st).depthReported d s) := by
  cases hh : b.home s with
  | error e => simp only [acknowledge, bind_pure_comp, run_bind, requireOwner_run, hh]
  | ok d =>
    cases ha : (b.storeOf d).acknowledge s id with
    | error e => simp only [acknowledge, bind_pure_comp, run_bind, requireOwner_run, hh, run_get,
        ha, ofStore_error]
    | ok r =>
      obtain ⟨m, st⟩ := r
      simp only [acknowledge, bind_pure_comp, run_bind, requireOwner_run, hh, run_get, ha,
          ofStore_ok, run_modify, run_map, reportDepth_run]

theorem removeStrand_run (s : String) (b : Broker) :
    (removeStrand s).run.run b =
      match b.home s with
      | .error e => (.error e, b)
      | .ok d =>
        match (b.storeOf d).delete s with
        | .error e => (.error (.ofStore s e), b)
        | .ok st => (.ok (), { b.withStore d st with metrics := b.metrics.noteDepth s 0 }) := by
  cases hh : b.home s with
  | error e => simp only [removeStrand, run_bind, requireOwner_run, hh]
  | ok d =>
    cases hd : (b.storeOf d).delete s with
    | error e => simp only [removeStrand, run_bind, requireOwner_run, hh, run_get, hd,
        ofStore_error]
    | ok st => simp only [removeStrand, run_bind, requireOwner_run, hh, run_get, hd, ofStore_ok,
        run_modify, report_run, withStore_transport, withStore_metrics, withStore_drawn]

/-! ## Successful calls

What a call that answered leaves: its checks, the store it wrote, and the broker's stores, stamp
count and transport after it. The metrics are left out; no law about runs reads them. -/

theorem addStrand_ok {s : String} {c : StrandConf} {b b' : Broker}
    (h : (addStrand s c).run.run b = (.ok (), b')) :
    Strand.check s = .ok () ∧ b.locate s = .ok none ∧
      ∃ st, (b.storeOf (Durability.ofConf c)).create s c = .ok st ∧
        (∀ d, b'.storeOf d = if d = Durability.ofConf c then st else b.storeOf d) ∧
        b'.drawn = b.drawn ∧ b'.transport = b.transport := by
  rw [addStrand_run] at h
  cases hc : Strand.check s with
  | error r => simp only [hc] at h; cases (Prod.mk.inj h).1
  | ok u =>
    cases hl : b.locate s with
    | error e => simp only [hc, hl] at h; cases (Prod.mk.inj h).1
    | ok d? =>
      cases d? with
      | some d => simp only [hc, hl] at h; cases (Prod.mk.inj h).1
      | none =>
        cases hs : (b.storeOf (Durability.ofConf c)).create s c with
        | error e => simp only [hc, hl, hs] at h; cases (Prod.mk.inj h).1
        | ok st =>
          simp only [hc, hl, hs] at h
          obtain ⟨-, rfl⟩ := Prod.mk.inj h
          refine ⟨rfl, rfl, st, rfl, fun d => ?_, by simp, by simp⟩
          cases d <;> cases Durability.ofConf c <;> rfl

theorem send_ok {s p : String} {stamps : Nat → Stamp} {b b' : Broker} {m : Envelope}
    (h : (send s p stamps).run.run b = (.ok m, b')) :
    ∃ d st t, b.home s = .ok d ∧ (b.storeOf d).save (b.draft stamps s p) = .ok st ∧
      b.transport.send (b.draft stamps s p) = .ok t ∧ m = b.draft stamps s p ∧
      (∀ d', b'.storeOf d' = if d' = d then st else b.storeOf d') ∧
      b'.drawn = b.drawn + 1 ∧ b'.transport = t := by
  rw [send_run] at h
  cases hh : b.home s with
  | error e => simp only [hh] at h; cases (Prod.mk.inj h).1
  | ok d =>
    cases hs : (b.storeOf d).save (b.draft stamps s p) with
    | error e => simp only [hh, hs] at h; cases (Prod.mk.inj h).1
    | ok st =>
      cases ht : b.transport.send (b.draft stamps s p) with
      | error e => simp only [hh, hs, ht] at h; cases (Prod.mk.inj h).1
      | ok t =>
        simp only [hh, hs, ht] at h
        obtain ⟨hm, rfl⟩ := Prod.mk.inj h
        refine ⟨d, st, t, rfl, hs, rfl, (Except.ok.inj hm).symm, fun d' => ?_, by simp, rfl⟩
        cases d' <;> cases d <;> simp only [storeOf, depthReported, withStore, ↓reduceIte,
            reduceCtorEq] <;> split <;> rfl

theorem acknowledge_ok {s id : String} {b b' : Broker} {m' : Envelope}
    (h : (acknowledge s id).run.run b = (.ok m', b')) :
    ∃ d m st, b.home s = .ok d ∧ (b.storeOf d).acknowledge s id = .ok (m, st) ∧
      m' = m.markAcked ∧ (∀ d', b'.storeOf d' = if d' = d then st else b.storeOf d') ∧
      b'.drawn = b.drawn ∧ b'.transport = b.transport := by
  rw [acknowledge_run] at h
  cases hh : b.home s with
  | error e => simp only [hh] at h; cases (Prod.mk.inj h).1
  | ok d =>
    cases ha : (b.storeOf d).acknowledge s id with
    | error e => simp only [hh, ha] at h; cases (Prod.mk.inj h).1
    | ok r =>
      obtain ⟨m, st⟩ := r
      simp only [hh, ha] at h
      obtain ⟨hm, rfl⟩ := Prod.mk.inj h
      exact ⟨d, m, st, rfl, ha, (Except.ok.inj hm).symm, fun d' => by simp, by simp, by simp⟩

theorem removeStrand_ok {s : String} {b b' : Broker}
    (h : (removeStrand s).run.run b = (.ok (), b')) :
    ∃ d st, b.home s = .ok d ∧ (b.storeOf d).delete s = .ok st ∧
      (∀ d', b'.storeOf d' = if d' = d then st else b.storeOf d') ∧
      b'.drawn = b.drawn ∧ b'.transport = b.transport := by
  rw [removeStrand_run] at h
  cases hh : b.home s with
  | error e => simp only [hh] at h; cases (Prod.mk.inj h).1
  | ok d =>
    cases hd : (b.storeOf d).delete s with
    | error e => simp only [hh, hd] at h; cases (Prod.mk.inj h).1
    | ok st =>
      simp only [hh, hd] at h
      obtain ⟨-, rfl⟩ := Prod.mk.inj h
      refine ⟨d, st, rfl, hd, fun d' => ?_, by simp, by simp⟩
      cases d' <;> cases d <;> rfl

/-- A receive moves envelopes out of the transport and touches no store. -/
theorem receive_stores (s : String) (b : Broker) :
    (∀ d, ((receive s).run.run b).2.storeOf d = b.storeOf d) ∧
      ((receive s).run.run b).2.drawn = b.drawn := by
  rw [receive_run]
  split
  · exact ⟨fun _ => rfl, rfl⟩
  · split
    · exact ⟨fun _ => rfl, rfl⟩
    · exact ⟨fun d => by cases d <;> rfl, rfl⟩
    · exact ⟨fun d => by cases d <;> rfl, rfl⟩

/-! ## Recovery -/

/-- The broker after depth reports of a list of strands, in the durable store, in order. -/
def depthsReported (b : Broker) (ss : List String) : Broker :=
  ss.foldl (fun b s => b.depthReported .durable s) b

@[simp] theorem depthsReported_storeOf (b : Broker) (ss : List String) (d : Durability) :
    (b.depthsReported ss).storeOf d = b.storeOf d := by
  induction ss generalizing b with
  | nil => rfl
  | cons s rest ih =>
    simp only [depthsReported, List.foldl_cons] at ih ⊢
    rw [ih]
    simp

@[simp] theorem depthsReported_volatile (b : Broker) (ss : List String) :
    (b.depthsReported ss).volatile = b.volatile :=
  depthsReported_storeOf b ss .volatile

@[simp] theorem depthsReported_durable (b : Broker) (ss : List String) :
    (b.depthsReported ss).durable = b.durable :=
  depthsReported_storeOf b ss .durable

@[simp] theorem depthsReported_transport (b : Broker) (ss : List String) :
    (b.depthsReported ss).transport = b.transport := by
  induction ss generalizing b with
  | nil => rfl
  | cons s rest ih =>
    simp only [depthsReported, List.foldl_cons] at ih ⊢
    rw [ih]
    simp

@[simp] theorem depthsReported_drawn (b : Broker) (ss : List String) :
    (b.depthsReported ss).drawn = b.drawn := by
  induction ss generalizing b with
  | nil => rfl
  | cons s rest ih =>
    simp only [depthsReported, List.foldl_cons] at ih ⊢
    rw [ih]
    simp

theorem refreshDepths_run (ss : List String) (b : Broker) :
    (refreshDepths ss).run.run b = (.ok (), b.depthsReported ss) := by
  induction ss generalizing b with
  | nil => rfl
  | cons s rest ih => simp only [refreshDepths, run_bind, reportDepth_run, ih, depthsReported,
      List.foldl_cons]

end Broker

/-- A transport handed envelopes one by one: the transport after, and the envelopes it took,
in order. A refused envelope leaves the transport as it was. -/
def Transport.handOver : Transport → List Envelope → Transport × List Envelope
  | t, [] => (t, [])
  | t, m :: ms =>
    match t.send m with
    | .ok t' => ((Transport.handOver t' ms).1, m :: (Transport.handOver t' ms).2)
    | .error _ => Transport.handOver t ms

theorem Transport.handOver_length_le (t : Transport) (ms : List Envelope) :
    (t.handOver ms).2.length ≤ ms.length := by
  induction ms generalizing t with
  | nil => simp only [handOver, List.length_nil, Std.le_refl]
  | cons m rest ih =>
    cases h : t.send m with
    | ok t' => simpa [handOver, h] using ih t'
    | error e => simpa [handOver, h] using Nat.le_succ_of_le (ih t)

/-- A transport takes only envelopes it is handed. -/
theorem Transport.mem_handOver {t : Transport} {ms : List Envelope} {m : Envelope}
    (h : m ∈ (t.handOver ms).2) : m ∈ ms := by
  induction ms generalizing t with
  | nil => simp [handOver] at h
  | cons m' rest ih =>
    cases hs : t.send m' with
    | ok t' =>
      simp only [handOver, hs, List.mem_cons] at h ⊢
      exact h.imp_right ih
    | error e =>
      simp only [handOver, hs] at h
      exact List.mem_cons_of_mem _ (ih h)

namespace Broker

/-! ## What a recovery walk reads

A cursor gives envelopes and read errors. A walk reads up to the first read error that is not
an undecodable entry; these three functions say what it finds there. -/

/-- The envelopes a recovery walk reads, in the order the cursor gives them. -/
def readEnvelopes : List (Except StoreError Envelope) → List Envelope
  | [] => []
  | .ok m :: rest => m :: readEnvelopes rest
  | .error e :: rest => if e.kind = .serializationFailure then readEnvelopes rest else []

/-- The undecodable entries a recovery walk skips. -/
def undecodable : List (Except StoreError Envelope) → Nat
  | [] => 0
  | .ok _ :: rest => undecodable rest
  | .error e :: rest => if e.kind = .serializationFailure then undecodable rest + 1 else 0

/-- The read error that stops a recovery walk, if one does. -/
def stopOf : List (Except StoreError Envelope) → Option StoreError
  | [] => none
  | .ok _ :: rest => stopOf rest
  | .error e :: rest => if e.kind = .serializationFailure then stopOf rest else some e

/-- A cursor that gives only envelopes is read to its end. -/
theorem read_map_ok (ms : List Envelope) :
    readEnvelopes (ms.map .ok) = ms ∧ undecodable (ms.map .ok) = 0 ∧
      stopOf (ms.map .ok) = none := by
  induction ms with
  | nil => exact ⟨rfl, rfl, rfl⟩
  | cons m rest ih =>
    obtain ⟨hread, hskip, hstop⟩ := ih
    simp only [List.map_cons, readEnvelopes, undecodable, stopOf, hread, hskip, hstop, and_self]

/-- `resend` hands over the envelopes it reads and counts: the report grows by what the
transport took, what it refused and what could not be decoded, each envelope read has its
strand met, and each envelope taken is counted as sent on its strand. -/
theorem resend_run (items : List (Except StoreError Envelope)) (w : RecoveryWalk) (b : Broker) :
    (resend items w).run.run b =
      (.ok { report :=
              { resent := w.report.resent + (b.transport.handOver (readEnvelopes items)).2.length,
                failed := w.report.failed + ((readEnvelopes items).length -
                  (b.transport.handOver (readEnvelopes items)).2.length) + undecodable items },
             met := (readEnvelopes items).foldl (fun t m => t.insert m.strand ()) w.met,
             stopped := (stopOf items).or w.stopped },
        { b with
          transport := (b.transport.handOver (readEnvelopes items)).1,
          metrics := (b.transport.handOver (readEnvelopes items)).2.foldl
            (fun mt m => mt.noteSent m.strand) b.metrics }) := by
  induction items generalizing w b with
  | nil => rfl
  | cons i rest ih =>
    cases i with
    | ok m =>
      cases h : b.transport.send m with
      | ok t =>
        have hle := Transport.handOver_length_le t (readEnvelopes rest)
        simp only [resend, run_bind, run_get, h, run_modify, report_run, ih, readEnvelopes,
          undecodable, stopOf, Transport.handOver, List.length_cons, List.foldl_cons]
        congr 4 <;> omega
      | error e =>
        have hle := Transport.handOver_length_le b.transport (readEnvelopes rest)
        simp only [resend, run_bind, run_get, h, ih, readEnvelopes, undecodable, stopOf,
          Transport.handOver, List.length_cons, List.foldl_cons]
        congr 4; omega
    | error e =>
      by_cases hk : e.kind = .serializationFailure
      · simp only [resend, hk, if_true, ih, readEnvelopes, undecodable, stopOf]
        congr 4; omega
      · simp only [resend, hk, if_false, run_pure, readEnvelopes, undecodable, stopOf,
          Transport.handOver, List.length_nil, List.foldl_nil, Option.some_or]
        rfl

/-- A pass over what a cursor gives: the walk, the depths of the strands of the envelopes read,
and the report, or the read error that stopped the walk. -/
theorem recoverFrom_run (items : List (Except StoreError Envelope)) (b : Broker) :
    (recoverFrom items).run.run b =
      ((stopOf items).elim
          (.ok { resent := (b.transport.handOver (readEnvelopes items)).2.length,
                 failed := (readEnvelopes items).length -
                   (b.transport.handOver (readEnvelopes items)).2.length + undecodable items })
          (fun e => .error (.recovery e)),
        Broker.depthsReported
          { b with
            transport := (b.transport.handOver (readEnvelopes items)).1,
            metrics := (b.transport.handOver (readEnvelopes items)).2.foldl
              (fun mt m => mt.noteSent m.strand) b.metrics }
          (strandsOf (readEnvelopes items))) := by
  simp only [recoverFrom, run_bind, resend_run, refreshDepths_run, Nat.zero_add, Option.or_none]
  cases stopOf items <;> rfl

theorem recover_run (b : Broker) :
    recover.run.run b =
      match Cursor.open? b.durable with
      | .error e => (.error (.recovery e), b)
      | .ok _ =>
        (.ok { resent := (b.transport.handOver b.durable.pending).2.length,
               failed := b.durable.pending.length - (b.transport.handOver b.durable.pending).2.length },
          Broker.depthsReported
            { b with
              transport := (b.transport.handOver b.durable.pending).1,
              metrics := (b.transport.handOver b.durable.pending).2.foldl
                (fun mt m => mt.noteSent m.strand) b.metrics }
            (strandsOf b.durable.pending)) := by
  obtain ⟨hread, hskip, hstop⟩ := read_map_ok b.durable.pending
  cases h : Cursor.open? b.durable with
  | error e => simp only [recover, ExceptT.bind_throw, run_bind, run_get, h, run_throw]
  | ok c => simp only [recover, run_bind, run_get, h, recoverFrom_run, hread, hskip,
      hstop, Option.elim_none, Nat.add_zero]

end Broker

end Courier
