import Courier.Proofs.Delivery
import Courier.Proofs.Placement

/-!
# The metrics follow the stores and the log

A recording sink keeps three numbers per strand, and the broker pushes each of them from its
own call sites: the depth from `addStrand`, from `send` after the save, from `acknowledge`,
`removeStrand` and the strands a recovery pass met; the sent count from a send the transport
took and from each envelope a recovery pass handed over and the transport took; the received
count from a receive that returned an envelope.

Along every run from empty stores and an empty recording sink, with the transport restarted at
will but no store wiped or reloaded from outside, the numbers say what the broker holds and did
(`metrics_follow_the_stores`):

- the depth of a registered strand is the number of envelopes its store holds for it, and that
  of any other strand is zero (`Broker.DepthAgrees`);
- the sent count of a strand is the number of envelopes of the strand the log shows taken by the
  transport, and the received count the number of envelopes receives on it returned.

The invariant `World.Metered` carries the law. It rests on placement (each strand in one store)
and on well-formed stores, whose run lemma is `World.storesWF_run`.
-/

namespace Courier

/-! ## The sink -/

namespace Metrics

/-- Whether a sink keeps what it is told. -/
def Recording : Metrics → Prop
  | .recording _ => True
  | .discarding => False

variable {mt : Metrics}

theorem Recording.update (h : mt.Recording) (s : String) (f : StrandMetrics → StrandMetrics) :
    (mt.update s f).Recording := by
  cases mt with
  | recording t => trivial
  | discarding => exact h.elim

theorem Recording.noteDepth (h : mt.Recording) (s : String) (n : Nat) :
    (mt.noteDepth s n).Recording := h.update _ _

theorem Recording.noteSent (h : mt.Recording) (s : String) : (mt.noteSent s).Recording :=
  h.update _ _

theorem Recording.noteReceived (h : mt.Recording) (s : String) :
    (mt.noteReceived s).Recording := h.update _ _

theorem get_update (h : mt.Recording) (s t : String) (f : StrandMetrics → StrandMetrics) :
    (mt.update s f).get t = if s = t then f (mt.get t) else mt.get t := by
  cases mt with
  | recording tb => by_cases hst : s = t <;> simp [update, get, Keyed.alter, hst]
  | discarding => exact h.elim

theorem get_noteDepth (h : mt.Recording) (s t : String) (n : Nat) :
    (mt.noteDepth s n).get t = if s = t then { mt.get t with depth := n } else mt.get t :=
  get_update h s t _

theorem get_noteSent (h : mt.Recording) (s t : String) :
    (mt.noteSent s).get t =
      if s = t then { mt.get t with sent := (mt.get t).sent + 1 } else mt.get t :=
  get_update h s t _

theorem get_noteReceived (h : mt.Recording) (s t : String) :
    (mt.noteReceived s).get t =
      if s = t then { mt.get t with received := (mt.get t).received + 1 } else mt.get t :=
  get_update h s t _

/-- Counting envelopes sent one by one adds, per strand, the envelopes of that strand. -/
theorem get_foldl_noteSent (h : mt.Recording) (ms : List Envelope) (t : String) :
    (ms.foldl (fun mt m => mt.noteSent m.strand) mt).get t =
      { mt.get t with sent := (mt.get t).sent + (ms.filter (·.strand = t)).length } := by
  induction ms generalizing mt with
  | nil => simp
  | cons m rest ih =>
    rw [List.foldl_cons, ih (h.noteSent _), get_noteSent h]
    by_cases hmt : m.strand = t <;> simp [hmt, Nat.add_assoc, Nat.add_comm 1]

theorem Recording.foldl_noteSent (h : mt.Recording) (ms : List Envelope) :
    (ms.foldl (fun mt m => mt.noteSent m.strand) mt).Recording := by
  induction ms generalizing mt with
  | nil => exact h
  | cons m rest ih => exact ih (h.noteSent _)

@[simp] theorem get_fresh (t : String) : fresh.get t = {} := rfl

end Metrics

/-! ## Well-formed stores along a run -/

namespace Broker

/-- Both stores keep every record where its key says (`Store.WF`). -/
def StoresWF (b : Broker) : Prop := ∀ d, (b.storeOf d).WF

variable {b b' : Broker} {s : String}

theorem StoresWF.of_write (h : b.StoresWF) {d : Durability} {st : Store}
    (hst : ∀ d', b'.storeOf d' = if d' = d then st else b.storeOf d') (hwf : st.WF) :
    b'.StoresWF := by
  intro d'
  rw [hst]
  split
  · exact hwf
  · exact h d'

theorem StoresWF.of_stores (h : b.StoresWF) (hst : ∀ d, b'.storeOf d = b.storeOf d) :
    b'.StoresWF := fun d => hst d ▸ h d

end Broker

namespace World

open Broker

variable {stamps : Nat → Stamp}

theorem storesWF_step {w : World} (h : w.broker.StoresWF) (a : Action) :
    (w.step stamps a).broker.StoresWF := by
  cases a with
  | addStrand s c =>
    simp only [step, call_broker]
    cases hr : (Broker.addStrand s c).run.run w.broker with
    | mk r b' =>
      show b'.StoresWF
      cases r with
      | error e => exact addStrand_error hr ▸ h
      | ok u =>
        obtain ⟨hc, -, st, hcreate, hst, -, -⟩ := addStrand_ok hr
        exact h.of_write hst
          (Store.create_wf (h _) ((Strand.check_ok_iff s).1 hc).2.2 hcreate)
  | send s p =>
    simp only [step, call_broker]
    cases hr : (Broker.send s p stamps).run.run w.broker with
    | mk r b' =>
      show b'.StoresWF
      cases r with
      | error e =>
        rcases send_error hr with ⟨-, rfl⟩ | ⟨d, st, te, -, hs, -, -, rfl⟩
        · exact h
        · exact h.of_write (d := d) (fun d' => by simp) (Store.save_wf (h d) hs)
      | ok m =>
        obtain ⟨d, st, t, -, hs, -, -, hst, -, -⟩ := send_ok hr
        exact h.of_write hst (Store.save_wf (h d) hs)
  | receive s => exact h.of_stores (receive_stores s w.broker).1
  | acknowledge s id =>
    simp only [step, call_broker]
    cases hr : (Broker.acknowledge s id).run.run w.broker with
    | mk r b' =>
      show b'.StoresWF
      cases r with
      | error e => exact acknowledge_error hr ▸ h
      | ok m' =>
        obtain ⟨d, m, st, -, hack, -, hst, -, -⟩ := acknowledge_ok hr
        exact h.of_write hst (Store.acknowledge_wf (h d) hack)
  | removeStrand s =>
    simp only [step, call_broker]
    cases hr : (Broker.removeStrand s).run.run w.broker with
    | mk r b' =>
      show b'.StoresWF
      cases r with
      | error e => exact removeStrand_error hr ▸ h
      | ok u =>
        obtain ⟨d, st, -, hdel, hst, -, -⟩ := removeStrand_ok hr
        exact h.of_write hst (Store.delete_wf (h d) hdel)
  | recover =>
    exact h.of_stores fun d => by
      cases d
      · exact (recover_stores w.broker).2
      · exact (recover_stores w.broker).1
  | durability s => simpa [step, durability_run] using h
  | strandConfig s => simpa [step, strandConfig_run] using h
  | restart n => exact h.of_stores fun d => by cases d <;> rfl
  | close d => exact h.of_write (d := d) (fun d' => by simp [step]) ((Store.sameData_close _).wf (h d))
  | reset d n =>
    have hst : ∀ d', (w.step stamps (.reset d n)).broker.storeOf d' =
        if d' = d then ((w.broker.storeOf d).reset n).2 else w.broker.storeOf d' :=
      fun d' => by simp [step]
    refine h.of_write hst ?_
    rcases Store.reset_cases (w.broker.storeOf d) n with hb | hsame
    · exact hb.wf
    · exact hsame.wf (h d)
  | reload d n =>
    have hst : ∀ d', (w.step stamps (.reload d n)).broker.storeOf d' =
        if d' = d then ((w.broker.storeOf d).reload n).2 else w.broker.storeOf d' :=
      fun d' => by simp [step]
    refine h.of_write hst ?_
    rcases Store.reload_cases (w.broker.storeOf d) n with hb | hsame
    · exact hb.wf
    · exact hsame.wf (h d)
  | block flag =>
    exact h.of_write (d := .durable) (fun d' => by simp [step])
      ((Store.sameData_withBlocked _ flag).wf (h .durable))

theorem storesWF_run (stamps : Nat → Stamp) {w : World} (h : w.broker.StoresWF)
    (acts : List Action) : (w.run stamps acts).broker.StoresWF :=
  run_invariant stamps (fun w => w.broker.StoresWF) (fun _ a hw => storesWF_step hw a) h acts

end World

/-! ## Depth figures -/

namespace Broker

/-- The depth the metrics show for strand `s` is what its store holds for it, and zero when no
store registers it. -/
def DepthAgrees (b : Broker) (s : String) : Prop :=
  (∀ d, (b.storeOf d).confOf s ≠ none →
      (b.metrics.get s).depth = ((b.storeOf d).held s).length) ∧
    ((∀ d, (b.storeOf d).confOf s = none) → (b.metrics.get s).depth = 0)

variable {b b' : Broker} {s : String}

/-- A change that keeps a strand's depth figure, its registration and, where it is registered,
its envelopes keeps the strand's agreement. -/
theorem DepthAgrees.frame (h : b.DepthAgrees s)
    (hm : (b'.metrics.get s).depth = (b.metrics.get s).depth)
    (hc : ∀ d, (b'.storeOf d).confOf s = (b.storeOf d).confOf s)
    (hh : ∀ d, (b.storeOf d).confOf s ≠ none → (b'.storeOf d).held s = (b.storeOf d).held s) :
    b'.DepthAgrees s := by
  refine ⟨fun d hreg => ?_, fun hnone => ?_⟩
  · rw [hc] at hreg
    rw [hm, hh d hreg]
    exact h.1 d hreg
  · rw [hm]
    exact h.2 fun d => (hc d).symm.trans (hnone d)

/-- A figure set to what the one store that registers the strand holds. -/
theorem DepthAgrees.of_registered (hp : b.Placed) {d : Durability}
    (hreg : (b.storeOf d).confOf s ≠ none)
    (hm : (b.metrics.get s).depth = ((b.storeOf d).held s).length) : b.DepthAgrees s := by
  refine ⟨fun d' hreg' => ?_, fun hnone => absurd (hnone d) hreg⟩
  rw [hp.unique s d' d hreg' hreg]
  exact hm

theorem DepthAgrees.of_unregistered (hnone : ∀ d, (b.storeOf d).confOf s = none)
    (hm : (b.metrics.get s).depth = 0) : b.DepthAgrees s :=
  ⟨fun d hreg => absurd (hnone d) hreg, fun _ => hm⟩

/-- A strand's agreement reads only its figure and the stores. -/
theorem DepthAgrees.of_stores (h : b.DepthAgrees s) (hst : ∀ d, b'.storeOf d = b.storeOf d)
    (hm : (b'.metrics.get s).depth = (b.metrics.get s).depth) : b'.DepthAgrees s :=
  h.frame hm (fun d => by rw [hst]) fun d _ => by rw [hst]

theorem depthReported_metrics (b : Broker) (d : Durability) (s : String) :
    (b.depthReported d s).metrics =
      match (b.storeOf d).unacked s with
      | .ok n => b.metrics.noteDepth s n
      | .error _ => b.metrics := by
  unfold depthReported
  cases (b.storeOf d).unacked s <;> rfl

theorem recording_depthReported (h : b.metrics.Recording) (d : Durability) (s : String) :
    (b.depthReported d s).metrics.Recording := by
  rw [depthReported_metrics]
  split
  · exact h.noteDepth _ _
  · exact h

/-- A depth report leaves the counts of envelopes sent and received as they were. -/
theorem counts_depthReported (h : b.metrics.Recording) (d : Durability) (s t : String) :
    ((b.depthReported d s).metrics.get t).sent = (b.metrics.get t).sent ∧
      ((b.depthReported d s).metrics.get t).received = (b.metrics.get t).received := by
  rw [depthReported_metrics]
  split
  · rw [Metrics.get_noteDepth h]
    split <;> exact ⟨rfl, rfl⟩
  · exact ⟨rfl, rfl⟩

/-- A depth report sets its strand's figure to what the store counts, when the store can count
it, and so leaves every strand agreeing when all others did. -/
theorem depthReported_agrees (hp : b.Placed) (hrec : b.metrics.Recording) {d : Durability}
    (hother : ∀ t, t ≠ s → b.DepthAgrees t)
    (hs : ((b.storeOf d).isOpen = true ∧ (b.storeOf d).confOf s ≠ none) ∨ b.DepthAgrees s)
    (t : String) : (b.depthReported d s).DepthAgrees t := by
  have hst : ∀ d', (b.depthReported d s).storeOf d' = b.storeOf d' := depthReported_storeOf b d s
  have hp' : (b.depthReported d s).Placed := hp.of_stores hst
  cases hu : (b.storeOf d).unacked s with
  | error e =>
    -- the store could not count: nothing changed, and the strand agreed already
    have hsame : (b.depthReported d s).metrics = b.metrics := by
      rw [depthReported_metrics, hu]
    have hagree : b.DepthAgrees s := by
      refine hs.resolve_left fun ⟨ho, hreg⟩ => ?_
      rw [Store.unacked_eq, if_pos ho, if_neg hreg] at hu
      cases hu
    by_cases hts : t = s
    · subst hts; exact hagree.of_stores hst (by rw [hsame])
    · exact (hother t hts).of_stores hst (by rw [hsame])
  | ok n =>
    have hm : (b.depthReported d s).metrics = b.metrics.noteDepth s n := by
      rw [depthReported_metrics, hu]
    rw [Store.unacked_eq] at hu
    by_cases ho : (b.storeOf d).isOpen
    · by_cases hreg : (b.storeOf d).confOf s = none
      · rw [if_pos ho, if_pos hreg] at hu; cases hu
      · rw [if_pos ho, if_neg hreg, Except.ok.injEq] at hu
        by_cases hts : s = t
        · subst hts
          refine DepthAgrees.of_registered hp' (d := d) (by rwa [hst]) ?_
          rw [hm, Metrics.get_noteDepth hrec, if_pos rfl, hst, hu]
        · exact (hother t (Ne.symm hts)).of_stores hst
            (by rw [hm, Metrics.get_noteDepth hrec, if_neg hts])
    · rw [if_neg ho] at hu; cases hu

/-- Depth reports of a list of strands in the durable store keep every strand agreeing. -/
theorem depthsReported_agrees (hp : b.Placed) (hrec : b.metrics.Recording)
    (h : ∀ t, b.DepthAgrees t) (ss : List String) :
    (∀ t, (b.depthsReported ss).DepthAgrees t) ∧ (b.depthsReported ss).metrics.Recording ∧
      ∀ t, ((b.depthsReported ss).metrics.get t).sent = (b.metrics.get t).sent ∧
        ((b.depthsReported ss).metrics.get t).received = (b.metrics.get t).received := by
  induction ss generalizing b with
  | nil => exact ⟨h, hrec, fun t => ⟨rfl, rfl⟩⟩
  | cons s rest ih =>
    have hp' : (b.depthReported .durable s).Placed := hp.of_stores (depthReported_storeOf b _ s)
    obtain ⟨hagree, hrec', hcounts⟩ := ih hp' (recording_depthReported hrec _ s)
      (depthReported_agrees hp hrec (fun t _ => h t) (.inr (h s)))
    refine ⟨hagree, hrec', fun t => ?_⟩
    obtain ⟨hsent, hrcv⟩ := counts_depthReported hrec .durable s t
    exact ⟨(hcounts t).1.trans hsent, (hcounts t).2.trans hrcv⟩

end Broker


/-! ## What successful calls leave -/

namespace Broker

variable {b b' : Broker} {s : String}

/-- A depth report changes no count of envelopes sent or received. -/
theorem counts_noteDepth (mt : Metrics) (s t : String) (n : Nat) :
    ((mt.noteDepth s n).get t).sent = (mt.get t).sent ∧
      ((mt.noteDepth s n).get t).received = (mt.get t).received := by
  cases mt with
  | recording tb =>
    rw [Metrics.get_noteDepth (show Metrics.Recording (.recording tb) from trivial)]
    split <;> exact ⟨rfl, rfl⟩
  | discarding => exact ⟨rfl, rfl⟩

/-- A write to one store that keeps a strand's registration there, its envelopes there when it is
registered, and its figure, keeps the strand's agreement. -/
theorem DepthAgrees.of_write {t : String} (h : b.DepthAgrees t) {d : Durability} {st : Store}
    (hst : ∀ d', b'.storeOf d' = if d' = d then st else b.storeOf d')
    (hm : (b'.metrics.get t).depth = (b.metrics.get t).depth)
    (hc : st.confOf t = (b.storeOf d).confOf t)
    (hh : (b.storeOf d).confOf t ≠ none → st.held t = (b.storeOf d).held t) :
    b'.DepthAgrees t := by
  refine h.frame hm (fun d' => ?_) fun d' hreg => ?_
  · rw [hst]
    split
    · subst_vars; exact hc
    · rfl
  · rw [hst]
    split
    · subst_vars; exact hh hreg
    · rfl

theorem addStrand_ok_metrics {c : StrandConf} (h : (addStrand s c).run.run b = (.ok (), b')) :
    b'.metrics = b.metrics.noteDepth s 0 := by
  rw [addStrand_run] at h
  split at h
  · cases (Prod.mk.inj h).1
  · split at h
    · cases (Prod.mk.inj h).1
    · cases (Prod.mk.inj h).1
    · split at h
      · cases (Prod.mk.inj h).1
      · rw [← (Prod.mk.inj h).2]

theorem removeStrand_ok_metrics (h : (removeStrand s).run.run b = (.ok (), b')) :
    b'.metrics = b.metrics.noteDepth s 0 := by
  rw [removeStrand_run] at h
  split at h
  · cases (Prod.mk.inj h).1
  · split at h
    · cases (Prod.mk.inj h).1
    · rw [← (Prod.mk.inj h).2]

/-- A send that answered reported the strand's depth after its save, then counted one envelope
sent. -/
theorem send_ok_metrics {p : String} {stamps : Nat → Stamp} {m : Envelope} {d : Durability}
    {st : Store} (hh : b.home s = .ok d) (hs : (b.storeOf d).save (b.draft stamps s p) = .ok st)
    (h : (send s p stamps).run.run b = (.ok m, b')) :
    b'.metrics =
      (({ b with drawn := b.drawn + 1 }.withStore d st).depthReported d s).metrics.noteSent s := by
  rw [send_run, hh] at h
  simp only [hs] at h
  cases ht : b.transport.send (b.draft stamps s p) with
  | error e => simp only [ht] at h; cases (Prod.mk.inj h).1
  | ok t =>
    simp only [ht] at h
    rw [← (Prod.mk.inj h).2]

theorem acknowledge_ok_eq {id : String} {m' : Envelope}
    (h : (acknowledge s id).run.run b = (.ok m', b')) :
    ∃ d m st, b.home s = .ok d ∧ (b.storeOf d).acknowledge s id = .ok (m, st) ∧
      b' = (b.withStore d st).depthReported d s := by
  rw [acknowledge_run] at h
  cases hh : b.home s with
  | error e => simp only [hh] at h; cases (Prod.mk.inj h).1
  | ok d =>
    cases ha : (b.storeOf d).acknowledge s id with
    | error e => simp only [hh, ha] at h; cases (Prod.mk.inj h).1
    | ok r =>
      obtain ⟨m, st⟩ := r
      simp only [hh, ha] at h
      exact ⟨d, m, st, rfl, ha, (Prod.mk.inj h).2.symm⟩

/-- After a send saved its envelope and reported the strand's depth, every strand agrees, and no
count has moved yet. -/
theorem saved_agrees {p : String} {stamps : Nat → Stamp} {d : Durability} {st : Store}
    (hp : b.Placed) (hwf : b.StoresWF) (hrec : b.metrics.Recording) (hall : ∀ t, b.DepthAgrees t)
    (hh : b.home s = .ok d) (hs : (b.storeOf d).save (b.draft stamps s p) = .ok st) :
    let b₁ := ({ b with drawn := b.drawn + 1 }.withStore d st).depthReported d s
    (∀ t, b₁.DepthAgrees t) ∧ b₁.metrics.Recording ∧
      ∀ t, (b₁.metrics.get t).sent = (b.metrics.get t).sent ∧
        (b₁.metrics.get t).received = (b.metrics.get t).received := by
  intro b₁
  obtain ⟨hreg, ho⟩ := confOf_of_home hh
  obtain ⟨-, hopen, hconf⟩ := Store.save_ok hs
  let b₀ := { b with drawn := b.drawn + 1 }.withStore d st
  have hst : ∀ d', b₀.storeOf d' = if d' = d then st else b.storeOf d' := fun d' => by simp [b₀]
  have hm₀ : b₀.metrics = b.metrics := by simp [b₀]
  have hrec₀ : b₀.metrics.Recording := by rw [hm₀]; exact hrec
  have hp₀ : b₀.Placed := hp.of_write hst fun t => .inr (by rw [hconf])
  have hother : ∀ t, t ≠ s → b₀.DepthAgrees t := by
    intro t hts
    refine (hall t).of_write hst (by rw [hm₀]) (by rw [hconf]) fun hreg' => ?_
    exact Store.save_held_other (hwf d) hs ((hwf d).sep hreg') (Ne.symm hts)
  have hs₀ : (b₀.storeOf d).isOpen = true ∧ (b₀.storeOf d).confOf s ≠ none := by
    rw [hst, if_pos rfl, hopen, hconf]
    exact ⟨ho, hreg⟩
  refine ⟨depthReported_agrees hp₀ hrec₀ hother (.inl hs₀), recording_depthReported hrec₀ d s,
    fun t => ?_⟩
  rw [← hm₀]
  exact counts_depthReported hrec₀ d s t

end Broker

/-! ## The law along a run -/

/-- Whether an action wipes or reloads a store from outside the broker. -/
def Action.resetsStore : Action → Bool
  | .reset _ _ | .reload _ _ => true
  | _ => false

namespace World

open Broker

/-- The metrics of a run against its stores and its log: a recording sink, each strand's depth
figure what its store holds, and its counts of envelopes sent and received the envelopes of the
strand the log shows taken by the transport and returned by receives. -/
structure Metered (w : World) : Prop where
  recording : w.broker.metrics.Recording
  depth : ∀ s, w.broker.DepthAgrees s
  sent : ∀ s, (w.broker.metrics.get s).sent = (w.log.filterMap (Event.acceptedOn s)).length
  received : ∀ s,
    (w.broker.metrics.get s).received = (w.log.filterMap (Event.receivedOn s)).length

variable {stamps : Nat → Stamp} {w w' : World}

/-- A fresh recording sink over empty stores, with an empty log. -/
theorem metered_start {b : Broker} (hv : b.volatile.Blank) (hd : b.durable.Blank)
    (hm : b.metrics = Metrics.fresh) : Metered ⟨b, []⟩ := by
  have hnone : ∀ d s, (b.storeOf d).confOf s = none := by
    intro d s
    cases d
    · exact hd.confOf s
    · exact hv.confOf s
  refine ⟨by rw [hm]; trivial, fun s => .of_unregistered (hnone · s) (by simp [hm]),
    fun s => by simp [hm], fun s => by simp [hm]⟩

/-- Events that show nothing taken by the transport or received. -/
def Uncounted (evs : List Event) : Prop :=
  ∀ s, evs.filterMap (Event.acceptedOn s) = [] ∧ evs.filterMap (Event.receivedOn s) = []

/-- A step that moves no count and logs nothing counted keeps the law when every strand's depth
figure agrees after it. -/
theorem Metered.of_depths (h : Metered w) (hrec : w'.broker.metrics.Recording)
    (hdepth : ∀ s, w'.broker.DepthAgrees s)
    (hcounts : ∀ s, (w'.broker.metrics.get s).sent = (w.broker.metrics.get s).sent ∧
      (w'.broker.metrics.get s).received = (w.broker.metrics.get s).received)
    {evs : List Event} (hlog : w'.log = w.log ++ evs) (hevs : Uncounted evs) : Metered w' := by
  refine ⟨hrec, hdepth, fun s => ?_, fun s => ?_⟩
  · rw [(hcounts s).1, hlog, List.filterMap_append, (hevs s).1, List.append_nil]
    exact h.sent s
  · rw [(hcounts s).2, hlog, List.filterMap_append, (hevs s).2, List.append_nil]
    exact h.received s

/-- A step that leaves the metrics alone, keeps the data of both stores and logs nothing
counted. -/
theorem Metered.of_quiet (h : Metered w) (hm : w'.broker.metrics = w.broker.metrics)
    (hst : ∀ d, (w.broker.storeOf d).SameData (w'.broker.storeOf d)) {evs : List Event}
    (hlog : w'.log = w.log ++ evs) (hevs : Uncounted evs) : Metered w' :=
  h.of_depths (hm ▸ h.recording)
    (fun s => (h.depth s).frame (by rw [hm]) (fun d => by rw [(hst d).confOf])
      fun d _ => by rw [(hst d).held])
    (fun s => by rw [hm]; exact ⟨rfl, rfl⟩) hlog hevs

/-- A call that left the broker as it was and logged nothing counted. -/
theorem Metered.of_same (h : Metered w) (hb : w'.broker = w.broker) {evs : List Event}
    (hlog : w'.log = w.log ++ evs) (hevs : Uncounted evs) : Metered w' :=
  h.of_quiet (by rw [hb]) (fun d => by rw [hb]; exact .refl _) hlog hevs

theorem uncounted_nil : Uncounted [] := fun _ => ⟨rfl, rfl⟩

theorem uncounted_of_isTransport {evs : List Event} (h : ∀ e ∈ evs, e.isTransport = false) :
    Uncounted evs := fun s =>
  ⟨List.filterMap_eq_nil_iff.2 fun e he => (Event.views_of_quiet (h e he) s).1,
    List.filterMap_eq_nil_iff.2 fun e he => (Event.views_of_quiet (h e he) s).2.1⟩

/-! ### Each call -/

/-- An add registers a strand no store had, so its store holds nothing for it, and reports a
depth of zero. -/
theorem Metered.addStrand (hp : w.broker.Placed) (hwf : w.broker.StoresWF) (h : Metered w)
    (s : String) (c : StrandConf) : Metered (w.step stamps (.addStrand s c)) := by
  have hp' := hp.addStrand s c
  simp only [step, call]
  cases hr : (Broker.addStrand s c).run.run w.broker with
  | mk r b' =>
    rw [hr] at hp'
    have hevs : Uncounted (addedEvents s r) := uncounted_of_isTransport (addedEvents_isTransport s r)
    cases r with
    | error e =>
      exact h.of_quiet (by rw [addStrand_error hr])
        (fun d => by rw [addStrand_error hr]; exact .refl _) rfl hevs
    | ok u =>
      obtain ⟨hc, hl, st, hcreate, hst, -, -⟩ := addStrand_ok hr
      obtain ⟨hnone, -, hconf, hheld⟩ := Store.create_ok hcreate
      have hm := addStrand_ok_metrics hr
      have hrec := h.recording
      refine h.of_depths (hm ▸ hrec.update _ _) (fun t => ?_) (fun t => ?_) rfl hevs
      · by_cases hst' : s = t
        · -- the new strand: registered where its configuration asks, with nothing held
          subst hst'
          have hs : ':' ∉ s.toList := ((Strand.check_ok_iff s).1 hc).2.2
          refine DepthAgrees.of_registered hp' (d := Durability.ofConf c) (by simp [hst, hconf]) ?_
          rw [hm, Metrics.get_noteDepth hrec, if_pos rfl, hst, if_pos rfl, hheld,
            Store.held_of_confOf_none (hwf _) hnone hs]
          rfl
        · exact (h.depth t).of_write hst (by rw [hm, Metrics.get_noteDepth hrec, if_neg hst'])
            (by rw [hconf, if_neg hst']) fun _ => hheld t
      · rw [hm]; exact counts_noteDepth _ s t 0

/-- A send that saved its envelope reported its strand's depth, whatever the transport did; the
envelope counts as sent when the transport took it, and the log then shows it taken. -/
theorem Metered.send (hp : w.broker.Placed) (hwf : w.broker.StoresWF) (h : Metered w)
    (s p : String) : Metered (w.step stamps (.send s p)) := by
  simp only [step, call]
  cases hr : (Broker.send s p stamps).run.run w.broker with
  | mk r b' =>
    cases r with
    | error e =>
      rcases send_error hr with ⟨hh, rfl⟩ | ⟨d, st, te, hh, hs, -, rfl, rfl⟩
      · exact h.of_quiet rfl (fun d => .refl _) rfl
          (by rw [sendEvents_of_home_error hh]; exact uncounted_nil)
      · obtain ⟨hagree, hrec, hcounts⟩ := saved_agrees hp hwf h.recording h.depth hh hs
        exact h.of_depths hrec hagree hcounts rfl fun t => by
          simp [sendEvents, Event.acceptedOn, Event.receivedOn]
    | ok m =>
      obtain ⟨d, st, t, hh, hs, -, rfl, hst, -, -⟩ := send_ok hr
      have hm := send_ok_metrics hh hs hr
      obtain ⟨hagree, hrec, hcounts⟩ := saved_agrees hp hwf h.recording h.depth hh hs
      -- the broker after the send is the one after the depth report, with one envelope counted
      have hst' : ∀ d', b'.storeOf d' =
          (({ w.broker with drawn := w.broker.drawn + 1 }.withStore d st).depthReported d
            s).storeOf d' := fun d' => by rw [hst]; simp
      refine ⟨hm ▸ hrec.update _ _, fun t => (hagree t).of_stores hst' ?_, fun t => ?_,
        fun t => ?_⟩
      · rw [hm, Metrics.get_noteSent hrec]
        split <;> rfl
      · rw [hm, Metrics.get_noteSent hrec, List.filterMap_append, List.length_append, ← h.sent t,
          ← (hcounts t).1]
        by_cases hts : s = t <;>
          simp [hts, sendEvents, Event.acceptedOn, List.filterMap_cons, Broker.draft_strand]
      · rw [hm, Metrics.get_noteSent hrec, List.filterMap_append, List.length_append,
          ← h.received t, ← (hcounts t).2]
        split <;> simp [sendEvents, Event.receivedOn]

/-- A receive that returned an envelope counts it received; the log shows it returned. -/
theorem Metered.receive (h : Metered w) (s : String) :
    Metered (w.step stamps (.receive s)) := by
  simp only [step, call, Broker.receive_run]
  cases hh : w.broker.home s with
  | error e => exact h.of_same rfl rfl (fun _ => by simp [receivedEvents])
  | ok d =>
    cases hpoll : w.broker.transport.poll s with
    | error e => exact h.of_same rfl rfl (fun _ => by simp [receivedEvents])
    | ok r =>
      obtain ⟨q, t'⟩ := r
      cases q with
      | waiting n =>
        exact h.of_quiet rfl (fun d => by cases d <;> exact .refl _) rfl
          (fun _ => by simp [receivedEvents])
      | ready m =>
        have hrec := h.recording
        refine ⟨hrec.update _ _, fun t => (h.depth t).of_stores (fun d => by cases d <;> rfl) ?_,
          fun t => ?_, fun t => ?_⟩
        · simp only [Metrics.get_noteReceived hrec]
          split <;> rfl
        · simp only [Metrics.get_noteReceived hrec, List.filterMap_append, List.length_append,
            ← h.sent t]
          split <;> simp [receivedEvents, Event.acceptedOn]
        · simp only [Metrics.get_noteReceived hrec, List.filterMap_append, List.length_append,
            ← h.received t]
          by_cases hst : s = t <;> simp [hst, receivedEvents, Event.receivedOn]

/-- An acknowledge removes envelopes of its strand only, then reports the strand's depth. -/
theorem Metered.acknowledge (hp : w.broker.Placed) (hwf : w.broker.StoresWF) (h : Metered w)
    (s id : String) : Metered (w.step stamps (.acknowledge s id)) := by
  simp only [step, call]
  cases hr : (Broker.acknowledge s id).run.run w.broker with
  | mk r b' =>
    have hevs : Uncounted (ackedEvents s id r) :=
      uncounted_of_isTransport (ackedEvents_isTransport s id r)
    cases r with
    | error e =>
      exact h.of_same (acknowledge_error hr) rfl hevs
    | ok m' =>
      obtain ⟨d, m, st, hh, hack, rfl⟩ := acknowledge_ok_eq hr
      obtain ⟨hreg, ho⟩ := confOf_of_home hh
      obtain ⟨-, hopen, hconf⟩ := Store.acknowledge_ok hack
      let b₀ := w.broker.withStore d st
      have hst : ∀ d', b₀.storeOf d' = if d' = d then st else w.broker.storeOf d' :=
        fun d' => by simp [b₀]
      have hm₀ : b₀.metrics = w.broker.metrics := by simp [b₀]
      have hrec₀ : b₀.metrics.Recording := by rw [hm₀]; exact h.recording
      have hp₀ : b₀.Placed := hp.of_write hst fun t => .inr (by rw [hconf])
      have hother : ∀ t, t ≠ s → b₀.DepthAgrees t := by
        intro t hts
        refine (h.depth t).of_write hst (by rw [hm₀]) (by rw [hconf]) fun hreg' => ?_
        rw [Store.acknowledge_held (hwf d) hack ((hwf d).sep hreg'), if_neg (Ne.symm hts)]
      have hs₀ : (b₀.storeOf d).isOpen = true ∧ (b₀.storeOf d).confOf s ≠ none := by
        rw [hst, if_pos rfl, hopen, hconf]
        exact ⟨ho, hreg⟩
      refine h.of_depths (recording_depthReported hrec₀ d s)
        (depthReported_agrees hp₀ hrec₀ hother (.inl hs₀)) (fun t => ?_) rfl hevs
      rw [← hm₀]
      exact counts_depthReported hrec₀ d s t

/-- A removal unregisters its strand everywhere and reports a depth of zero. -/
theorem Metered.removeStrand (hp : w.broker.Placed) (hwf : w.broker.StoresWF) (h : Metered w)
    (s : String) : Metered (w.step stamps (.removeStrand s)) := by
  simp only [step, call]
  cases hr : (Broker.removeStrand s).run.run w.broker with
  | mk r b' =>
    cases r with
    | error e => exact h.of_same (removeStrand_error hr) rfl uncounted_nil
    | ok u =>
      obtain ⟨d, st, hh, hdel, hst, -, -⟩ := removeStrand_ok hr
      obtain ⟨-, -, hconf⟩ := Store.delete_ok hdel
      obtain ⟨hreg, -⟩ := confOf_of_home hh
      have hm := removeStrand_ok_metrics hr
      have hrec := h.recording
      refine h.of_depths (hm ▸ hrec.noteDepth _ _) (fun t => ?_) (fun t => ?_) rfl uncounted_nil
      · by_cases hst' : s = t
        · -- the strand is gone from its store, and placement kept it out of the other one
          subst hst'
          refine DepthAgrees.of_unregistered (fun d' => ?_) (by simp [hm, Metrics.get_noteDepth hrec])
          rw [hst]
          split
          · rw [hconf, if_pos rfl]
          · rename_i hd'
            by_contra hreg'
            exact hd' (hp.unique s d' d hreg' hreg)
        · refine (h.depth t).of_write hst (by rw [hm, Metrics.get_noteDepth hrec, if_neg hst'])
            (by rw [hconf, if_neg hst']) fun hreg' => ?_
          exact Store.delete_held (hwf d) hdel ((hwf d).sep hreg') hst'
      · rw [hm]; exact counts_noteDepth _ s t 0

/-- A recovery pass writes no store; it counts as sent each envelope the transport took, which
the log shows taken, and then reports the depth of the strands it met. -/
theorem Metered.recover (hp : w.broker.Placed) (h : Metered w) :
    Metered (w.step stamps .recover) := by
  simp only [step, call, Broker.recover_run]
  split
  · exact h.of_same rfl rfl uncounted_nil
  · let taken := (w.broker.transport.handOver w.broker.durable.pending).2
    let b₀ : Broker := { w.broker with
      transport := (w.broker.transport.handOver w.broker.durable.pending).1,
      metrics := taken.foldl (fun mt m => mt.noteSent m.strand) w.broker.metrics }
    have hst : ∀ d, b₀.storeOf d = w.broker.storeOf d := fun d => by cases d <;> rfl
    have hrec₀ : b₀.metrics.Recording := h.recording.foldl_noteSent taken
    have hget : ∀ t, b₀.metrics.get t = { w.broker.metrics.get t with
        sent := (w.broker.metrics.get t).sent + (taken.filter (·.strand = t)).length } :=
      Metrics.get_foldl_noteSent h.recording taken
    have hagree₀ : ∀ t, b₀.DepthAgrees t := fun t =>
      (h.depth t).of_stores hst (by rw [hget])
    obtain ⟨hagree, hrec, hcounts⟩ :=
      depthsReported_agrees (hp.of_stores hst) hrec₀ hagree₀ (strandsOf w.broker.durable.pending)
    refine ⟨hrec, hagree, fun t => ?_, fun t => ?_⟩
    · obtain ⟨hacc, -, -⟩ := resendEvents_views w.broker t
      rw [(hcounts t).1, hget, List.filterMap_append, List.length_append, ← h.sent t]
      simp only [recoverEvents, hacc]
      rfl
    · obtain ⟨-, hrcv, -⟩ := resendEvents_views w.broker t
      rw [(hcounts t).2, hget, List.filterMap_append, List.length_append, ← h.received t]
      simp only [recoverEvents, hrcv, List.length_nil, Nat.add_zero]

/-! ### Every action but a reset from outside -/

theorem Metered.step (hp : w.broker.Placed) (hwf : w.broker.StoresWF) (h : Metered w)
    (a : Action) (ha : a.resetsStore = false) : Metered (w.step stamps a) := by
  cases a with
  | addStrand s c => exact h.addStrand hp hwf s c
  | send s p => exact h.send hp hwf s p
  | receive s => exact h.receive s
  | acknowledge s id => exact h.acknowledge hp hwf s id
  | removeStrand s => exact h.removeStrand hp hwf s
  | recover => exact h.recover hp
  | durability s => exact h.of_same (by simp [World.step, durability_run]) rfl uncounted_nil
  | strandConfig s => exact h.of_same (by simp [World.step, strandConfig_run]) rfl uncounted_nil
  | restart n =>
    exact h.of_quiet rfl (fun d => by cases d <;> exact .refl _) rfl
      (fun _ => by simp [Event.acceptedOn, Event.receivedOn])
  | close d =>
    refine h.of_quiet (by simp [World.step]) (fun d' => ?_) (List.append_nil _).symm uncounted_nil
    simp only [World.step, storeOf_withStore]
    split
    · subst_vars; exact Store.sameData_close _
    · exact .refl _
  | reset d n => cases ha
  | reload d n => cases ha
  | block flag =>
    refine h.of_quiet (by simp [World.step]) (fun d' => ?_) (List.append_nil _).symm uncounted_nil
    simp only [World.step, storeOf_withStore]
    split
    · subst_vars; exact Store.sameData_withBlocked _ flag
    · exact .refl _

theorem metered_run (stamps : Nat → Stamp) {w : World} (hp : w.broker.Placed)
    (hwf : w.broker.StoresWF) (h : Metered w) (acts : List Action)
    (hacts : ∀ a ∈ acts, a.resetsStore = false) : Metered (w.run stamps acts) :=
  (run_invariant_of stamps (fun w => w.broker.Placed ∧ w.broker.StoresWF ∧ Metered w)
    (fun a => a.resetsStore = false)
    (fun _ a ha hw => ⟨placed_step hw.1 a, storesWF_step hw.2.1 a, hw.2.2.step hw.1 hw.2.1 a ha⟩)
    ⟨hp, hwf, h⟩ acts hacts).2.2

end World

open World in
/-- Along every run from empty stores and a fresh recording sink, in which no store is wiped or
reloaded from outside the broker: the depth the metrics show for a strand is the number of
envelopes its store holds for it when it is registered, and zero when it is not; its sent count
is the number of its envelopes the log shows taken by the transport (sends that answered, and
envelopes a recovery pass handed over and the transport took); its received count is the number
of envelopes receives on it returned. -/
theorem metrics_follow_the_stores (stamps : Nat → Stamp) (b : Broker) (hv : b.volatile.Blank)
    (hd : b.durable.Blank) (hm : b.metrics = Metrics.fresh) (acts : List Action)
    (hacts : ∀ a ∈ acts, a.resetsStore = false) (s : String) :
    let w := World.run stamps ⟨b, []⟩ acts
    (∀ d, (w.broker.storeOf d).confOf s ≠ none →
      (w.broker.metrics.get s).depth = ((w.broker.storeOf d).held s).length) ∧
    ((∀ d, (w.broker.storeOf d).confOf s = none) → (w.broker.metrics.get s).depth = 0) ∧
    (w.broker.metrics.get s).sent = (w.log.filterMap (Event.acceptedOn s)).length ∧
    (w.broker.metrics.get s).received = (w.log.filterMap (Event.receivedOn s)).length := by
  intro w
  have hwf : b.StoresWF := by
    intro d
    cases d
    · exact hd.wf
    · exact hv.wf
  have h : Metered w :=
    metered_run stamps (Broker.placed_of_blank hv hd) hwf (metered_start hv hd hm) acts hacts
  exact ⟨(h.depth s).1, (h.depth s).2, h.sent s, h.received s⟩

/-- From two empty memory stores and a fresh sink, a strand is added, sent two envelopes, one of
them received and acknowledged: its depth is one, and its counts are two sent and one
received. -/
theorem metrics_follow_the_stores_after_an_acknowledge :
    let stamps : Nat → Stamp := fun n => ⟨toString n, 0⟩
    let b : Broker := ⟨.memory {}, .memory {}, .channel (Channel.make 4), Metrics.fresh, 0⟩
    let acts := [Action.addStrand "a" {}, .send "a" "x", .send "a" "y", .receive "a",
      .acknowledge "a" "1"]
    let w := World.run stamps ⟨b, []⟩ acts
    b.volatile.Blank ∧ b.durable.Blank ∧ b.metrics = Metrics.fresh ∧
      (∀ a ∈ acts, a.resetsStore = false) ∧
      (w.broker.metrics.get "a").depth = ((w.broker.storeOf .volatile).held "a").length ∧
      (w.broker.metrics.get "a").sent = (w.log.filterMap (Event.acceptedOn "a")).length := by
  intro stamps b acts w
  have hacts : ∀ a ∈ acts, a.resetsStore = false := by decide
  have hreg : (w.broker.storeOf .volatile).confOf "a" ≠ none := by decide
  have hlaw := metrics_follow_the_stores stamps b rfl rfl rfl acts hacts "a"
  exact ⟨rfl, rfl, rfl, hacts, hlaw.1 .volatile hreg, hlaw.2.2.1⟩

end Courier
