import Courier.Proofs.Placement

/-!
# Each strand holds its ledger

The envelopes a strand should hold follow from the log alone (`ledger`): those saved on it since
it was last added, less those whose id was acknowledged on it since. The store of a registered
strand holds exactly those, as they were built (`store_holds_its_ledger`). Nothing is lost and
nothing is held twice; a receive, a recovery pass, a failed send, a transport restart or a
store that is closed or reopened removes nothing. This needs stamps that never repeat an id,
and empty stores at the start.

The invariant `World.Ledgered` carries the law with what it rests on. Both stores are well
formed (`Store.WF`), so a disk store's prefix scans find the records of one strand. Every
envelope of a ledger is unacknowledged and has the id of a stamp already drawn, so the next
send's id is new on its strand and its save adds a record rather than replacing one. Placement
(`Broker.Placed`) is assumed alongside: a call on a strand touches the one store that holds it.
-/

namespace Courier

/-- Whether an event changes what some strand should hold. -/
def Event.isLedger : Event → Bool
  | .added _ | .saved _ | .acked _ _ => true
  | _ => false

/-- One event's effect on the envelopes strand `s` should hold. -/
def Event.onLedger (s : String) (l : List Envelope) : Event → List Envelope
  | .added t => if t = s then [] else l
  | .saved m => if m.strand = s then l ++ [m] else l
  | .acked t id => if t = s then l.filter (·.id ≠ id) else l
  | _ => l

/-- The envelopes strand `s` should hold after a log: those saved on it since it was last
added, less those whose id was acknowledged on it since. -/
def ledger (log : List Event) (s : String) : List Envelope :=
  log.foldl (fun l e => e.onLedger s l) []

theorem Event.onLedger_of_isLedger {e : Event} (h : e.isLedger = false) (s : String)
    (l : List Envelope) : e.onLedger s l = l := by
  cases e <;> simp_all [isLedger, onLedger]

theorem foldl_onLedger_quiet {evs : List Event} (h : ∀ e ∈ evs, e.isLedger = false) (s : String)
    (l : List Envelope) : evs.foldl (fun l e => e.onLedger s l) l = l := by
  induction evs generalizing l with
  | nil => rfl
  | cons e rest ih =>
    rw [List.foldl_cons, Event.onLedger_of_isLedger (h e List.mem_cons_self)]
    exact ih (fun e' he' => h e' (List.mem_cons_of_mem _ he')) l

/-- Events that change no ledger leave every ledger as it was. -/
theorem ledger_append_quiet {log evs : List Event} (h : ∀ e ∈ evs, e.isLedger = false)
    (s : String) : ledger (log ++ evs) s = ledger log s := by
  rw [ledger, List.foldl_append, foldl_onLedger_quiet h]
  rfl

theorem ledger_append_cons {log evs : List Event} (e : Event) (h : ∀ e ∈ evs, e.isLedger = false)
    (s : String) : ledger (log ++ e :: evs) s = e.onLedger s (ledger log s) := by
  rw [ledger, List.foldl_append, List.foldl_cons, foldl_onLedger_quiet h]
  rfl

@[simp] theorem ledger_nil (s : String) : ledger [] s = [] := rfl

namespace World

theorem receivedEvents_quiet (s : String) (r : Except BrokerError Polled) :
    ∀ e ∈ receivedEvents s r, e.isLedger = false := by
  rcases r with _ | (_ | _) <;> simp [receivedEvents, Event.isLedger]

theorem recoverEvents_quiet (b : Broker) (r : Except BrokerError RecoveryReport) :
    ∀ e ∈ recoverEvents b r, e.isLedger = false := by
  rcases r with _ | _
  · simp [recoverEvents]
  · intro e he
    simp only [recoverEvents, resendEvents, List.mem_append, List.mem_map] at he
    rcases he with ⟨m, -, rfl⟩ | ⟨m, -, rfl⟩ <;> rfl

variable {stamps : Nat → Stamp} {w w' : World}

/-- The law of a run, with what it rests on: both stores well formed, each registered strand's
store holding the strand's ledger, and every envelope of a ledger unacknowledged, with the id of
a stamp already drawn. -/
structure Ledgered (stamps : Nat → Stamp) (w : World) : Prop where
  wf : ∀ d, (w.broker.storeOf d).WF
  held : ∀ d s, (w.broker.storeOf d).confOf s ≠ none →
    ((w.broker.storeOf d).held s).Perm (ledger w.log s)
  built : ∀ s m, m ∈ ledger w.log s →
    m.acked = false ∧ ∃ k ≤ w.broker.drawn, m.id = (stamps k).id

/-- Empty stores hold nothing and owe nothing. -/
theorem ledgered_start {b : Broker} (hv : b.volatile.Blank) (hd : b.durable.Blank) :
    Ledgered stamps ⟨b, []⟩ := by
  have hblank : ∀ d, (b.storeOf d).Blank := by
    intro d
    cases d
    · exact hd
    · exact hv
  exact ⟨fun d => (hblank d).wf, fun d s hreg => absurd ((hblank d).confOf s) hreg,
    fun s m hm => by simp at hm⟩

/-- A step that writes no store, only closes, wipes or reopens one, draws no stamp back and
logs nothing a ledger reads keeps the law. -/
theorem Ledgered.of_quiet (h : Ledgered stamps w)
    (hst : ∀ d, (w'.broker.storeOf d).Blank ∨ (w.broker.storeOf d).SameData (w'.broker.storeOf d))
    (hdrawn : w.broker.drawn ≤ w'.broker.drawn) (hlog : ∀ s, ledger w'.log s = ledger w.log s) :
    Ledgered stamps w' := by
  refine ⟨fun d => ?_, fun d s hreg => ?_, fun s m hm => ?_⟩
  · rcases hst d with hb | hsame
    · exact hb.wf
    · exact hsame.wf (h.wf d)
  · rcases hst d with hb | hsame
    · exact absurd (hb.confOf s) hreg
    · rw [hsame.held, hlog]
      exact h.held d s (by rwa [hsame.confOf] at hreg)
  · rw [hlog] at hm
    obtain ⟨hacked, k, hk, hid⟩ := h.built s m hm
    exact ⟨hacked, k, Nat.le_trans hk hdrawn, hid⟩

/-- A step that leaves the broker's stores and stamps alone and logs nothing a ledger reads. -/
theorem Ledgered.of_stores (h : Ledgered stamps w) (hst : ∀ d, w'.broker.storeOf d = w.broker.storeOf d)
    (hdrawn : w'.broker.drawn = w.broker.drawn) {evs : List Event}
    (hlog : w'.log = w.log ++ evs) (hevs : ∀ e ∈ evs, e.isLedger = false) : Ledgered stamps w' :=
  h.of_quiet (fun d => .inr (by rw [hst]; exact .refl _)) (Nat.le_of_eq hdrawn.symm)
    (fun s => by rw [hlog, ledger_append_quiet hevs])

/-- One store replaced by one that is empty or keeps the same data. -/
theorem Ledgered.of_blank_or_same (h : Ledgered stamps w) {d : Durability} {st : Store}
    (hcases : st.Blank ∨ (w.broker.storeOf d).SameData st) :
    Ledgered stamps { w with broker := w.broker.withStore d st } := by
  refine h.of_quiet (fun d' => ?_) (by simp) (fun s => rfl)
  simp only [Broker.storeOf_withStore]
  split
  · subst_vars; exact hcases
  · exact .inr (.refl _)

/-! ## The calls that write -/

/-- A call that replaced the store of `d` by a well-formed `st` and logged `evs` keeps the law
when `st` holds the new ledger of each strand it registers, the strands of the other store keep
their ledgers, and every envelope of a new ledger is unacknowledged and built from a stamp
already drawn. -/
theorem Ledgered.of_write (h : Ledgered stamps w) {d : Durability} {st : Store} {b' : Broker}
    {evs : List Event} (hst : ∀ d', b'.storeOf d' = if d' = d then st else w.broker.storeOf d')
    (hwf : st.WF) (hheld : ∀ t, st.confOf t ≠ none → (st.held t).Perm (ledger (w.log ++ evs) t))
    (hother : ∀ d' t, d' ≠ d → (w.broker.storeOf d').confOf t ≠ none →
      ledger (w.log ++ evs) t = ledger w.log t)
    (hbuilt : ∀ t m, m ∈ ledger (w.log ++ evs) t →
      m.acked = false ∧ ∃ k ≤ b'.drawn, m.id = (stamps k).id) :
    Ledgered stamps ⟨b', w.log ++ evs⟩ := by
  refine ⟨fun d' => ?_, fun d' t hreg => ?_, hbuilt⟩
  · rw [hst]
    by_cases hd : d' = d
    · rw [if_pos hd]; exact hwf
    · rw [if_neg hd]; exact h.wf d'
  · dsimp only at hreg ⊢
    rw [hst] at hreg ⊢
    by_cases hd : d' = d
    · rw [if_pos hd] at hreg ⊢
      exact hheld t hreg
    · rw [if_neg hd] at hreg ⊢
      rw [hother d' t hd hreg]
      exact h.held d' t hreg

/-- An add registers a strand that no store had, so its store holds nothing for it, and its
ledger starts empty. -/
theorem Ledgered.addStrand (h : Ledgered stamps w) (s : String) (c : StrandConf) :
    Ledgered stamps (w.step stamps (.addStrand s c)) := by
  simp only [World.step, World.call]
  cases hr : (Broker.addStrand s c).run.run w.broker with
  | mk r b' =>
    cases r with
    | error e =>
      exact h.of_stores (fun d => by rw [Broker.addStrand_error hr])
        (by rw [Broker.addStrand_error hr]) rfl (by simp [addedEvents])
    | ok u =>
      obtain ⟨hc, hl, st, hcreate, hst, hdrawn, -⟩ := Broker.addStrand_ok hr
      obtain ⟨-, -, hconf, hheld⟩ := Store.create_ok hcreate
      have hs : ':' ∉ s.toList := ((Strand.check_ok_iff s).1 hc).2.2
      have hfree := Broker.confOf_of_locate_none hl
      have hlog : ∀ t, ledger (w.log ++ addedEvents s (.ok u)) t =
          if s = t then [] else ledger w.log t := by
        intro t
        rw [addedEvents, ledger_append_cons _ (by simp)]
        rfl
      refine h.of_write hst (Store.create_wf (h.wf _) hs hcreate) (fun t hreg => ?_)
        (fun d' t _ hreg => ?_) (fun t m hm => ?_)
      · rw [hlog, hheld]
        by_cases hts : s = t
        · -- the new strand: its store held nothing for it before
          subst hts
          rw [if_pos rfl, Store.held_of_confOf_none (h.wf _) (hfree _) hs]
        · rw [hconf, if_neg hts] at hreg
          rw [if_neg hts]
          exact h.held _ t hreg
      · have hts : s ≠ t := by rintro rfl; exact hreg (hfree d')
        rw [hlog, if_neg hts]
      · rw [hlog] at hm
        split at hm
        · simp at hm
        · obtain ⟨hacked, k, hk, hid⟩ := h.built t m hm
          exact ⟨hacked, k, by dsimp only; omega, hid⟩

/-- A send that saved the next draft on its strand's store, whatever the transport did after:
the store holds the draft as well, and the strand's ledger ends with it. -/
theorem Ledgered.of_saved (hfresh : Function.Injective fun n => (stamps n).id)
    (hp : w.broker.Placed) (h : Ledgered stamps w) {s p : String} {d : Durability} {st : Store}
    {b' : Broker} {evs : List Event} (hh : w.broker.home s = .ok d)
    (hs : (w.broker.storeOf d).save (w.broker.draft stamps s p) = .ok st)
    (hst : ∀ d', b'.storeOf d' = if d' = d then st else w.broker.storeOf d')
    (hdrawn : b'.drawn = w.broker.drawn + 1) (hevs : ∀ e ∈ evs, e.isLedger = false) :
    Ledgered stamps ⟨b', w.log ++ .saved (w.broker.draft stamps s p) :: evs⟩ := by
  have hms : (w.broker.draft stamps s p).strand = s := rfl
  obtain ⟨hreg, -⟩ := Broker.confOf_of_home hh
  -- the draft has the next stamp's id, which no envelope of a ledger has
  have hnew : ∀ m' ∈ (w.broker.storeOf d).held (w.broker.draft stamps s p).strand,
      m'.id ≠ (w.broker.draft stamps s p).id := by
    intro m' hm' hid
    obtain ⟨-, k, hk, hk'⟩ := h.built s m' ((h.held d s hreg).mem_iff.1 hm')
    have hsame : k = w.broker.drawn + 1 := hfresh (hk'.symm.trans hid)
    omega
  have hlog : ∀ t, ledger (w.log ++ .saved (w.broker.draft stamps s p) :: evs) t =
      if s = t then ledger w.log t ++ [w.broker.draft stamps s p] else ledger w.log t := by
    intro t
    rw [ledger_append_cons _ hevs]
    rfl
  refine h.of_write hst (Store.save_wf (h.wf d) hs) (fun t hreg' => ?_)
    (fun d' t hd hreg' => ?_) (fun t m hm => ?_)
  · have hreg'' : (w.broker.storeOf d).confOf t ≠ none := by
      rwa [(Store.save_ok hs).2.2] at hreg'
    refine (Store.save_held (h.wf d) hnew hs ((h.wf d).sep hreg'')).trans ?_
    rw [hlog, hms]
    by_cases hts : s = t
    · subst hts
      rw [if_pos rfl, if_pos rfl]
      exact ((h.held d s hreg'').cons _).trans (List.perm_append_singleton _ _).symm
    · rw [if_neg hts, if_neg hts]
      exact h.held d t hreg''
  · have hts : s ≠ t := fun hts => hd (hp.unique t d' d hreg' (hts ▸ hreg))
    rw [hlog, if_neg hts]
  · rw [hlog] at hm
    split at hm
    · rcases List.mem_append.1 hm with hold | hdraft
      · obtain ⟨hacked, k, hk, hid⟩ := h.built t m hold
        exact ⟨hacked, k, by omega, hid⟩
      · rw [List.mem_singleton] at hdraft
        subst hdraft
        exact ⟨rfl, w.broker.drawn + 1, by omega, rfl⟩
    · obtain ⟨hacked, k, hk, hid⟩ := h.built t m hm
      exact ⟨hacked, k, by omega, hid⟩

theorem Ledgered.send (hfresh : Function.Injective fun n => (stamps n).id)
    (hp : w.broker.Placed) (h : Ledgered stamps w) (s p : String) :
    Ledgered stamps (w.step stamps (.send s p)) := by
  simp only [World.step, World.call]
  cases hr : (Broker.send s p stamps).run.run w.broker with
  | mk r b' =>
    cases r with
    | error e =>
      rcases Broker.send_error hr with ⟨hh, rfl⟩ | ⟨d, st, te, hh, hs, -, rfl, rfl⟩
      · exact h.of_stores (fun d => rfl) rfl rfl (by rw [sendEvents_of_home_error hh]; simp)
      · exact h.of_saved hfresh hp hh hs (fun d' => by simp) (by simp)
          (by simp [Event.isLedger])
    | ok m =>
      obtain ⟨d, st, t, hh, hs, -, rfl, hst, hdrawn, -⟩ := Broker.send_ok hr
      exact h.of_saved hfresh hp hh hs hst hdrawn (by simp [Event.isLedger])

theorem Ledgered.acknowledge (hp : w.broker.Placed) (h : Ledgered stamps w) (s id : String) :
    Ledgered stamps (w.step stamps (.acknowledge s id)) := by
  simp only [World.step, World.call]
  cases hr : (Broker.acknowledge s id).run.run w.broker with
  | mk r b' =>
    cases r with
    | error e =>
      exact h.of_stores (fun d => by rw [Broker.acknowledge_error hr])
        (by rw [Broker.acknowledge_error hr]) rfl (by simp [ackedEvents])
    | ok m' =>
      obtain ⟨d, m, st, hh, hack, -, hst, hdrawn, -⟩ := Broker.acknowledge_ok hr
      obtain ⟨hreg, -⟩ := Broker.confOf_of_home hh
      have hlog : ∀ t, ledger (w.log ++ ackedEvents s id (.ok m')) t =
          if s = t then (ledger w.log t).filter (·.id ≠ id) else ledger w.log t := by
        intro t
        rw [ackedEvents, ledger_append_cons _ (by simp)]
        rfl
      refine h.of_write hst (Store.acknowledge_wf (h.wf d) hack) (fun t hreg' => ?_)
        (fun d' t hd hreg' => ?_) (fun t m'' hm => ?_)
      · have hreg'' : (w.broker.storeOf d).confOf t ≠ none := by
          rwa [(Store.acknowledge_ok hack).2.2] at hreg'
        rw [Store.acknowledge_held (h.wf d) hack ((h.wf d).sep hreg''), hlog]
        by_cases hts : s = t
        · subst hts
          rw [if_pos rfl, if_pos rfl]
          exact (h.held d s hreg'').filter _
        · rw [if_neg hts, if_neg hts]
          exact h.held d t hreg''
      · have hts : s ≠ t := fun hts => hd (hp.unique t d' d hreg' (hts ▸ hreg))
        rw [hlog, if_neg hts]
      · rw [hlog] at hm
        have hold : m'' ∈ ledger w.log t := by
          split at hm
          · exact (List.mem_filter.1 hm).1
          · exact hm
        obtain ⟨hacked, k, hk, hid⟩ := h.built t m'' hold
        exact ⟨hacked, k, by dsimp only; omega, hid⟩

theorem Ledgered.removeStrand (h : Ledgered stamps w) (s : String) :
    Ledgered stamps (w.step stamps (.removeStrand s)) := by
  simp only [World.step, World.call]
  cases hr : (Broker.removeStrand s).run.run w.broker with
  | mk r b' =>
    cases r with
    | error e =>
      exact h.of_stores (fun d => by rw [Broker.removeStrand_error hr])
        (by rw [Broker.removeStrand_error hr]) rfl (by simp)
    | ok u =>
      obtain ⟨d, st, -, hdel, hst, hdrawn, -⟩ := Broker.removeStrand_ok hr
      obtain ⟨-, -, hconf⟩ := Store.delete_ok hdel
      refine h.of_write hst (Store.delete_wf (h.wf d) hdel) (fun t hreg' => ?_)
        (fun d' t _ _ => List.append_nil _ ▸ rfl) (fun t m hm => ?_)
      · rw [hconf] at hreg'
        -- the strand removed is no longer registered, so `t` is another one
        have hts : s ≠ t := by
          intro hts
          rw [if_pos hts] at hreg'
          exact hreg' rfl
        rw [if_neg hts] at hreg'
        rw [Store.delete_held (h.wf d) hdel ((h.wf d).sep hreg') hts, List.append_nil]
        exact h.held d t hreg'
      · rw [List.append_nil] at hm
        obtain ⟨hacked, k, hk, hid⟩ := h.built t m hm
        exact ⟨hacked, k, by dsimp only; omega, hid⟩

/-! ## Every action keeps the law -/

theorem Ledgered.step (hfresh : Function.Injective fun n => (stamps n).id)
    (hp : w.broker.Placed) (h : Ledgered stamps w) (a : Action) :
    Ledgered stamps (w.step stamps a) := by
  cases a with
  | addStrand s c => exact h.addStrand s c
  | send s p => exact h.send hfresh hp s p
  | receive s =>
    exact h.of_stores (Broker.receive_stores s w.broker).1 (Broker.receive_stores s w.broker).2
      rfl (receivedEvents_quiet s _)
  | acknowledge s id => exact h.acknowledge hp s id
  | removeStrand s => exact h.removeStrand s
  | recover =>
    refine h.of_stores (fun d => ?_) (Broker.recover_drawn _) rfl (recoverEvents_quiet _ _)
    cases d
    · exact (Broker.recover_stores _).2
    · exact (Broker.recover_stores _).1
  | durability s =>
    exact h.of_stores (fun d => by simp [World.step, Broker.durability_run])
      (by simp [World.step, Broker.durability_run]) rfl (by simp)
  | strandConfig s =>
    exact h.of_stores (fun d => by simp [World.step, Broker.strandConfig_run])
      (by simp [World.step, Broker.strandConfig_run]) rfl (by simp)
  | restart n => exact h.of_stores (fun d => by cases d <;> rfl) rfl rfl (by simp [Event.isLedger])
  | close d => exact h.of_blank_or_same (.inr (Store.sameData_close _))
  | reset d n => exact h.of_blank_or_same (Store.reset_cases _ n)
  | reload d n => exact h.of_blank_or_same (Store.reload_cases _ n)
  | block flag => exact h.of_blank_or_same (.inr (Store.sameData_withBlocked _ flag))

theorem ledgered_run (hfresh : Function.Injective fun n => (stamps n).id) (hp : w.broker.Placed)
    (h : Ledgered stamps w) (acts : List Action) : Ledgered stamps (w.run stamps acts) :=
  (run_invariant stamps (fun w => w.broker.Placed ∧ Ledgered stamps w)
    (fun _ a hw => ⟨placed_step hw.1 a, hw.2.step hfresh hw.1 a⟩) ⟨hp, h⟩ acts).2

end World

open World in
/-- Along every run from empty stores, with stamps that never repeat an id, the store of a
registered strand holds exactly the strand's ledger: the envelopes saved on it since it was last
added, less those whose id was acknowledged on it since, each as its send built it and
unacknowledged. -/
theorem store_holds_its_ledger (stamps : Nat → Stamp)
    (hfresh : Function.Injective fun n => (stamps n).id) (b : Broker) (hv : b.volatile.Blank)
    (hd : b.durable.Blank) (acts : List Action) (d : Durability) (s : String) :
    let w := World.run stamps ⟨b, []⟩ acts
    (w.broker.storeOf d).confOf s ≠ none →
      ((w.broker.storeOf d).held s).Perm (ledger w.log s) ∧
        ∀ m ∈ (w.broker.storeOf d).held s, m.acked = false := by
  intro w hreg
  have h : Ledgered stamps w :=
    ledgered_run hfresh (Broker.placed_of_blank hv hd) (ledgered_start hv hd) acts
  exact ⟨h.held d s hreg, fun m hm => (h.built s m ((h.held d s hreg).mem_iff.1 hm)).1⟩

/-- Stamps whose ids are runs of `x` of every length never repeat an id. From two empty memory
stores, after a strand is added and sent one envelope, its store holds its ledger. -/
theorem store_holds_its_ledger_after_one_send :
    let stamps : Nat → Stamp := fun n => ⟨String.ofList (List.replicate n 'x'), 0⟩
    let b : Broker := ⟨.memory {}, .memory {}, .channel (Channel.make 1), Metrics.fresh, 0⟩
    let w := World.run stamps ⟨b, []⟩ [.addStrand "a" {}, .send "a" "hi"]
    (Function.Injective fun n => (stamps n).id) ∧ b.volatile.Blank ∧ b.durable.Blank ∧
      (w.broker.storeOf .volatile).confOf "a" ≠ none ∧
      ((w.broker.storeOf .volatile).held "a").Perm (ledger w.log "a") := by
  intro stamps b w
  have hfresh : Function.Injective fun n => (stamps n).id := by
    intro m n h
    simpa [stamps] using congrArg String.length h
  have hreg : (w.broker.storeOf .volatile).confOf "a" ≠ none := by decide
  exact ⟨hfresh, rfl, rfl, hreg,
    (store_holds_its_ledger stamps hfresh b rfl rfl _ .volatile "a" hreg).1⟩

end Courier
