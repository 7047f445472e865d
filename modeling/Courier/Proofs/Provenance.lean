import Courier.Proofs.Delivery
import Courier.Proofs.Metrics

/-!
# Where delivered envelopes come from

Over a channel transport, a receive on strand `s` returns only an envelope of `s` that the
transport took since it was last replaced, and that a send saved earlier in the run
(`receives_were_saved`). The log carries the saves: `World.Sourced` says that every envelope a
store keeps, and every envelope the log shows taken by the transport, has a `saved` event in
the log. No write but a save brings an envelope into a store (`Store.pending_save` and its
siblings), and a recovery pass hands over only envelopes of the durable store.

Nothing ties a delivery to the strand's latest registration. Removing a strand deletes its
envelopes from its store, but the transport keeps the buffer of the strand; a strand added
again under the same id receives what the buffer still holds, and acknowledging such an
envelope fails, since its store never held it (`removed_strand_still_delivers`).
-/

namespace Courier

namespace World

open Broker

variable {stamps : Nat → Stamp} {w w' : World}

/-- Every envelope a store keeps, and every envelope the log shows taken by the transport, was
saved by a send that the log records. -/
structure Sourced (w : World) : Prop where
  kept : ∀ d, ∀ m ∈ (w.broker.storeOf d).pending, Event.saved m ∈ w.log
  taken : ∀ m, Event.accepted m ∈ w.log → Event.saved m ∈ w.log

theorem sourced_start {b : Broker} (hv : b.volatile.Blank) (hd : b.durable.Blank) :
    Sourced ⟨b, []⟩ := by
  refine ⟨fun d m hm => ?_, fun m hm => by simp at hm⟩
  cases d
  · simp [hd.pending] at hm
  · simp [hv.pending] at hm

/-- A step that logs `evs` keeps the law when each envelope its stores keep was kept before or
is saved in `evs`, and each envelope `evs` shows taken is saved in `evs` or was kept by a
store. -/
theorem Sourced.of_step (h : Sourced w) {evs : List Event} (hlog : w'.log = w.log ++ evs)
    (hkept : ∀ d, ∀ m ∈ (w'.broker.storeOf d).pending,
      m ∈ (w.broker.storeOf d).pending ∨ Event.saved m ∈ evs)
    (htaken : ∀ m, Event.accepted m ∈ evs →
      Event.saved m ∈ evs ∨ ∃ d, m ∈ (w.broker.storeOf d).pending) : Sourced w' := by
  refine ⟨fun d m hm => ?_, fun m hm => ?_⟩ <;> rw [hlog] at *
  · rcases hkept d m hm with hold | hnew
    · exact List.mem_append_left _ (h.kept d m hold)
    · exact List.mem_append_right _ hnew
  · rcases List.mem_append.1 hm with hold | hnew
    · exact List.mem_append_left _ (h.taken m hold)
    · rcases htaken m hnew with hsaved | ⟨d, hkept'⟩
      · exact List.mem_append_right _ hsaved
      · exact List.mem_append_left _ (h.kept d m hkept')

/-- A step that keeps no envelope its stores did not keep and logs nothing taken. -/
theorem Sourced.of_kept (h : Sourced w) {evs : List Event} (hlog : w'.log = w.log ++ evs)
    (hkept : ∀ d, ∀ m ∈ (w'.broker.storeOf d).pending, m ∈ (w.broker.storeOf d).pending)
    (hevs : ∀ e ∈ evs, e.isTransport = false) : Sourced w' :=
  h.of_step hlog (fun d m hm => .inl (hkept d m hm)) fun m hm =>
    absurd (hevs _ hm) (by simp [Event.isTransport])

/-- A write to one store that keeps, in that store, only envelopes it kept or `evs` saves. -/
theorem kept_of_write {b b' : Broker} {d : Durability} {st : Store} (evs : List Event)
    (hst : ∀ d', b'.storeOf d' = if d' = d then st else b.storeOf d')
    (hwrite : ∀ m ∈ st.pending, m ∈ (b.storeOf d).pending ∨ Event.saved m ∈ evs) :
    ∀ d', ∀ m ∈ (b'.storeOf d').pending, m ∈ (b.storeOf d').pending ∨ Event.saved m ∈ evs := by
  intro d' m hm
  rw [hst] at hm
  split at hm
  · subst_vars; exact hwrite m hm
  · exact .inl hm

/-! ## Each action -/

theorem Sourced.addStrand (h : Sourced w) (s : String) (c : StrandConf) :
    Sourced (w.step stamps (.addStrand s c)) := by
  simp only [step, call]
  cases hr : (Broker.addStrand s c).run.run w.broker with
  | mk r b' =>
    refine h.of_kept rfl (fun d m hm => ?_) (addedEvents_isTransport s r)
    cases r with
    | error e => rwa [addStrand_error hr] at hm
    | ok u =>
      obtain ⟨-, -, st, hcreate, hst, -, -⟩ := addStrand_ok hr
      exact ((kept_of_write [] hst fun x hx => .inl (Store.pending_create hcreate hx))
        d m hm).resolve_right (by simp)

/-- A send brings into its store only the envelope it saves, which the log shows saved before
it shows it taken. -/
theorem Sourced.send (h : Sourced w) (s p : String) : Sourced (w.step stamps (.send s p)) := by
  simp only [step, call]
  cases hr : (Broker.send s p stamps).run.run w.broker with
  | mk r b' =>
    cases r with
    | error e =>
      rcases send_error hr with ⟨hh, rfl⟩ | ⟨d, st, te, hh, hs, -, rfl, rfl⟩
      · exact h.of_kept rfl (fun d m hm => hm)
          (by rw [sendEvents_of_home_error hh]; simp)
      · have hst : ∀ d', (({ w.broker with drawn := w.broker.drawn + 1 }.withStore d st
            ).depthReported d s).storeOf d' = if d' = d then st else w.broker.storeOf d' := by
          intro d'
          simp only [depthReported_storeOf, storeOf_withStore]
          cases d' <;> rfl
        refine h.of_step rfl (kept_of_write _ hst fun x hx => ?_) fun m hm => ?_
        · rcases Store.pending_save hs hx with rfl | hold
          · exact .inr (by simp [sendEvents])
          · exact .inl hold
        · simp [sendEvents] at hm
    | ok m =>
      obtain ⟨d, st, t, hh, hs, -, rfl, hst, -, -⟩ := send_ok hr
      refine h.of_step rfl (kept_of_write _ hst fun x hx => ?_) fun m' hm' => ?_
      · rcases Store.pending_save hs hx with rfl | hold
        · exact .inr (by simp [sendEvents])
        · exact .inl hold
      · simp only [sendEvents, List.mem_cons, reduceCtorEq, Event.accepted.injEq, false_or,
          List.not_mem_nil, or_false] at hm'
        subst hm'
        exact .inl (by simp [sendEvents])

/-- A receive keeps the stores and shows nothing taken. -/
theorem Sourced.receive (h : Sourced w) (s : String) : Sourced (w.step stamps (.receive s)) := by
  simp only [step, call]
  refine h.of_step rfl (fun d m hm => .inl ?_) fun m hm => absurd hm ?_
  · rwa [(receive_stores s w.broker).1 d] at hm
  · unfold receivedEvents
    split <;> simp

theorem Sourced.acknowledge (h : Sourced w) (s id : String) :
    Sourced (w.step stamps (.acknowledge s id)) := by
  simp only [step, call]
  cases hr : (Broker.acknowledge s id).run.run w.broker with
  | mk r b' =>
    refine h.of_kept rfl (fun d m hm => ?_) (ackedEvents_isTransport s id r)
    cases r with
    | error e => rwa [acknowledge_error hr] at hm
    | ok m' =>
      obtain ⟨d', m₀, st, -, hack, -, hst, -, -⟩ := acknowledge_ok hr
      exact ((kept_of_write [] hst fun x hx => .inl (Store.pending_acknowledge hack hx))
        d m hm).resolve_right (by simp)

theorem Sourced.removeStrand (h : Sourced w) (s : String) :
    Sourced (w.step stamps (.removeStrand s)) := by
  simp only [step, call]
  cases hr : (Broker.removeStrand s).run.run w.broker with
  | mk r b' =>
    refine h.of_kept rfl (fun d m hm => ?_) (by simp)
    cases r with
    | error e => rwa [removeStrand_error hr] at hm
    | ok u =>
      obtain ⟨d', st, -, hdel, hst, -, -⟩ := removeStrand_ok hr
      exact ((kept_of_write [] hst fun x hx => .inl (Store.pending_delete hdel hx))
        d m hm).resolve_right (by simp)

/-- A recovery pass hands over only envelopes of the durable store. -/
theorem Sourced.recover (h : Sourced w) : Sourced (w.step stamps .recover) := by
  simp only [step, call]
  have hst : ∀ d, ((Broker.recover.run.run w.broker).2).storeOf d = w.broker.storeOf d := by
    intro d
    cases d
    · exact (recover_stores w.broker).2
    · exact (recover_stores w.broker).1
  refine h.of_step rfl (fun d m hm => .inl (by rwa [hst] at hm)) fun m hm => .inr ⟨.durable, ?_⟩
  cases hres : (Broker.recover.run.run w.broker).1 with
  | error e => simp [hres, recoverEvents] at hm
  | ok r =>
    simp only [hres, recoverEvents, resendEvents, List.mem_append, List.mem_map, reduceCtorEq,
      and_false, exists_false, Event.accepted.injEq, exists_eq_right, false_or] at hm
    exact Transport.mem_handOver hm

theorem Sourced.step (h : Sourced w) (a : Action) : Sourced (w.step stamps a) := by
  cases a with
  | addStrand s c => exact h.addStrand s c
  | send s p => exact h.send s p
  | receive s => exact h.receive s
  | acknowledge s id => exact h.acknowledge s id
  | removeStrand s => exact h.removeStrand s
  | recover => exact h.recover
  | durability s =>
    exact h.of_kept rfl (fun d m hm => by simpa [World.step, durability_run] using hm) (by simp)
  | strandConfig s =>
    exact h.of_kept rfl (fun d m hm => by simpa [World.step, strandConfig_run] using hm) (by simp)
  | restart n =>
    exact h.of_step rfl (fun d m hm => .inl (by cases d <;> exact hm)) fun m hm => by simp at hm
  | close d =>
    refine h.of_kept (List.append_nil _).symm (fun d' m hm => ?_) (by simp)
    simp only [World.step, storeOf_withStore] at hm
    split at hm
    · subst_vars; rwa [(Store.sameData_close _).pending] at hm
    · exact hm
  | reset d n =>
    refine h.of_kept (List.append_nil _).symm (fun d' m hm => ?_) (by simp)
    simp only [World.step, storeOf_withStore] at hm
    split at hm
    · subst_vars
      rcases Store.reset_cases (w.broker.storeOf d') n with hb | hsame
      · simp [hb.pending] at hm
      · rwa [hsame.pending] at hm
    · exact hm
  | reload d n =>
    refine h.of_kept (List.append_nil _).symm (fun d' m hm => ?_) (by simp)
    simp only [World.step, storeOf_withStore] at hm
    split at hm
    · subst_vars
      rcases Store.reload_cases (w.broker.storeOf d') n with hb | hsame
      · simp [hb.pending] at hm
      · rwa [hsame.pending] at hm
    · exact hm
  | block flag =>
    refine h.of_kept (List.append_nil _).symm (fun d' m hm => ?_) (by simp)
    simp only [World.step, storeOf_withStore] at hm
    split at hm
    · subst_vars; rwa [(Store.sameData_withBlocked _ flag).pending] at hm
    · exact hm

theorem sourced_run (stamps : Nat → Stamp) {w : World} (h : Sourced w) (acts : List Action) :
    Sourced (w.run stamps acts) :=
  run_invariant stamps Sourced (fun _ a hw => hw.step a) h acts

/-- Every event since the last restart is an event of the log. -/
theorem mem_of_mem_sinceRestart {log : List Event} {e : Event} (h : e ∈ sinceRestart log) :
    e ∈ log := by
  suffices ∀ l : List Event,
      e ∈ log.foldl (fun l e => if e.isRestart then [] else l ++ [e]) l → e ∈ l ∨ e ∈ log from
    (this [] h).resolve_left (by simp)
  clear h
  induction log with
  | nil => exact fun l hl => .inl hl
  | cons e' rest ih =>
    intro l hl
    rw [List.foldl_cons] at hl
    rcases ih _ hl with hl' | hrest
    · split at hl'
      · simp at hl'
      · rcases List.mem_append.1 hl' with hl'' | he
        · exact .inl hl''
        · exact .inr (by simp_all)
    · exact .inr (List.mem_cons_of_mem _ hrest)

theorem mem_accepted {w : World} {s : String} {m : Envelope} (h : m ∈ w.accepted s) :
    m.strand = s ∧ Event.accepted m ∈ w.log := by
  obtain ⟨e, he, hem⟩ := List.mem_filterMap.1 h
  cases e with
  | accepted m' =>
    simp only [Event.acceptedOn] at hem
    split at hem
    · cases hem
      exact ⟨by assumption, mem_of_mem_sinceRestart he⟩
    · cases hem
  | _ => simp [Event.acceptedOn] at hem

end World

open World in
/-- Over a fresh channel transport and from empty stores, every envelope a receive on strand
`s` returned since the transport was last replaced is an envelope of `s` that the transport
took since then, and a send saved it earlier in the run. -/
theorem receives_were_saved (stamps : Nat → Stamp) (cap : Nat) (b : Broker)
    (hv : b.volatile.Blank) (hd : b.durable.Blank)
    (hb : b.transport = .channel (Channel.make cap)) (acts : List Action) (s : String) :
    let w := World.run stamps ⟨b, []⟩ acts
    ∀ m ∈ w.received s, m ∈ w.accepted s ∧ m.strand = s ∧ Event.saved m ∈ w.log := by
  intro w m hm
  have hdel : Delivering cap w := delivering_run (delivering_start hb) stamps acts
  have hsrc : Sourced w := sourced_run stamps (sourced_start hv hd) acts
  have hacc : m ∈ w.accepted s := (hdel.received_prefix s).subset hm
  obtain ⟨hstrand, hlog⟩ := mem_accepted hacc
  exact ⟨hacc, hstrand, hsrc.taken m hlog⟩

/-- A strand added, sent one envelope, removed and added again: the receive after the second
add returns the envelope sent before the removal, which a send saved earlier in the run. -/
theorem receives_were_saved_across_a_removal :
    let b : Broker := ⟨.memory {}, .memory {}, .channel (Channel.make 4), Metrics.fresh, 0⟩
    let w := World.run (fun n => ⟨toString n, 0⟩) ⟨b, []⟩
      [.addStrand "a" {}, .send "a" "old", .removeStrand "a", .addStrand "a" {}, .receive "a"]
    b.volatile.Blank ∧ b.durable.Blank ∧ b.transport = .channel (Channel.make 4) ∧
      Envelope.make "1" "a" "old" 0 ∈ w.received "a" ∧
      Event.saved (Envelope.make "1" "a" "old" 0) ∈ w.log := by
  intro b w
  have hm : Envelope.make "1" "a" "old" 0 ∈ w.received "a" := by decide
  exact ⟨rfl, rfl, rfl, hm, (receives_were_saved _ 4 b rfl rfl rfl _ "a" _ hm).2.2⟩

/-- A strand added, sent one envelope, removed and added again, over a fresh channel transport:
the receive after the second add returns the envelope sent before the removal, although since
that add nothing was saved or handed to the transport; acknowledging the envelope then fails. -/
theorem removed_strand_still_delivers :
    let b : Broker := ⟨.memory {}, .memory {}, .channel (Channel.make 4), Metrics.fresh, 0⟩
    let w := World.run (fun n => ⟨toString n, 0⟩) ⟨b, []⟩
      [.addStrand "a" {}, .send "a" "old", .removeStrand "a", .addStrand "a" {}, .receive "a"]
    let m := Envelope.make "1" "a" "old" 0
    w.log = [.added "a", .saved m, .attempted m, .accepted m, .added "a", .received "a" m] ∧
      ((Broker.acknowledge "a" m.id).run.run w.broker).1 = .error (.messageNotFound "a" m.id) := by
  decide

end Courier
