import Courier.Proofs.World

/-!
# Where strands live

A broker keeps each strand in one of two stores, the one its configuration asks for when the
strand is added. `Broker.Placed` says so of every registered id: one store registers it, the
store its configuration asks for, and the id passes `Strand.check`.

Two empty stores are placed, and every action keeps placement. `addStrand` checks the id, asks
both stores, and registers in one; no other action registers anything. A write keeps what its
store registers or drops a strand, a wiped store registers nothing, and a store closed,
reopened or marked blocked registers what it did (`Placed.of_confOf`).

From placement: the broker reports a strand durable exactly when its configuration says
durable, and a call on a strand writes only the strand's store.
-/

namespace Courier

namespace Broker

/-- Each registered strand lives in one store, the one its configuration asks for, under an id
that passes `Strand.check`. -/
structure Placed (b : Broker) : Prop where
  unique : ∀ s d d', (b.storeOf d).confOf s ≠ none → (b.storeOf d').confOf s ≠ none → d = d'
  valid : ∀ d s c, (b.storeOf d).confOf s = some c → Strand.Valid s ∧ Durability.ofConf c = d

variable {b b' : Broker}

theorem ofConf_eq_iff (c : StrandConf) (d : Durability) :
    Durability.ofConf c = d ↔ (c.durable = true ↔ d = .durable) := by
  cases d <;> cases hc : c.durable <;> simp [Durability.ofConf, hc]

theorem home_eq_ok_iff {s : String} {d : Durability} :
    b.home s = .ok d ↔ b.locate s = .ok (some d) := by
  unfold home
  split <;> simp_all

/-- Placement reads only what the stores register: a change that registers nothing new keeps
it. -/
theorem Placed.of_confOf (h : b.Placed)
    (hc : ∀ d s, (b'.storeOf d).confOf s = none ∨
      (b'.storeOf d).confOf s = (b.storeOf d).confOf s) : b'.Placed := by
  have hkeep : ∀ d s, (b'.storeOf d).confOf s ≠ none →
      (b'.storeOf d).confOf s = (b.storeOf d).confOf s := fun d s hne => (hc d s).resolve_left hne
  refine ⟨fun s d d' h₁ h₂ => ?_, fun d s c hsc => ?_⟩
  · exact h.unique s d d' (hkeep d s h₁ ▸ h₁) (hkeep d' s h₂ ▸ h₂)
  · have hne : (b'.storeOf d).confOf s ≠ none := by simp [hsc]
    exact h.valid d s c ((hkeep d s hne).symm.trans hsc)

/-- A write to one store that registers nothing new keeps placement. -/
theorem Placed.of_write (h : b.Placed) {d : Durability} {st : Store}
    (hst : ∀ d', b'.storeOf d' = if d' = d then st else b.storeOf d')
    (hc : ∀ s, st.confOf s = none ∨ st.confOf s = (b.storeOf d).confOf s) : b'.Placed := by
  refine h.of_confOf fun d' s => ?_
  rw [hst d']
  split
  · subst_vars; exact hc s
  · exact .inr rfl

theorem Placed.of_sameData (h : b.Placed) {d : Durability} {st : Store}
    (hst : ∀ d', b'.storeOf d' = if d' = d then st else b.storeOf d')
    (hsame : (b.storeOf d).SameData st) : b'.Placed :=
  h.of_write hst fun s => .inr (by rw [hsame.confOf])

/-- A wiped store registers nothing; one whose wipe was refused registers what it did. -/
theorem Placed.of_blank_or_same (h : b.Placed) {d : Durability} {st : Store}
    (hst : ∀ d', b'.storeOf d' = if d' = d then st else b.storeOf d')
    (hcases : st.Blank ∨ (b.storeOf d).SameData st) : b'.Placed := by
  rcases hcases with hblank | hsame
  · exact h.of_write hst fun s => .inl (hblank.confOf s)
  · exact h.of_sameData hst hsame

theorem Placed.of_stores (h : b.Placed) (hst : ∀ d, b'.storeOf d = b.storeOf d) : b'.Placed :=
  h.of_confOf fun d s => .inr (by rw [hst])

/-! ## Each action keeps placement -/

/-- A strand is added only when no store has it, with an id that passes the checks, into the
store its configuration asks for. -/
theorem Placed.addStrand (h : b.Placed) (s : String) (c : StrandConf) :
    ((Broker.addStrand s c).run.run b).2.Placed := by
  cases hr : (Broker.addStrand s c).run.run b with
  | mk r b' =>
    cases r with
    | error e => exact addStrand_error hr ▸ h
    | ok u =>
      obtain ⟨hc, hl, st, hcreate, hst, -, -⟩ := addStrand_ok hr
      obtain ⟨hnone, -, hconf, -⟩ := Store.create_ok hcreate
      have hnew : ∀ d t, (b'.storeOf d).confOf t =
          if d = Durability.ofConf c ∧ s = t then some c else (b.storeOf d).confOf t := by
        intro d t
        rw [hst d]
        by_cases hd : d = Durability.ofConf c
        · subst hd; simp [hconf]
        · simp [hd]
      have hfree := confOf_of_locate_none hl
      refine ⟨fun t d d' h₁ h₂ => ?_, fun d t c' htc => ?_⟩
      · rw [hnew] at h₁ h₂
        by_cases hts : s = t
        · subst hts
          -- the new id was nowhere before, so both stores that have it are the new one
          have hd : d = Durability.ofConf c := by
            by_contra hd; simp [hd, hfree] at h₁
          have hd' : d' = Durability.ofConf c := by
            by_contra hd'; simp [hd', hfree] at h₂
          rw [hd, hd']
        · simp only [hts, and_false, if_false] at h₁ h₂
          exact h.unique t d d' h₁ h₂
      · rw [hnew] at htc
        split at htc
        · rename_i hdt
          obtain ⟨rfl, rfl⟩ := hdt
          cases htc
          exact ⟨(Strand.check_ok_iff s).1 hc, rfl⟩
        · exact h.valid d t c' htc

theorem Placed.send (h : b.Placed) (s p : String) (stamps : Nat → Stamp) :
    ((Broker.send s p stamps).run.run b).2.Placed := by
  cases hr : (Broker.send s p stamps).run.run b with
  | mk r b' =>
    cases r with
    | error e =>
      rcases send_error hr with ⟨-, rfl⟩ | ⟨d, st, te, -, hs, -, -, rfl⟩
      · exact h
      · exact h.of_write (d := d) (fun d' => (by simp : _ = if d' = d then st else b.storeOf d'))
          fun t => .inr (by rw [(Store.save_ok hs).2.2])
    | ok m =>
      obtain ⟨d, st, t, -, hs, -, -, hst, -, -⟩ := send_ok hr
      exact h.of_write hst fun t => .inr (by rw [(Store.save_ok hs).2.2])

theorem Placed.acknowledge (h : b.Placed) (s id : String) :
    ((Broker.acknowledge s id).run.run b).2.Placed := by
  cases hr : (Broker.acknowledge s id).run.run b with
  | mk r b' =>
    cases r with
    | error e => exact acknowledge_error hr ▸ h
    | ok m' =>
      obtain ⟨d, m, st, -, hack, -, hst, -, -⟩ := acknowledge_ok hr
      exact h.of_write hst fun t => .inr (by rw [(Store.acknowledge_ok hack).2.2])

theorem Placed.removeStrand (h : b.Placed) (s : String) :
    ((Broker.removeStrand s).run.run b).2.Placed := by
  cases hr : (Broker.removeStrand s).run.run b with
  | mk r b' =>
    cases r with
    | error e => exact removeStrand_error hr ▸ h
    | ok u =>
      obtain ⟨d, st, -, hdel, hst, -, -⟩ := removeStrand_ok hr
      refine h.of_write hst fun t => ?_
      rw [(Store.delete_ok hdel).2.2 t]
      split
      · exact .inl rfl
      · exact .inr rfl

/-- Two empty stores register nothing, so they are placed. -/
theorem placed_of_blank (hv : b.volatile.Blank) (hd : b.durable.Blank) : b.Placed := by
  have hnone : ∀ d s, (b.storeOf d).confOf s = none := by
    intro d s
    cases d
    · exact hd.confOf s
    · exact hv.confOf s
  exact ⟨fun s d _ h₁ _ => absurd (hnone d s) h₁, fun d s c h => by simp [hnone] at h⟩

/-! ## What placement gives -/

theorem Placed.exclusive (h : b.Placed) (s : String) :
    b.volatile.confOf s = none ∨ b.durable.confOf s = none := by
  by_contra hboth
  rw [not_or] at hboth
  cases h.unique s .volatile .durable hboth.1 hboth.2

/-- The broker finds a registered strand in the store that registers it. -/
theorem Placed.home_eq (h : b.Placed) {s : String} {d d' : Durability}
    (hreg : (b.storeOf d).confOf s ≠ none) (hh : b.home s = .ok d') : d' = d :=
  h.unique s d' d (confOf_of_home hh).1 hreg

/-- The broker reports a strand durable exactly when the strand's configuration says durable. -/
theorem Placed.durability_iff (h : b.Placed) (s : String) :
    ((durability s).run.run b).1 = .ok (some .durable) ↔
      ∃ c, ((strandConfig s).run.run b).1 = .ok c ∧ c.durable = true := by
  rw [durability_run, strandConfig_run]
  constructor
  · intro hl
    have hh : b.home s = .ok .durable := home_eq_ok_iff.2 hl
    obtain ⟨hreg, ho⟩ := confOf_of_home hh
    obtain ⟨c, hc⟩ := Option.ne_none_iff_exists'.mp hreg
    simp only [storeOf_durable] at ho hc
    refine ⟨c, by simp [hh, Store.config_eq, ho, hc], ?_⟩
    exact ((ofConf_eq_iff c _).1 (h.valid .durable s c hc).2).2 rfl
  · rintro ⟨c, hc, hdur⟩
    cases hh : b.home s with
    | error e => simp [hh] at hc
    | ok d =>
      obtain ⟨hreg, ho⟩ := confOf_of_home hh
      obtain ⟨c', hc'⟩ := Option.ne_none_iff_exists'.mp hreg
      simp only [hh, Store.config_eq, ho, if_true, hc', Except.ok.injEq] at hc
      subst hc
      -- the strand's configuration says durable, so its store is the durable one
      have hd : d = .durable := ((ofConf_eq_iff c' d).1 (h.valid d s c' hc').2).1 hdur
      subst hd
      exact home_eq_ok_iff.1 hh

theorem Placed.send_other (h : b.Placed) {s : String} {d d' : Durability}
    (hreg : (b.storeOf d).confOf s ≠ none) (hd' : d' ≠ d) (p : String) (stamps : Nat → Stamp) :
    ((Broker.send s p stamps).run.run b).2.storeOf d' = b.storeOf d' := by
  cases hr : (Broker.send s p stamps).run.run b with
  | mk r b' =>
    dsimp only
    cases r with
    | error e =>
      rcases send_error hr with ⟨-, rfl⟩ | ⟨d'', st, te, hh, -, -, -, rfl⟩
      · rfl
      · simp [h.home_eq hreg hh, hd']
    | ok m =>
      obtain ⟨d'', st, t, hh, -, -, -, hst, -, -⟩ := send_ok hr
      rw [hst, if_neg (h.home_eq hreg hh ▸ hd')]

theorem Placed.acknowledge_other (h : b.Placed) {s : String} {d d' : Durability}
    (hreg : (b.storeOf d).confOf s ≠ none) (hd' : d' ≠ d) (id : String) :
    ((Broker.acknowledge s id).run.run b).2.storeOf d' = b.storeOf d' := by
  cases hr : (Broker.acknowledge s id).run.run b with
  | mk r b' =>
    dsimp only
    cases r with
    | error e => rw [acknowledge_error hr]
    | ok m' =>
      obtain ⟨d'', m, st, hh, -, -, hst, -, -⟩ := acknowledge_ok hr
      rw [hst, if_neg (h.home_eq hreg hh ▸ hd')]

theorem Placed.removeStrand_other (h : b.Placed) {s : String} {d d' : Durability}
    (hreg : (b.storeOf d).confOf s ≠ none) (hd' : d' ≠ d) :
    ((Broker.removeStrand s).run.run b).2.storeOf d' = b.storeOf d' := by
  cases hr : (Broker.removeStrand s).run.run b with
  | mk r b' =>
    dsimp only
    cases r with
    | error e => rw [removeStrand_error hr]
    | ok u =>
      obtain ⟨d'', st, hh, -, hst, -, -⟩ := removeStrand_ok hr
      rw [hst, if_neg (h.home_eq hreg hh ▸ hd')]

end Broker

namespace World

open Broker

variable {stamps : Nat → Stamp}

theorem placed_step {w : World} (h : w.broker.Placed) (a : Action) :
    (w.step stamps a).broker.Placed := by
  cases a with
  | addStrand s c => exact h.addStrand s c
  | send s p => exact h.send s p stamps
  | receive s => exact h.of_stores (receive_stores s w.broker).1
  | acknowledge s id => exact h.acknowledge s id
  | removeStrand s => exact h.removeStrand s
  | recover =>
    exact h.of_stores fun d => by
      cases d
      · exact (recover_stores w.broker).2
      · exact (recover_stores w.broker).1
  | durability s => simpa [step, durability_run] using h
  | strandConfig s => simpa [step, strandConfig_run] using h
  | restart n => exact h.of_stores fun d => by cases d <;> rfl
  | close d => exact h.of_sameData (d := d) (fun d' => by simp [step]) (Store.sameData_close _)
  | reset d n => exact h.of_blank_or_same (d := d) (fun d' => by simp [step]) (Store.reset_cases _ n)
  | reload d n => exact h.of_blank_or_same (d := d) (fun d' => by simp [step]) (Store.reload_cases _ n)
  | block flag =>
    exact h.of_sameData (d := .durable) (fun d' => by simp [step])
      (Store.sameData_withBlocked _ flag)

theorem placed_run (stamps : Nat → Stamp) {w : World} (h : w.broker.Placed) (acts : List Action) :
    (w.run stamps acts).broker.Placed :=
  run_invariant stamps (fun w => w.broker.Placed) (fun _ a hw => placed_step hw a) h acts

end World

open Broker in
/-- Along every run from two empty stores: no strand is registered in both stores; every
registered id passes `Strand.check`, and its store is durable exactly when its configuration
says durable. So the broker reports a strand durable exactly when its configuration does, and
`send`, `acknowledge` and `removeStrand` on a registered strand leave the other store as it
was. -/
theorem strand_lives_in_one_store (stamps : Nat → Stamp) (b : Broker) (hv : b.volatile.Blank)
    (hd : b.durable.Blank) (acts : List Action) :
    let b' := (World.run stamps ⟨b, []⟩ acts).broker
    (∀ s, b'.volatile.confOf s = none ∨ b'.durable.confOf s = none) ∧
    (∀ d s c, (b'.storeOf d).confOf s = some c →
      Strand.Valid s ∧ (c.durable = true ↔ d = .durable)) ∧
    (∀ s, ((durability s).run.run b').1 = .ok (some .durable) ↔
      ∃ c, ((strandConfig s).run.run b').1 = .ok c ∧ c.durable = true) ∧
    (∀ s d d', (b'.storeOf d).confOf s ≠ none → d' ≠ d →
      (∀ p, ((send s p stamps).run.run b').2.storeOf d' = b'.storeOf d') ∧
      (∀ id, ((acknowledge s id).run.run b').2.storeOf d' = b'.storeOf d') ∧
      ((removeStrand s).run.run b').2.storeOf d' = b'.storeOf d') := by
  intro b'
  have h : b'.Placed := World.placed_run stamps (placed_of_blank hv hd) acts
  refine ⟨h.exclusive, fun d s c hc => ?_, h.durability_iff, fun s d d' hreg hd' =>
    ⟨fun p => h.send_other hreg hd' p stamps, h.acknowledge_other hreg hd', h.removeStrand_other hreg hd'⟩⟩
  obtain ⟨hvalid, hof⟩ := h.valid d s c hc
  exact ⟨hvalid, (ofConf_eq_iff c d).1 hof⟩

/-- Two memory stores start empty; after a strand is added durable and then again volatile, no
id is registered in both. -/
theorem strand_lives_in_one_store_from_memory :
    let b : Broker := ⟨.memory {}, .memory {}, .channel (Channel.make 1), Metrics.fresh, 0⟩
    let acts := [Action.addStrand "a" StrandConf.persistent, .addStrand "a" StrandConf.transient]
    b.volatile.Blank ∧ b.durable.Blank ∧
      ∀ s, (World.run (fun n => ⟨toString n, 0⟩) ⟨b, []⟩ acts).broker.volatile.confOf s = none ∨
        (World.run (fun n => ⟨toString n, 0⟩) ⟨b, []⟩ acts).broker.durable.confOf s = none := by
  intro b acts
  exact ⟨rfl, rfl, (strand_lives_in_one_store _ b rfl rfl acts).1⟩

end Courier
