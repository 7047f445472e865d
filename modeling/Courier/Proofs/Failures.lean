import Courier.Proofs.Store
import Courier.Proofs.Op

/-!
# Failed calls

A broker call that fails leaves the broker as it found it: both stores, the transport, the
metrics, and the count of stamps drawn. Each refusal of `addStrand`, `acknowledge` and
`removeStrand` comes before the call's one write.

`send` has the one designed exception. It saves its envelope before it hands the envelope to
the transport, so a send that the transport refuses keeps the saved envelope and the depth it
reported; it changes neither the transport nor any count of envelopes sent.

A send cannot fail between drawing its stamp and saving its envelope: the strand's store has
just reported the strand registered, and a store saves onto any strand it registers
(`Store.save_ok_of_has`). So a send that fails before the transport draws no stamp.
-/

namespace Courier

namespace Metrics

/-- A depth report changes no count of envelopes sent. -/
@[simp] theorem sent_noteDepth (mt : Metrics) (s t : String) (n : Nat) :
    ((mt.noteDepth s n).get t).sent = (mt.get t).sent := by
  cases mt with
  | recording tb => by_cases h : s = t <;> simp [noteDepth, update, get, Keyed.alter, h]
  | discarding => rfl

end Metrics

namespace Broker

variable {b b' : Broker} {s : String} {e : BrokerError}

theorem sent_depthReported (b : Broker) (d : Durability) (s t : String) :
    ((b.depthReported d s).metrics.get t).sent = (b.metrics.get t).sent := by
  unfold depthReported; split <;> simp

/-- A send saves its envelope on a strand the broker found. -/
theorem save_draft_ok {d : Durability} (h : b.home s = .ok d) (stamps : Nat → Stamp)
    (p : String) : ∃ st, (b.storeOf d).save (b.draft stamps s p) = .ok st :=
  Store.save_ok_of_has (by simpa using has_of_home h)

theorem addStrand_error {c : StrandConf} (h : (addStrand s c).run.run b = (.error e, b')) :
    b' = b := by
  rw [addStrand_run] at h
  split at h
  · exact (Prod.mk.inj h).2.symm
  · split at h
    · exact (Prod.mk.inj h).2.symm
    · exact (Prod.mk.inj h).2.symm
    · split at h
      · exact (Prod.mk.inj h).2.symm
      -- the store created the strand: the call succeeded
      · cases (Prod.mk.inj h).1

theorem acknowledge_error {id : String} (h : (acknowledge s id).run.run b = (.error e, b')) :
    b' = b := by
  rw [acknowledge_run] at h
  split at h
  · exact (Prod.mk.inj h).2.symm
  · split at h
    · exact (Prod.mk.inj h).2.symm
    · cases (Prod.mk.inj h).1

theorem removeStrand_error (h : (removeStrand s).run.run b = (.error e, b')) : b' = b := by
  rw [removeStrand_run] at h
  split at h
  · exact (Prod.mk.inj h).2.symm
  · split at h
    · exact (Prod.mk.inj h).2.symm
    · cases (Prod.mk.inj h).1

/-- A failed send either found no home for its strand and did nothing, or saved its envelope
and had it refused by the transport. -/
theorem send_error {stamps : Nat → Stamp} {p : String}
    (h : (send s p stamps).run.run b = (.error e, b')) :
    (b.home s = .error e ∧ b' = b) ∨
      ∃ d st te, b.home s = .ok d ∧ (b.storeOf d).save (b.draft stamps s p) = .ok st ∧
        b.transport.send (b.draft stamps s p) = .error te ∧ e = .transport s te ∧
        b' = ({ b with drawn := b.drawn + 1 }.withStore d st).depthReported d s := by
  rw [send_run] at h
  cases hh : b.home s with
  | error e' =>
    simp only [hh] at h
    obtain ⟨he, rfl⟩ := Prod.mk.inj h
    exact .inl ⟨by rw [Except.error.inj he], rfl⟩
  | ok d =>
    obtain ⟨st, hs⟩ := save_draft_ok hh stamps p
    simp only [hh, hs] at h
    cases ht : b.transport.send (b.draft stamps s p) with
    | error te =>
      simp only [ht] at h
      obtain ⟨he, rfl⟩ := Prod.mk.inj h
      exact .inr ⟨d, st, te, rfl, hs, rfl, (Except.error.inj he).symm, rfl⟩
    | ok t =>
      simp only [ht] at h
      cases (Prod.mk.inj h).1

/-- An invalid id is refused before any store is read, whatever the broker holds. -/
theorem addStrand_invalid {r : Strand.Invalid} (h : Strand.check s = .error r) (c : StrandConf)
    (b : Broker) : (addStrand s c).run.run b = (.error (.invalidStrand s r), b) := by
  rw [addStrand_run, h]

/-- A recovery pass writes to no store, whether it succeeds or not. -/
theorem recover_stores (b : Broker) :
    (recover.run.run b).2.volatile = b.volatile ∧ (recover.run.run b).2.durable = b.durable := by
  rw [recover_run]
  split <;> simp

theorem recover_drawn (b : Broker) : (recover.run.run b).2.drawn = b.drawn := by
  rw [recover_run]
  split <;> simp

/-- A failed `addStrand`, `acknowledge` or `removeStrand` leaves the broker as it was. So does a
failed send, unless it saved its envelope and the transport refused it: then the save and the
depth report stay, and neither the transport nor any count of envelopes sent changes. A send
refused with `strandNotFound` draws no stamp, an invalid id is refused whatever the stores hold,
and recovery writes to no store. -/
theorem failed_calls_change_nothing (b : Broker) (stamps : Nat → Stamp) :
    (∀ s c e b', (addStrand s c).run.run b = (.error e, b') → b' = b) ∧
    (∀ s id e b', (acknowledge s id).run.run b = (.error e, b') → b' = b) ∧
    (∀ s e b', (removeStrand s).run.run b = (.error e, b') → b' = b) ∧
    (∀ s p e b', (send s p stamps).run.run b = (.error e, b') →
      b' = b ∨ ∃ d st te, b.home s = .ok d ∧ (b.storeOf d).save (b.draft stamps s p) = .ok st ∧
        e = .transport s te ∧
        b' = ({ b with drawn := b.drawn + 1 }.withStore d st).depthReported d s ∧
        b'.transport = b.transport ∧ ∀ t, (b'.metrics.get t).sent = (b.metrics.get t).sent) ∧
    (∀ s p x b', (send s p stamps).run.run b = (.error (.strandNotFound x), b') → b' = b) ∧
    (∀ s r c, Strand.check s = .error r →
      (addStrand s c).run.run b = (.error (.invalidStrand s r), b)) ∧
    (recover.run.run b).2.volatile = b.volatile ∧ (recover.run.run b).2.durable = b.durable := by
  refine ⟨fun s c e b' h => addStrand_error h, fun s id e b' h => acknowledge_error h,
    fun s e b' h => removeStrand_error h, fun s p e b' h => ?_, fun s p x b' h => ?_,
    fun s r c h => addStrand_invalid h c b, recover_stores b⟩
  · rcases send_error h with ⟨-, rfl⟩ | ⟨d, st, te, hh, hs, -, rfl, rfl⟩
    · exact .inl rfl
    · exact .inr ⟨d, st, te, hh, hs, rfl, rfl, by simp, fun t => by simp [sent_depthReported]⟩
  -- the transport's refusal is no `strandNotFound`, so the send found no home
  · rcases send_error h with ⟨-, rfl⟩ | ⟨d, st, te, -, -, -, he, -⟩
    · rfl
    · cases he

/-- On a broker with no strands, a send to `x` fails with `strandNotFound` and leaves the broker
as it was, and an add of the id `a:b` is refused for its separator before any store is read. -/
theorem failed_calls_change_nothing_on_an_empty_broker :
    let b : Broker := ⟨.memory {}, .memory {}, .channel (Channel.make 4), Metrics.fresh, 0⟩
    let stamps : Nat → Stamp := fun n => { id := toString n, timestamp := 0 }
    (send "x" "p" stamps).run.run b = (.error (.strandNotFound "x"), b) ∧
      (addStrand "a:b" {}).run.run b = (.error (.invalidStrand "a:b" .separator), b) := by
  intro b stamps
  obtain ⟨-, -, -, -, hunknown, hinvalid, -⟩ := failed_calls_change_nothing b stamps
  have hsend : ((send "x" "p" stamps).run.run b).1 = .error (.strandNotFound "x") := by decide
  exact ⟨Prod.ext hsend (hunknown "x" "p" "x" _ (Prod.ext hsend rfl)),
    hinvalid "a:b" .separator {} (by decide)⟩

end Broker

end Courier
