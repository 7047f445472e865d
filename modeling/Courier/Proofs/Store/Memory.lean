import Courier.Store.Memory
import Courier.Proofs.Keyed

/-!
# The memory store: operations

One lemma per operation of `MemoryStore` that succeeds: the checks it passed and the store it
returns. Every operation but `close` and `reset` first refuses a closed store, and every
operation on one strand then refuses a strand the table lacks (`entry_ok`).
-/

namespace Courier

namespace MemoryStore

theorem entry_ok {st : MemoryStore} {s : String} {e : Entry} (h : st.entry s = .ok e) :
    st.closed = false ∧ st.strands.get? s = some e := by
  unfold entry guard at h
  by_cases hc : st.closed
  · simp [hc, bind, Except.bind] at h
  · simp only [hc, Bool.false_eq_true, if_false, bind, Except.bind] at h
    split at h <;> simp_all [pure, Except.pure, throw, throwThe, MonadExceptOf.throw]

theorem create_ok {st st' : MemoryStore} {s : String} {c : StrandConf}
    (h : st.create s c = .ok st') :
    st.closed = false ∧ st.strands.get? s = none ∧
      st' = { st with strands := st.strands.insert s { conf := c } } := by
  unfold create guard at h
  by_cases hc : st.closed <;> by_cases hs : st.strands.contains s <;>
    simp_all [bind, Except.bind, pure, Except.pure, Keyed.contains]

theorem save_ok {st st' : MemoryStore} {m : Envelope} (h : st.save m = .ok st') :
    ∃ e, st.closed = false ∧ st.strands.get? m.strand = some e ∧
      st' = { st with
        strands := st.strands.insert m.strand { e with messages := e.messages.insert m.id m } } := by
  unfold save at h
  cases he : st.entry m.strand with
  | error err => simp [he, bind, Except.bind] at h
  | ok e =>
    obtain ⟨hc, hg⟩ := entry_ok he
    simp only [he, bind, Except.bind, pure, Except.pure, Except.ok.injEq] at h
    exact ⟨e, hc, hg, h.symm⟩

theorem acknowledge_ok {st st' : MemoryStore} {s id : String} {m : Envelope}
    (h : st.acknowledge s id = .ok (m, st')) :
    ∃ e, st.closed = false ∧ st.strands.get? s = some e ∧ e.messages.get? id = some m ∧
      st' = { st with
        strands := st.strands.insert s { e with messages := e.messages.erase id } } := by
  unfold acknowledge at h
  cases he : st.entry s with
  | error err => simp [he, bind, Except.bind] at h
  | ok e =>
    obtain ⟨hc, hg⟩ := entry_ok he
    simp only [he, bind, Except.bind] at h
    split at h
    · cases h
    · rename_i m' hm
      simp only [pure, Except.pure, Except.ok.injEq, Prod.mk.injEq] at h
      obtain ⟨rfl, rfl⟩ := h
      exact ⟨e, hc, hg, hm, rfl⟩

theorem delete_ok {st st' : MemoryStore} {s : String} (h : st.delete s = .ok st') :
    st.closed = false ∧ st.strands.get? s ≠ none ∧
      st' = { st with strands := st.strands.erase s } := by
  unfold delete at h
  cases he : st.entry s with
  | error err => simp [he, bind, Except.bind] at h
  | ok e =>
    obtain ⟨hc, hg⟩ := entry_ok he
    simp only [he, bind, Except.bind, pure, Except.pure, Except.ok.injEq] at h
    exact ⟨hc, by simp [hg], h.symm⟩

theorem has_eq (st : MemoryStore) (s : String) :
    st.has s = if st.closed then .error .closed else .ok (st.strands.contains s) := by
  unfold has guard
  by_cases hc : st.closed <;> simp [hc, bind, Except.bind, pure, Except.pure]

theorem config_eq (st : MemoryStore) (s : String) :
    st.config s =
      if st.closed then .error .closed else .ok ((st.strands.get? s).map (·.conf)) := by
  unfold config guard
  by_cases hc : st.closed <;> simp [hc, bind, Except.bind, pure, Except.pure]

theorem unacked_eq (st : MemoryStore) (s : String) :
    st.unacked s =
      if st.closed then .error .closed
      else match st.strands.get? s with
        | some e => .ok e.messages.size
        | none => .error (.strandNotFound s) := by
  unfold unacked entry guard
  by_cases hc : st.closed
  · simp [hc, bind, Except.bind]
  · simp only [hc, Bool.false_eq_true, if_false, bind, Except.bind]
    cases st.strands.get? s <;> rfl

end MemoryStore

end Courier
