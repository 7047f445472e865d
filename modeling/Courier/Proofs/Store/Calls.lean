import Courier.Proofs.Store

/-!
# Runs of a store

The calls a store's callers make, one after another: its operations, and a cursor opened and
walked to its end before the next call (`StoreCall.dump`). No cursor stays open across calls,
so a reset or a reload finds no reader. `Store.call` answers a call and gives the store after
it; a write that fails leaves the store as it was. `Store.replies` lists the answers of a run,
and `Store.afterCalls` gives the store it ends in.

What holds of a store and survives every call holds after every run (`afterCalls_invariant`).
-/

namespace Courier

/-- A call on a store. -/
inductive StoreCall where
  | create (s : String) (c : StrandConf)
  | delete (s : String)
  | has (s : String)
  | config (s : String)
  | strands
  | save (m : Envelope)
  | acknowledge (s id : String)
  | unacked (s : String)
  | close
  /-- The store wiped, with no cursor open on it. -/
  | reset
  /-- The store reopened, with no cursor open on it. -/
  | reload
  /-- A cursor opened on the store and walked to its end. -/
  | dump
  deriving Repr

/-- Whether a call registers no strand whose id has `:` in it. -/
def StoreCall.plainIds : StoreCall → Bool
  | .create s _ => !s.toList.contains ':'
  | _ => true

/-- What a store answers to a call. -/
inductive StoreReply where
  | done (r : Except StoreError Unit)
  | flag (r : Except StoreError Bool)
  | conf (r : Except StoreError (Option StrandConf))
  | strands (r : Except StoreError (List (String × StrandConf)))
  | envelope (r : Except StoreError Envelope)
  | count (r : Except StoreError Nat)
  | envelopes (r : Except StoreError (List Envelope))
  deriving DecidableEq

namespace Store

/-- The envelopes a cursor opened now gives, walked to its end while the store stays as it
is. -/
def dump (st : Store) : Except StoreError (List Envelope) :=
  (fun c => c.walk st) <$> Cursor.open? st

/-- The answer of a write and the store after it: a failed write leaves the store as it was. -/
def write (st : Store) : Except StoreError Store → StoreReply × Store
  | .ok st' => (.done (.ok ()), st')
  | .error e => (.done (.error e), st)

/-- One call, answered. -/
def call (st : Store) : StoreCall → StoreReply × Store
  | .create s c => st.write (st.create s c)
  | .delete s => st.write (st.delete s)
  | .has s => (.flag (st.has s), st)
  | .config s => (.conf (st.config s), st)
  | .strands => (.strands st.listStrands, st)
  | .save m => st.write (st.save m)
  | .acknowledge s id =>
    match st.acknowledge s id with
    | .ok (m, st') => (.envelope (.ok m), st')
    | .error e => (.envelope (.error e), st)
  | .unacked s => (.count (st.unacked s), st)
  | .close => (.done (.ok ()), st.close)
  | .reset => (.done (st.reset 0).1, (st.reset 0).2)
  | .reload => (.done (st.reload 0).1, (st.reload 0).2)
  | .dump => (.envelopes st.dump, st)

/-- The store after a run of calls. -/
def afterCalls (st : Store) (calls : List StoreCall) : Store :=
  calls.foldl (fun st c => (st.call c).2) st

/-- The answers to a run of calls, in order. -/
def replies : Store → List StoreCall → List StoreReply
  | _, [] => []
  | st, c :: rest => (st.call c).1 :: replies (st.call c).2 rest

@[simp] theorem afterCalls_nil (st : Store) : st.afterCalls [] = st := rfl

@[simp] theorem afterCalls_cons (st : Store) (c : StoreCall) (rest : List StoreCall) :
    st.afterCalls (c :: rest) = (st.call c).2.afterCalls rest := rfl

/-- What holds of a store and survives every call of a kind holds after every run of such
calls. -/
theorem afterCalls_invariant (P : Store → Prop) (ok : StoreCall → Prop)
    (hstep : ∀ st c, ok c → P st → P (st.call c).2) {st : Store} (hst : P st)
    (calls : List StoreCall) (hcalls : ∀ c ∈ calls, ok c) : P (st.afterCalls calls) := by
  induction calls generalizing st with
  | nil => exact hst
  | cons c rest ih =>
    exact ih (hstep st c (hcalls c List.mem_cons_self) hst)
      fun c' hc' => hcalls c' (List.mem_cons_of_mem _ hc')

/-- A call leaves a store with the same data, a blank one, or the store a successful write
gives. -/
theorem call_cases (st : Store) (c : StoreCall) :
    st.SameData (st.call c).2 ∨ (st.call c).2.Blank ∨
      (∃ s conf, st.create s conf = .ok (st.call c).2 ∧ c = .create s conf) ∨
      (∃ s, st.delete s = .ok (st.call c).2 ∧ c = .delete s) ∨
      (∃ m, st.save m = .ok (st.call c).2 ∧ c = .save m) ∨
      (∃ s id m, st.acknowledge s id = .ok (m, (st.call c).2)) := by
  cases c with
  | create s conf =>
    cases h : st.create s conf with
    | ok st' => exact .inr (.inr (.inl ⟨s, conf, by simp [call, write, h], rfl⟩))
    | error e => exact .inl (by simp only [call, write, h]; exact SameData.refl st)
  | delete s =>
    cases h : st.delete s with
    | ok st' => exact .inr (.inr (.inr (.inl ⟨s, by simp [call, write, h], rfl⟩)))
    | error e => exact .inl (by simp only [call, write, h]; exact SameData.refl st)
  | save m =>
    cases h : st.save m with
    | ok st' => exact .inr (.inr (.inr (.inr (.inl ⟨m, by simp [call, write, h], rfl⟩))))
    | error e => exact .inl (by simp only [call, write, h]; exact SameData.refl st)
  | acknowledge s id =>
    cases h : st.acknowledge s id with
    | ok p =>
      obtain ⟨m, st'⟩ := p
      exact .inr (.inr (.inr (.inr (.inr ⟨s, id, m, by simp [call, h]⟩))))
    | error e => exact .inl (by simp only [call, h]; exact SameData.refl st)
  | close => exact .inl (sameData_close st)
  | reset => exact (reset_cases st 0).symm.imp_right .inl
  | reload => exact (reload_cases st 0).symm.imp_right .inl
  | has s => exact .inl (SameData.refl st)
  | config s => exact .inl (SameData.refl st)
  | strands => exact .inl (SameData.refl st)
  | unacked s => exact .inl (SameData.refl st)
  | dump => exact .inl (SameData.refl st)

/-- Every call keeps a store well formed, when it registers no id with `:` in it. -/
theorem wf_call {st : Store} (hwf : st.WF) (c : StoreCall) (hc : c.plainIds = true) :
    (st.call c).2.WF := by
  rcases call_cases st c with hsame | hblank | ⟨s, conf, h, rfl⟩ | ⟨s, h, -⟩ | ⟨m, h, -⟩ |
      ⟨s, id, m, h⟩
  · exact hsame.wf hwf
  · exact hblank.wf
  · exact create_wf hwf (by simpa [StoreCall.plainIds] using hc) h
  · exact delete_wf hwf h
  · exact save_wf hwf h
  · exact acknowledge_wf hwf h

end Store

end Courier
