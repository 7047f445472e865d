import Courier.Proofs.Store.Atomic

/-!
# Writes under the outcomes of the store's I/O

A disk store's write call looks its strand up, writes its change, and flushes the change to disk
before it answers; an acknowledge then decodes the record it removed (`DiskStore.underFaults`).
Each of these steps can fail. Where the failure comes decides what it leaves: a failed lookup or
write ends the call with the store as it was, like a refusal of one of the call's checks, but a
failed flush, or a removed record that does not decode, ends the call after the change was made
(`DiskStore.underFaults_error`).

`Store.callUnder io` runs calls with the outcomes `io` of the disk store's I/O; a memory store
does no I/O. With every step going through it is `Store.call` (`Store.callUnder_clean`). Every
write call on every store then goes as `Store.WritesUnder` says: a call that answers answers as
`Store.call` does, and a call that fails either changes nothing or fails after writing
(`Store.writesUnder`). So a failed acknowledge can have removed its record already, against the
promise that an acknowledge removes exactly one record or fails having removed nothing
(`acknowledge_on_disk_removes_another_or_fails_after_removing`).
-/

namespace Courier

namespace DiskStore

section Faults

variable {α : Type} {io : Faults} {st : DiskStore} {call : Except StoreError (α × DiskStore)}

/-- With every step going through, a write call answers as `call` does, and a refused call leaves
the store as it was. -/
theorem underFaults_clean (hguard : ∀ e, st.guard = .error e → call = .error e) :
    underFaults {} st call = (Prod.fst <$> call, (call.toOption.map Prod.snd).getD st) := by
  cases hg : st.guard with
  | error e =>
    rw [hguard e hg]
    simp [underFaults, hg, Functor.map, Except.map, Except.toOption]
  | ok u =>
    rcases call with e | ⟨a, st'⟩ <;>
      simp [underFaults, hg, Functor.map, Except.map, Except.toOption]

/-- A write call that answers made it through every step, and answers as `call` does. -/
theorem underFaults_ok {a : α} (h : (underFaults io st call).1 = .ok a) :
    call = .ok (a, (underFaults io st call).2) ∧ io.flush = none := by
  cases hg : st.guard with
  | error e => simp [underFaults, hg] at h
  | ok u =>
    cases hr : io.read with
    | some r => simp [underFaults, hg, hr] at h
    | none =>
      rcases call with e | ⟨a', st'⟩
      · simp [underFaults, hg, hr] at h
      · cases hw : io.write with
        | some r => simp [underFaults, hg, hr, hw] at h
        | none =>
          cases hf : io.flush with
          | some r => simp [underFaults, hg, hr, hw, hf] at h
          | none =>
            have hres : underFaults io st (.ok (a', st')) = (.ok a', st') := by
              simp [underFaults, hg, hr, hw, hf]
            rw [hres] at h ⊢
            simp only [Except.ok.injEq] at h
            exact ⟨by rw [h], rfl⟩

/-- A write call that fails either failed before its change was written, at the closed store, a
failed lookup, a check of `call` or a failed write, and leaves the store as it was; or it failed
at the flush after `call` wrote its change, and leaves the store as `call` does. -/
theorem underFaults_error (hguard : ∀ e, st.guard = .error e → call = .error e) {e : StoreError}
    (h : (underFaults io st call).1 = .error e) :
    ((underFaults io st call).2 = st ∧
        (call = .error e ∨ ∃ r, (io.read = some r ∨ io.write = some r) ∧ e = .backend r)) ∨
      ∃ a st' r, call = .ok (a, st') ∧ io.flush = some r ∧ e = .backend r ∧
        (underFaults io st call).2 = st' := by
  cases hg : st.guard with
  | error e' =>
    have hres : underFaults io st call = (.error e', st) := by simp [underFaults, hg]
    rw [hres, Except.error.injEq] at h
    subst h
    exact .inl ⟨by rw [hres], .inl (hguard _ hg)⟩
  | ok u =>
    cases hr : io.read with
    | some r =>
      have hres : underFaults io st call = (.error (.backend r), st) := by simp [underFaults, hg, hr]
      rw [hres, Except.error.injEq] at h
      exact .inl ⟨by rw [hres], .inr ⟨r, .inl rfl, h.symm⟩⟩
    | none =>
      -- past the lookup: the call's own checks, then the write, then the flush
      rcases call with e' | ⟨a, st'⟩
      · have hres : underFaults io st (.error e' : Except StoreError (α × DiskStore)) =
            (.error e', st) := by
          simp [underFaults, hg, hr]
        rw [hres, Except.error.injEq] at h
        exact .inl ⟨by rw [hres], .inl (by rw [h])⟩
      · cases hw : io.write with
        | some r =>
          have hres : underFaults io st (.ok (a, st')) = (.error (.backend r), st) := by
            simp [underFaults, hg, hr, hw]
          rw [hres, Except.error.injEq] at h
          exact .inl ⟨by rw [hres], .inr ⟨r, .inr rfl, h.symm⟩⟩
        | none =>
          cases hf : io.flush with
          | some r =>
            have hres : underFaults io st (.ok (a, st')) = (.error (.backend r), st') := by
              simp [underFaults, hg, hr, hw, hf]
            rw [hres, Except.error.injEq] at h
            exact .inr ⟨a, st', r, rfl, rfl, h.symm, by rw [hres]⟩
          | none => simp [underFaults, hg, hr, hw, hf] at h

end Faults

/-! Each write call refuses a closed store before anything else. -/

theorem create_of_guard {st : DiskStore} {e : StoreError} (h : st.guard = .error e)
    (s : String) (c : StrandConf) : st.create s c = .error e := by
  simp [create, h, bind, Except.bind]

theorem delete_of_guard {st : DiskStore} {e : StoreError} (h : st.guard = .error e) (s : String) :
    st.delete s = .error e := by
  simp [delete, h, bind, Except.bind]

theorem save_of_guard {st : DiskStore} {e : StoreError} (h : st.guard = .error e) (m : Envelope) :
    st.save m = .error e := by
  simp [save, h, bind, Except.bind]

theorem acknowledge_of_guard {st : DiskStore} {e : StoreError} (h : st.guard = .error e)
    (s id : String) : st.acknowledge s id = .error e := by
  simp [acknowledge, h, bind, Except.bind]

end DiskStore

/-- The error a reply reports, if it reports one. -/
def StoreReply.failure : StoreReply → Option StoreError
  | .done (.error e) | .flag (.error e) | .conf (.error e) | .strands (.error e)
  | .envelope (.error e) | .count (.error e) | .envelopes (.error e) => some e
  | _ => none

/-- Whether a call writes to the store: registering or removing a strand, keeping or
acknowledging an envelope. -/
def StoreCall.isWrite : StoreCall → Bool
  | .create .. | .delete _ | .save _ | .acknowledge .. => true
  | _ => false

namespace Store

/-- A call under the outcomes `io` of a disk store's I/O: the writes of a disk store run under
them, and every other call, like every call on a memory store, which does no I/O, runs as
`call` runs it. -/
def callUnder (io : DiskStore.Faults) (st : Store) (c : StoreCall) : StoreReply × Store :=
  match st, c with
  | .disk d, .create s conf => (.done (d.createUnder io s conf).1, .disk (d.createUnder io s conf).2)
  | .disk d, .delete s => (.done (d.deleteUnder io s).1, .disk (d.deleteUnder io s).2)
  | .disk d, .save m => (.done (d.saveUnder io m).1, .disk (d.saveUnder io m).2)
  | .disk d, .acknowledge s id =>
    (.envelope (d.acknowledgeUnder io s id).1, .disk (d.acknowledgeUnder io s id).2)
  | st, c => st.call c

/-- How a write call goes under the outcomes `io` of the store's I/O. A call that answers
answers as it does when all goes through, and leaves the same store. A call that fails either
leaves the store as it was, failing as it does when all goes through or at a failed lookup or
write; or it failed after writing its change, at the flush or at decoding the removed record,
and leaves the store as the call does when all goes through. -/
structure WritesUnder (io : DiskStore.Faults) (st : Store) (c : StoreCall) : Prop where
  answered : (st.callUnder io c).1.failure = none → st.callUnder io c = st.call c
  failed : ∀ e, (st.callUnder io c).1.failure = some e →
    ((st.callUnder io c).2 = st ∧ ((st.call c).1.failure = some e ∨
        ∃ r, (io.read = some r ∨ io.write = some r) ∧ e = .backend r)) ∨
      ((st.call c).1.failure = none ∧ (st.callUnder io c).2 = (st.call c).2 ∧
        ((∃ r, io.flush = some r ∧ e = .backend r) ∨
          io.flush = none ∧ ∃ r, io.decode = some r ∧ e = .serialization r))

/-- With every step of the I/O going through, a call runs as `call` runs it. -/
theorem callUnder_clean (st : Store) (c : StoreCall) : st.callUnder {} c = st.call c := by
  cases st with
  | memory st => cases c <;> rfl
  | disk d =>
    cases c with
    | create s conf =>
      simp only [callUnder, DiskStore.createUnder, call, write, create]
      rw [DiskStore.underFaults_clean fun e h => by simp [DiskStore.create_of_guard h]]
      cases d.create s conf <;> rfl
    | delete s =>
      simp only [callUnder, DiskStore.deleteUnder, call, write, delete]
      rw [DiskStore.underFaults_clean fun e h => by simp [DiskStore.delete_of_guard h]]
      cases d.delete s <;> rfl
    | save m =>
      simp only [callUnder, DiskStore.saveUnder, call, write, save]
      rw [DiskStore.underFaults_clean fun e h => by simp [DiskStore.save_of_guard h]]
      cases d.save m <;> rfl
    | acknowledge s id =>
      simp only [callUnder, DiskStore.acknowledgeUnder, call, acknowledge]
      rw [DiskStore.underFaults_clean fun e h => DiskStore.acknowledge_of_guard h s id]
      rcases d.acknowledge s id with e | ⟨m, d'⟩ <;> rfl
    | _ => rfl

theorem map_unit_pair_eq_ok {op : Except StoreError DiskStore} {u : Unit} {d : DiskStore} :
    (fun d' => ((), d')) <$> op = .ok (u, d) ↔ op = .ok d := by
  cases op <;> simp [Functor.map, Except.map]

theorem map_unit_pair_eq_error {op : Except StoreError DiskStore} {e : StoreError} :
    (fun d' => ((), d')) <$> op = .error e ↔ op = .error e := by
  cases op <;> simp [Functor.map, Except.map]

/-- A write of a disk store that gives a new store, as creating, deleting and saving do, goes as
`WritesUnder` says, given the call as it goes when all goes through. -/
theorem writesUnder_disk_done {io : DiskStore.Faults} {d : DiskStore} {c : StoreCall}
    {op : Except StoreError DiskStore} (hguard : ∀ e, d.guard = .error e → op = .error e)
    (hunder : (Store.disk d).callUnder io c =
      (.done (d.underFaults io ((fun d' => ((), d')) <$> op)).1,
        .disk (d.underFaults io ((fun d' => ((), d')) <$> op)).2))
    (hcall : (Store.disk d).call c = (Store.disk d).write (.disk <$> op)) :
    (Store.disk d).WritesUnder io c := by
  have hguard' : ∀ e, d.guard = .error e → ((fun d' => ((), d')) <$> op) = .error e :=
    fun e h => map_unit_pair_eq_error.2 (hguard e h)
  rcases hU : d.underFaults io ((fun d' => ((), d')) <$> op) with ⟨r, d'⟩
  constructor
  · intro hnone
    rw [hunder, hU] at hnone ⊢
    rw [hcall]
    cases r with
    | error e => simp [StoreReply.failure] at hnone
    | ok u =>
      have hop := (DiskStore.underFaults_ok (show (d.underFaults io _).1 = .ok u by rw [hU])).1
      rw [hU] at hop
      obtain rfl := map_unit_pair_eq_ok.1 hop
      rfl
  · intro e he
    rw [hunder, hU] at he ⊢
    rw [hcall]
    cases r with
    | ok u => simp [StoreReply.failure] at he
    | error e' =>
      simp only [StoreReply.failure, Option.some.injEq] at he
      subst he
      have hr : (d.underFaults io ((fun d' => ((), d')) <$> op)).1 = .error e' := by rw [hU]
      rcases DiskStore.underFaults_error hguard' hr with ⟨hsame, hwhy⟩ |
        ⟨a, d'', r, hop, hf, he, hafter⟩
      · -- nothing was written: a refusal of the call, or a failed lookup or write
        rw [hU] at hsame
        subst hsame
        refine .inl ⟨rfl, ?_⟩
        rcases hwhy with hop | hio
        · obtain rfl := map_unit_pair_eq_error.1 hop
          exact .inl rfl
        · exact .inr hio
      · -- the change was written before the flush failed
        rw [hU] at hafter
        subst hafter
        obtain rfl := map_unit_pair_eq_ok.1 hop
        exact .inr ⟨rfl, rfl, .inl ⟨r, hf, he⟩⟩

/-- An acknowledge of a disk store goes as `WritesUnder` says: after the flush, the record it
removed can still fail to decode, and the call then fails with the record gone. -/
theorem writesUnder_disk_acknowledge (io : DiskStore.Faults) (d : DiskStore) (s id : String) :
    (Store.disk d).WritesUnder io (.acknowledge s id) := by
  have hguard : ∀ e, d.guard = .error e → d.acknowledge s id = .error e :=
    fun e h => DiskStore.acknowledge_of_guard h s id
  rcases hU : d.underFaults io (d.acknowledge s id) with ⟨r, d'⟩
  have hunder : (Store.disk d).callUnder io (.acknowledge s id) =
      (.envelope (r.bind io.decodeRemoved), .disk d') := by
    simp [callUnder, DiskStore.acknowledgeUnder, hU]
  have hcall : (Store.disk d).call (.acknowledge s id) = match d.acknowledge s id with
      | .ok (m, d'') => (.envelope (.ok m), .disk d'')
      | .error e => (.envelope (.error e), .disk d) := by
    simp only [call, acknowledge]
    rcases d.acknowledge s id with e | ⟨m, d''⟩ <;> rfl
  constructor
  · intro hnone
    rw [hunder] at hnone ⊢
    rw [hcall]
    cases r with
    | error e => simp [StoreReply.failure, Except.bind] at hnone
    | ok m =>
      have hop := (DiskStore.underFaults_ok (show (d.underFaults io _).1 = .ok m by rw [hU])).1
      rw [hU] at hop
      cases hd : io.decode with
      | some rep =>
        simp [StoreReply.failure, Except.bind, DiskStore.Faults.decodeRemoved, hd] at hnone
      | none =>
        rw [hop]
        simp [Except.bind, DiskStore.Faults.decodeRemoved, hd]
  · intro e he
    rw [hunder] at he ⊢
    rw [hcall]
    cases r with
    | error e' =>
      simp only [Except.bind, StoreReply.failure, Option.some.injEq] at he
      subst he
      rcases DiskStore.underFaults_error hguard (show (d.underFaults io _).1 = .error e' by rw [hU])
        with ⟨hsame, hwhy⟩ | ⟨m, d'', rep, hop, hf, he, hafter⟩
      · -- nothing was removed: a refusal, or a failed lookup or removal
        rw [hU] at hsame
        subst hsame
        refine .inl ⟨rfl, ?_⟩
        rcases hwhy with hop | hio
        · rw [hop]
          exact .inl rfl
        · exact .inr hio
      · -- the record was removed before the flush failed
        rw [hU] at hafter
        subst hafter
        rw [hop]
        exact .inr ⟨rfl, rfl, .inl ⟨rep, hf, he⟩⟩
    | ok m =>
      -- the record was removed and flushed, and then did not decode
      obtain ⟨hop, hf⟩ := DiskStore.underFaults_ok (show (d.underFaults io _).1 = .ok m by rw [hU])
      rw [hU] at hop
      cases hd : io.decode with
      | none => simp [Except.bind, DiskStore.Faults.decodeRemoved, hd, StoreReply.failure] at he
      | some rep =>
        simp only [Except.bind, DiskStore.Faults.decodeRemoved, hd, StoreReply.failure,
          Option.some.injEq] at he
        rw [hop]
        exact .inr ⟨rfl, rfl, .inr ⟨hf, rep, rfl, he.symm⟩⟩

/-- A write that fails when all goes through leaves the store as it was. -/
theorem call_failure_same {st : Store} {c : StoreCall} (hc : c.isWrite = true) {e : StoreError}
    (h : (st.call c).1.failure = some e) : (st.call c).2 = st := by
  cases c with
  | create s conf => cases hr : st.create s conf <;> simp_all [call, write, StoreReply.failure]
  | delete s => cases hr : st.delete s <;> simp_all [call, write, StoreReply.failure]
  | save m => cases hr : st.save m <;> simp_all [call, write, StoreReply.failure]
  | acknowledge s id =>
    rcases hr : st.acknowledge s id with e' | ⟨m, st'⟩ <;> simp_all [call, StoreReply.failure]
  | _ => simp [StoreCall.isWrite] at hc

/-- Every write call on every store goes as `WritesUnder` says, whatever the outcomes of the
disk store's I/O. -/
theorem writesUnder (io : DiskStore.Faults) (st : Store) {c : StoreCall} (hc : c.isWrite = true) :
    st.WritesUnder io c := by
  cases st with
  | memory m =>
    -- a memory store does no I/O
    have h : (Store.memory m).callUnder io c = (Store.memory m).call c := by cases c <;> rfl
    exact ⟨fun _ => h, fun e he => .inl ⟨by rw [h]; exact call_failure_same hc (h ▸ he), .inl (h ▸ he)⟩⟩
  | disk d =>
    cases c with
    | create s conf => exact writesUnder_disk_done (fun e h => DiskStore.create_of_guard h s conf) rfl rfl
    | delete s => exact writesUnder_disk_done (fun e h => DiskStore.delete_of_guard h s) rfl rfl
    | save m => exact writesUnder_disk_done (fun e h => DiskStore.save_of_guard h m) rfl rfl
    | acknowledge s id => exact writesUnder_disk_acknowledge io d s id
    | _ => simp [StoreCall.isWrite] at hc

end Store

/-- Every store reached by calls from an empty store of either kind keeps the laws of
`Store.Atomic` when every access to the disk goes through: a refused write fails at a check of
the store as it was and changes nothing, an acknowledge that answers removes exactly the envelope
kept under its strand and id, and refusals for open cursors change nothing. Whatever the outcomes
`io` of the disk store's I/O, every write goes as `Store.WritesUnder` says: a write that answers
answers as when all goes through, and a write that fails either changes nothing or failed at the
flush or at decoding after its change was made. When the calls register no id with `:` in it,
the envelope an acknowledge hands back is the one of that strand and id. -/
theorem store_writes_fail_whole_or_after_writing (calls : List StoreCall) (io : DiskStore.Faults) :
    let mem := (Store.memory {}).afterCalls calls
    let disk := (Store.disk {}).afterCalls calls
    mem.Atomic ∧ disk.Atomic ∧
      (∀ st ∈ [mem, disk], ∀ c, (c.isWrite = true → st.WritesUnder io c) ∧
        st.callUnder {} c = st.call c) ∧
      ((∀ c ∈ calls, c.plainIds = true) → ∀ st ∈ [mem, disk], ∀ s id m,
        (st.call (.acknowledge s id)).1 = .envelope (.ok m) → m.strand = s ∧ m.id = id) := by
  intro mem disk
  have hmem : (Store.memory {}).Blank := rfl
  have hdisk : (Store.disk {}).Blank := ⟨rfl, rfl⟩
  -- key order survives every call; well-formedness survives calls that register plain ids
  have hsorted : ∀ st : Store, st.Blank → (st.afterCalls calls).Sorted := fun st hb =>
    Store.afterCalls_invariant Store.Sorted (fun _ => True)
      (fun st' c _ h => Store.sorted_call h c) hb.sorted calls (fun _ _ => trivial)
  refine ⟨(hsorted _ hmem).atomic, (hsorted _ hdisk).atomic,
    fun st _ c => ⟨fun hc => Store.writesUnder io st hc, Store.callUnder_clean st c⟩,
    fun hplain st hst s id m h => ?_⟩
  have hwf : ∀ st₀ : Store, st₀.Blank → (st₀.afterCalls calls).WF := fun st₀ hb =>
    Store.afterCalls_invariant Store.WF (fun c => c.plainIds = true)
      (fun st' c hc h => Store.wf_call h c hc) hb.wf calls hplain
  replace hwf : st.WF := by
    simp only [List.mem_cons, List.not_mem_nil, or_false] at hst
    rcases hst with rfl | rfl
    · exact hwf _ hmem
    · exact hwf _ hdisk
  cases ha : st.acknowledge s id with
  | error e => simp [Store.call, ha] at h
  | ok p =>
    obtain ⟨m', st'⟩ := p
    simp only [Store.call, ha, StoreReply.envelope.injEq, Except.ok.injEq] at h
    subst h
    exact Store.kept_sits hwf (Store.acknowledge_ok ha).1 (Store.acknowledge_kept ha)

/-- Two ways a disk store's acknowledge breaks the promise to remove exactly the envelope of its
strand and id or fail having removed nothing. With strands `a` and `a:b`, the envelope `b:c` of
`a` is kept under the key `a:b:c`, which is also the key of the envelope `c` of `a:b`:
acknowledging `c` on `a:b` removes and hands back the envelope of `a`, where a memory store
refuses, having no envelope `c` on `a:b`. And an acknowledge of `b:c` on `a` whose flush fails
reports the failure with the envelope already gone. -/
theorem acknowledge_on_disk_removes_another_or_fails_after_removing :
    let x := Envelope.make "b:c" "a" "x" 0
    let calls := [StoreCall.create "a" {}, .create "a:b" {}, .save x]
    let disk := (Store.disk {}).afterCalls calls
    let mem := (Store.memory {}).afterCalls calls
    let noSpace := "IO error: No space left on device (os error 28)"
    (disk.call (.acknowledge "a:b" "c")).1 = .envelope (.ok x) ∧
      (disk.call (.acknowledge "a:b" "c")).2.pending = [] ∧ x.strand ≠ "a:b" ∧
      (mem.call (.acknowledge "a:b" "c")).1 = .envelope (.error (.messageNotFound "a:b" "c")) ∧
      (mem.call (.acknowledge "a:b" "c")).2.pending = [x] ∧ disk.pending = [x] ∧
      (disk.callUnder { flush := some noSpace } (.acknowledge "a" "b:c")).1 =
        .envelope (.error (.backend noSpace)) ∧
      (disk.callUnder { flush := some noSpace } (.acknowledge "a" "b:c")).2.pending = [] := by
  decide

end Courier
