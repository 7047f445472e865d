import Courier.WebSocket.Endpoint
import Courier.Proofs.Keyed

/-!
# Generations keep links and readers paired

An endpoint's bookkeeping runs in sections, each under one lock, and the sections of concurrent
calls interleave: an attach, the two sections of a disconnect (`Endpoint.unlink`, then
`Endpoint.stopReader`), the drop of a link after a failed write, and the exit of a reader task.
`Section.run` runs each as one step on the endpoint together with the generations whose reader
tasks have been aborted (`Tasks`).

The pairing law (`Tasks.Paired`): every link belongs to its strand's current reader, and that
reader's task has not been aborted. Every section keeps it, given that no reader or aborted task
is newer than the last attach and that readers of two strands are of two generations
(`Tasks.Sound`), except a second disconnect section that finds its strand linked again
(`Tasks.Paired.run`). That happens when an attach of the strand runs between the two sections
of its disconnect: the second section stops and aborts the new reader and leaves the new link
(`reattach_inside_disconnect_loses_reader`). Along every schedule without such an attach the
law holds throughout (`links_stay_paired`). What a generation does on its own, its reader's exit
and the drop after a failed write on its link, leaves every entry of another generation alone
(`Tasks.KeepsBut`).
-/

namespace Courier

namespace WebSocket

namespace Endpoint

variable (e : Endpoint) (s t : String)

/-! ## What each section does to the tables -/

@[simp] theorem attach_generation (k : Nat) : (e.attach s k).1.generation = e.generation + 1 := rfl

@[simp] theorem attach_links (k : Nat) :
    (e.attach s k).1.links.get? t =
      if s = t then some ⟨e.generation + 1, k⟩ else e.links.get? t := by
  simp [attach]

@[simp] theorem attach_readers (k : Nat) :
    (e.attach s k).1.readers.get? t =
      if s = t then some ⟨e.generation + 1, k⟩ else e.readers.get? t := by
  simp [attach]

@[simp] theorem unlink_generation : (e.unlink s).1.generation = e.generation := rfl

@[simp] theorem unlink_links :
    (e.unlink s).1.links.get? t = if s = t then none else e.links.get? t := by
  simp [unlink]

@[simp] theorem unlink_readers : (e.unlink s).1.readers = e.readers := rfl

@[simp] theorem stopReader_generation : (e.stopReader s).1.generation = e.generation := rfl

@[simp] theorem stopReader_links : (e.stopReader s).1.links = e.links := rfl

@[simp] theorem stopReader_readers :
    (e.stopReader s).1.readers.get? t = if s = t then none else e.readers.get? t := by
  simp [stopReader]

theorem dropLink_eq (g : Nat) :
    e.dropLink s g =
      if (e.links.get? s).map (·.generation) = some g then { e with links := e.links.erase s }
      else e := by
  unfold dropLink
  cases h : e.links.get? s with
  | none => simp
  | some a => by_cases hg : a.generation = g <;> simp [hg]

@[simp] theorem dropLink_generation (g : Nat) : (e.dropLink s g).generation = e.generation := by
  rw [dropLink_eq]; split <;> rfl

@[simp] theorem dropLink_readers (g : Nat) : (e.dropLink s g).readers = e.readers := by
  rw [dropLink_eq]; split <;> rfl

@[simp] theorem dropLink_inboxes (g : Nat) : (e.dropLink s g).inboxes = e.inboxes := by
  rw [dropLink_eq]; split <;> rfl

theorem dropLink_links (g : Nat) :
    (e.dropLink s g).links.get? t =
      if s = t ∧ (e.links.get? s).map (·.generation) = some g then none else e.links.get? t := by
  rw [dropLink_eq]
  by_cases hg : (e.links.get? s).map (·.generation) = some g
  · rw [if_pos hg]
    by_cases hst : s = t
    · subst hst
      simp only [Keyed.get?_erase, if_true, true_and, hg]
    · simp [hst]
  · rw [if_neg hg]
    simp [hg]

@[simp] theorem readerDone_generation (g : Nat) :
    (e.readerDone s g).generation = e.generation := by
  simp [readerDone]

@[simp] theorem readerDone_links (g : Nat) : (e.readerDone s g).links = (e.dropLink s g).links :=
  rfl

theorem readerDone_readers (g : Nat) :
    (e.readerDone s g).readers.get? t =
      if s = t ∧ (e.readers.get? s).map (·.generation) = some g then none
      else e.readers.get? t := by
  unfold readerDone
  simp only [dropLink_readers]
  cases h : e.readers.get? s with
  | none => simp
  | some a =>
    by_cases hg : a.generation = g
    · by_cases hst : s = t
      · subst hst; simp [hg]
      · simp [hg, hst]
    · simp [hg]

/-- A reader's exit closes the inbox of its own generation and no other. -/
theorem readerDone_inboxes (g : Nat) {i : Inbox} (hi : e.inboxes.get? t = some i)
    (hg : i.generation ≠ g) : (e.readerDone s g).inboxes.get? t = some i := by
  unfold readerDone
  simp only [dropLink_inboxes]
  cases h : e.inboxes.get? s with
  | none => exact hi
  | some j =>
    by_cases hj : j.generation = g
    · have hst : s ≠ t := fun hst => hg (by subst hst; rw [h] at hi; cases hi; exact hj)
      simp [hj, hst, hi]
    · simp [hj, hi]

end Endpoint

/-! ## Sections as steps -/

/-- One section of an endpoint's bookkeeping: what runs under one lock, as one step. -/
inductive Section where
  /-- An attach: a new generation's link, reader and inbox replace the strand's, and the reader
  they replace is aborted. -/
  | attach (strand : String) (socket : Nat)
  /-- The first section of a disconnect: the strand's inbox and link go. -/
  | unlink (strand : String)
  /-- The second section of a disconnect: the strand's reader goes and is aborted. -/
  | stopReader (strand : String)
  /-- A failed write's drop of the link it wrote on. -/
  | dropLink (strand : String) (generation : Nat)
  /-- The exit of a reader task. -/
  | readerExit (strand : String) (generation : Nat)
  deriving DecidableEq, Repr

/-- An endpoint with the generations whose reader tasks have been aborted. -/
structure Tasks where
  /-- The bookkeeping. -/
  endpoint : Endpoint
  /-- Generations whose reader task was aborted. -/
  aborted : List Nat := []

namespace Tasks

/-- A fresh endpoint. -/
def start (capacity : Nat) : Tasks := { endpoint := Endpoint.make capacity }

/-- The generation of a strand's reader, if it has one. -/
def readerGeneration (t : Tasks) (s : String) : Option Nat :=
  (t.endpoint.readers.get? s).map (·.generation)

end Tasks

namespace Section

/-- Runs one section. -/
def run : Section → Tasks → Tasks
  | .attach s k, t =>
    { endpoint := (t.endpoint.attach s k).1
      aborted := (t.readerGeneration s).toList ++ t.aborted }
  | .unlink s, t => { t with endpoint := (t.endpoint.unlink s).1 }
  | .stopReader s, t =>
    { endpoint := (t.endpoint.stopReader s).1
      aborted := (t.readerGeneration s).toList ++ t.aborted }
  | .dropLink s g, t => { t with endpoint := t.endpoint.dropLink s g }
  | .readerExit s g, t => { t with endpoint := t.endpoint.readerDone s g }

/-- Whether a section finds the strand linked again when it is the second section of a
disconnect: an attach of the strand ran after the first. -/
def Interrupts : Section → Tasks → Prop
  | .stopReader s, t => t.endpoint.links.get? s ≠ none
  | _, _ => False

/-- Whether every second section of a disconnect in a schedule comes after a first section of
a disconnect of its strand, with no attach of that strand in between. `opened` holds the strands
whose disconnect has begun since their last attach. -/
def undisturbed : List String → List Section → Bool
  | _, [] => true
  | opened, .attach s _ :: rest => undisturbed (opened.filter (· ≠ s)) rest
  | opened, .unlink s :: rest => undisturbed (s :: opened) rest
  | opened, .stopReader s :: rest => opened.contains s && undisturbed opened rest
  | opened, .dropLink _ _ :: rest => undisturbed opened rest
  | opened, .readerExit _ _ :: rest => undisturbed opened rest

end Section

/-- Runs sections one after another. -/
def Tasks.runAll (t : Tasks) (xs : List Section) : Tasks := xs.foldl (fun t σ => σ.run t) t

/-- Every link belongs to its strand's current reader, whose task has not been aborted. -/
def Tasks.Paired (t : Tasks) : Prop :=
  ∀ s a, t.endpoint.links.get? s = some a →
    t.endpoint.readers.get? s = some a ∧ a.generation ∉ t.aborted

/-- The bookkeeping the pairing rests on: no reader or aborted task is newer than the last
attach, and readers of two strands are of two generations. -/
structure Tasks.Sound (t : Tasks) : Prop where
  readers_le : ∀ s r, t.endpoint.readers.get? s = some r →
    r.generation ≤ t.endpoint.generation
  aborted_le : ∀ g ∈ t.aborted, g ≤ t.endpoint.generation
  readers_inj : ∀ s s' r r', t.endpoint.readers.get? s = some r →
    t.endpoint.readers.get? s' = some r' → r.generation = r'.generation → s = s'

theorem Tasks.sound_start (capacity : Nat) : (Tasks.start capacity).Sound :=
  ⟨fun _ _ h => by simp [start, Endpoint.make] at h, fun _ h => by simp [start] at h,
    fun _ _ _ _ h => by simp [start, Endpoint.make] at h⟩

theorem Tasks.paired_start (capacity : Nat) : (Tasks.start capacity).Paired :=
  fun _ _ h => by simp [start, Endpoint.make] at h

/-- A link that survives a drop was there before, and is not of the dropped generation. -/
theorem Endpoint.of_dropLink_links {e : Endpoint} {s u : String} {g : Nat} {a : Attachment}
    (h : (e.dropLink s g).links.get? u = some a) :
    e.links.get? u = some a ∧ (s = u → a.generation ≠ g) := by
  rw [Endpoint.dropLink_links] at h
  by_cases hc : s = u ∧ (e.links.get? s).map (·.generation) = some g
  · rw [if_pos hc] at h
    cases h
  · rw [if_neg hc] at h
    refine ⟨h, fun hsu hg => hc ⟨hsu, ?_⟩⟩
    rw [hsu, h, Option.map_some, hg]

theorem Endpoint.dropLink_links_of_none {e : Endpoint} {s u : String} {g : Nat}
    (h : e.links.get? u = none) : (e.dropLink s g).links.get? u = none := by
  rw [Endpoint.dropLink_links, h, ite_self]

namespace Tasks

variable {t : Tasks}

/-- A step that keeps the generation count, only removes readers and aborts only tasks of
generations already made keeps the bookkeeping sound. -/
theorem Sound.of_shrink {t' : Tasks} (h : t.Sound)
    (hgen : t'.endpoint.generation = t.endpoint.generation)
    (hr : ∀ u r, t'.endpoint.readers.get? u = some r → t.endpoint.readers.get? u = some r)
    (ha : ∀ g ∈ t'.aborted, g ∈ t.aborted ∨ ∃ u r, t.endpoint.readers.get? u = some r ∧
      r.generation = g) : t'.Sound where
  readers_le u r hu := hgen ▸ h.readers_le u r (hr u r hu)
  aborted_le g hg := by
    rw [hgen]
    rcases ha g hg with hg | ⟨u, r, hu, rfl⟩
    · exact h.aborted_le g hg
    · exact h.readers_le u r hu
  readers_inj u u' r r' hu hu' := h.readers_inj u u' r r' (hr u r hu) (hr u' r' hu')

/-- The aborted generation of a stopped reader is that of a reader the strand had. -/
theorem mem_readerGeneration {s : String} {g : Nat} (h : g ∈ (t.readerGeneration s).toList) :
    ∃ u r, t.endpoint.readers.get? u = some r ∧ r.generation = g := by
  cases hr : t.endpoint.readers.get? s with
  | none => simp [readerGeneration, hr] at h
  | some r =>
    simp only [readerGeneration, hr, Option.map_some, Option.toList_some,
      List.mem_singleton] at h
    exact ⟨s, r, hr, h.symm⟩

/-- An attach keeps the bookkeeping sound: its generation is newer than every reader and
every aborted task. -/
theorem Sound.attach (h : t.Sound) (s : String) (k : Nat) : ((Section.attach s k).run t).Sound where
  readers_le u r hu := by
    simp only [Section.run, Endpoint.attach_readers, Endpoint.attach_generation] at hu ⊢
    split at hu
    · cases hu; exact Nat.le_refl _
    · exact Nat.le_succ_of_le (h.readers_le u r hu)
  aborted_le g hg := by
    simp only [Section.run, List.mem_append, Endpoint.attach_generation] at hg ⊢
    rcases hg with hg | hg
    · obtain ⟨u, r, hu, rfl⟩ := mem_readerGeneration hg
      exact Nat.le_succ_of_le (h.readers_le u r hu)
    · exact Nat.le_succ_of_le (h.aborted_le g hg)
  readers_inj u u' r r' hu hu' hg := by
    simp only [Section.run, Endpoint.attach_readers] at hu hu'
    -- the new reader's generation is newer than any reader that stays
    by_cases hsu : s = u <;> by_cases hsu' : s = u'
    · exact hsu.symm.trans hsu'
    · rw [if_pos hsu, Option.some.injEq] at hu
      rw [if_neg hsu'] at hu'
      have hle := h.readers_le u' r' hu'
      subst hu
      simp only at hg
      omega
    · rw [if_neg hsu] at hu
      rw [if_pos hsu', Option.some.injEq] at hu'
      have hle := h.readers_le u r hu
      subst hu'
      simp only at hg
      omega
    · rw [if_neg hsu] at hu
      rw [if_neg hsu'] at hu'
      exact h.readers_inj u u' r r' hu hu' hg

/-- Every section keeps the bookkeeping sound. -/
theorem Sound.run (h : t.Sound) : ∀ σ : Section, (σ.run t).Sound
  | .attach s k => h.attach s k
  | .unlink s => h.of_shrink rfl (fun _ _ hu => hu) (fun _ hg => .inl hg)
  | .stopReader s => h.of_shrink rfl
      (fun u r hu => by
        simp only [Section.run, Endpoint.stopReader_readers] at hu
        split at hu
        · cases hu
        · exact hu)
      (fun g hg => by
        simp only [Section.run, List.mem_append] at hg
        exact hg.elim (fun hg => .inr (mem_readerGeneration hg)) .inl)
  | .dropLink s g => h.of_shrink (by simp [Section.run])
      (fun _ _ hu => by simpa [Section.run] using hu) (fun _ hg => .inl hg)
  | .readerExit s g => h.of_shrink (by simp [Section.run])
      (fun u r hu => by
        simp only [Section.run, Endpoint.readerDone_readers] at hu
        split at hu
        · cases hu
        · exact hu)
      (fun _ hg => .inl hg)

/-- A generation a stopped or replaced reader of `s` had is not that of another strand's
reader. -/
theorem Sound.not_mem_readerGeneration (h : t.Sound) {s u : String} {a : Attachment}
    (hu : t.endpoint.readers.get? u = some a) (hsu : s ≠ u) :
    a.generation ∉ (t.readerGeneration s).toList := by
  intro hg
  cases hr : t.endpoint.readers.get? s with
  | none => simp [readerGeneration, hr] at hg
  | some r' =>
    simp only [readerGeneration, hr, Option.map_some, Option.toList_some,
      List.mem_singleton] at hg
    exact hsu (h.readers_inj s u r' a hr hu hg.symm)

/-- An attach pairs its new link with its new reader, and keeps every other pair. -/
theorem Paired.attach (hs : t.Sound) (hp : t.Paired) (s : String) (k : Nat) :
    ((Section.attach s k).run t).Paired := by
  intro u a hu
  simp only [Section.run, Endpoint.attach_links, Endpoint.attach_readers, List.mem_append] at hu ⊢
  by_cases hsu : s = u
  · rw [if_pos hsu, Option.some.injEq] at hu
    subst hu
    refine ⟨by rw [if_pos hsu], ?_⟩
    -- the new generation is newer than every reader and every aborted task
    rintro (hg | hg)
    · obtain ⟨v, r, hv, hrg⟩ := mem_readerGeneration hg
      have := hs.readers_le v r hv
      simp only at hrg
      omega
    · have := hs.aborted_le _ hg
      simp only at this
      omega
  · rw [if_neg hsu] at hu ⊢
    obtain ⟨hr, hna⟩ := hp u a hu
    exact ⟨hr, fun hg => hg.elim (hs.not_mem_readerGeneration hr hsu) hna⟩

/-- The second section of a disconnect keeps the pairing when the strand is unlinked: the
reader it stops has no link, and no other strand's reader shares its generation. -/
theorem Paired.stopReader (hs : t.Sound) (hp : t.Paired) {s : String}
    (hq : t.endpoint.links.get? s = none) : ((Section.stopReader s).run t).Paired := by
  intro u a hu
  simp only [Section.run, Endpoint.stopReader_links, Endpoint.stopReader_readers,
    List.mem_append] at hu ⊢
  have hsu : s ≠ u := fun hsu => by rw [hsu, hu] at hq; cases hq
  obtain ⟨hr, hna⟩ := hp u a hu
  rw [if_neg hsu]
  exact ⟨hr, fun hg => hg.elim (hs.not_mem_readerGeneration hr hsu) hna⟩

/-- Every section keeps the pairing, except a second disconnect section that finds its strand
linked again. -/
theorem Paired.run (hs : t.Sound) (hp : t.Paired) :
    ∀ σ : Section, ¬ σ.Interrupts t → (σ.run t).Paired
  | .attach s k, _ => hp.attach hs s k
  | .unlink s, _ => fun u a hu => by
      simp only [Section.run, Endpoint.unlink_links, Endpoint.unlink_readers] at hu ⊢
      split at hu
      · cases hu
      · exact hp u a hu
  | .stopReader s, hq => hp.stopReader hs (by simpa [Section.Interrupts] using hq)
  | .dropLink s g, _ => fun u a hu => by
      simp only [Section.run, Endpoint.dropLink_readers] at hu ⊢
      exact hp u a (Endpoint.of_dropLink_links hu).1
  | .readerExit s g, _ => fun u a hu => by
      simp only [Section.run, Endpoint.readerDone_links] at hu ⊢
      obtain ⟨hl, hng⟩ := Endpoint.of_dropLink_links hu
      obtain ⟨hr, hna⟩ := hp u a hl
      -- the exiting reader is of generation `g`, and the link's reader is not
      refine ⟨?_, hna⟩
      rw [Endpoint.readerDone_readers, if_neg]
      · exact hr
      · rintro ⟨hsu, hg⟩
        subst hsu
        rw [hr, Option.map_some, Option.some.injEq] at hg
        exact hng rfl hg

/-- Only an attach links a strand. -/
theorem links_run_of_none {s : String} (h : t.endpoint.links.get? s = none) :
    ∀ σ : Section, (∀ k, σ ≠ .attach s k) → (σ.run t).endpoint.links.get? s = none
  | .attach s' k, hσ => by
    have hs' : s' ≠ s := fun e => hσ k (by rw [e])
    simp [Section.run, hs', h]
  | .unlink s', _ => by
    simp only [Section.run, Endpoint.unlink_links, h, ite_self]
  | .stopReader s', _ => by simpa [Section.run] using h
  | .dropLink s' g, _ => Endpoint.dropLink_links_of_none h
  | .readerExit s' g, _ => Endpoint.dropLink_links_of_none h

/-- What a schedule keeps from section to section: sound bookkeeping, paired links, and no
link for a strand whose disconnect has begun since its last attach. -/
structure Calm (opened : List String) (t : Tasks) : Prop where
  sound : t.Sound
  paired : t.Paired
  unlinked : ∀ s ∈ opened, t.endpoint.links.get? s = none

/-- A section that does not interrupt a disconnect keeps the bookkeeping sound and the links
paired; the schedule stays calm for whichever strands it leaves unlinked. -/
theorem Calm.step {opened opened' : List String} (h : Calm opened t) {σ : Section}
    (hq : ¬ σ.Interrupts t) (hun : ∀ s ∈ opened', (σ.run t).endpoint.links.get? s = none) :
    Calm opened' (σ.run t) :=
  ⟨h.sound.run σ, h.paired.run h.sound σ hq, hun⟩

theorem Calm.unlinked_run {opened : List String} (h : Calm opened t) {σ : Section}
    (hσ : ∀ s k, σ ≠ .attach s k) : ∀ s ∈ opened, (σ.run t).endpoint.links.get? s = none :=
  fun s hs => links_run_of_none (h.unlinked s hs) σ (hσ s)

/-- One section of an undisturbed schedule keeps the schedule calm. -/
theorem Calm.run {opened : List String} (h : Calm opened t) :
    ∀ σ : Section, ∀ rest, Section.undisturbed opened (σ :: rest) = true →
      ∃ opened', Calm opened' (σ.run t) ∧ Section.undisturbed opened' rest = true
  | .attach s k, rest, hu => by
    refine ⟨opened.filter (· ≠ s), h.step id fun u hu' => ?_, hu⟩
    -- the strands still opened are not the one attached
    simp only [List.mem_filter, decide_eq_true_eq] at hu'
    exact links_run_of_none (h.unlinked u hu'.1) _ fun k' e => by cases e; exact hu'.2 rfl
  | .unlink s, rest, hu => by
    refine ⟨s :: opened, h.step id fun u hu' => ?_, hu⟩
    rcases List.mem_cons.1 hu' with rfl | hu'
    · simp [Section.run]
    · exact h.unlinked_run (fun _ _ e => by cases e) u hu'
  | .stopReader s, rest, hu => by
    simp only [Section.undisturbed, Bool.and_eq_true, List.contains_iff_mem] at hu
    -- the strand's disconnect began, and no attach has linked it since
    have hq : ¬ (Section.stopReader s).Interrupts t := by
      simpa [Section.Interrupts] using h.unlinked s hu.1
    exact ⟨opened, h.step hq (h.unlinked_run fun _ _ e => by cases e), hu.2⟩
  | .dropLink s g, rest, hu => ⟨opened, h.step id (h.unlinked_run fun _ _ e => by cases e), hu⟩
  | .readerExit s g, rest, hu =>
    ⟨opened, h.step id (h.unlinked_run fun _ _ e => by cases e), hu⟩

/-- A whole undisturbed schedule keeps the schedule calm. -/
theorem Calm.runAll {opened : List String} (h : Calm opened t) (xs : List Section)
    (hu : Section.undisturbed opened xs = true) : ∃ opened', Calm opened' (t.runAll xs) := by
  induction xs generalizing t opened with
  | nil => exact ⟨opened, h⟩
  | cons σ rest ih =>
    obtain ⟨opened', h', hu'⟩ := h.run σ rest hu
    exact ih h' hu'

theorem calm_start (capacity : Nat) : Calm [] (start capacity) :=
  ⟨sound_start capacity, paired_start capacity, fun _ h => by simp at h⟩

/-- `t'` keeps every link, reader and inbox of `t` that is not of generation `g`, and aborts no
task that `t` had not. -/
structure KeepsBut (g : Nat) (t t' : Tasks) : Prop where
  aborted : t'.aborted = t.aborted
  links : ∀ u a, t.endpoint.links.get? u = some a → a.generation ≠ g →
    t'.endpoint.links.get? u = some a
  readers : ∀ u r, t.endpoint.readers.get? u = some r → r.generation ≠ g →
    t'.endpoint.readers.get? u = some r
  inboxes : ∀ u i, t.endpoint.inboxes.get? u = some i → i.generation ≠ g →
    t'.endpoint.inboxes.get? u = some i

theorem dropLink_links_of_ne {e : Endpoint} {s u : String} {g : Nat} {a : Attachment}
    (hu : e.links.get? u = some a) (hg : a.generation ≠ g) :
    (e.dropLink s g).links.get? u = some a := by
  rw [Endpoint.dropLink_links, if_neg]
  · exact hu
  · rintro ⟨rfl, hsg⟩
    rw [hu, Option.map_some, Option.some.injEq] at hsg
    exact hg hsg

/-- A failed write of generation `g` drops at most the link of generation `g`. -/
theorem keepsBut_dropLink (t : Tasks) (s : String) (g : Nat) :
    KeepsBut g t ((Section.dropLink s g).run t) where
  aborted := rfl
  links _ _ hu hg := dropLink_links_of_ne hu hg
  readers _ _ hu _ := by simpa [Section.run] using hu
  inboxes _ _ hu _ := by simpa [Section.run] using hu

/-- The exit of the reader of generation `g` removes or closes only what is of generation `g`. -/
theorem keepsBut_readerExit (t : Tasks) (s : String) (g : Nat) :
    KeepsBut g t ((Section.readerExit s g).run t) where
  aborted := rfl
  links _ _ hu hg := dropLink_links_of_ne hu hg
  readers u r hu hg := by
    simp only [Section.run]
    rw [Endpoint.readerDone_readers, if_neg]
    · exact hu
    · rintro ⟨rfl, hsg⟩
      rw [hu, Option.map_some, Option.some.injEq] at hsg
      exact hg hsg
  inboxes u i hu hg := Endpoint.readerDone_inboxes t.endpoint s u g hu hg

end Tasks

/-! ## Generations keep links and readers paired -/

/-- Along every schedule of sections in which no attach of a strand runs between the two
sections of a disconnect of it, every link belongs to its strand's current reader, whose task
has not been aborted. And what a generation does on its own (its reader's exit, the drop after
a failed write on its link) leaves every link, reader and inbox of another generation as it
was, aborting nothing. -/
theorem links_stay_paired (capacity : Nat) (xs : List Section)
    (h : Section.undisturbed [] xs = true) :
    ((Tasks.start capacity).runAll xs).Paired ∧
      ∀ (t : Tasks) (s : String) (g : Nat),
        Tasks.KeepsBut g t ((Section.readerExit s g).run t) ∧
          Tasks.KeepsBut g t ((Section.dropLink s g).run t) := by
  obtain ⟨opened, hcalm⟩ := (Tasks.calm_start capacity).runAll xs h
  exact ⟨hcalm.paired, fun t s g =>
    ⟨Tasks.keepsBut_readerExit t s g, Tasks.keepsBut_dropLink t s g⟩⟩

/-- A connection of `a` replaced, disconnected and attached again, with a reader exit of the
first generation after the disconnect. -/
theorem links_stay_paired_through_a_reconnect :
    Section.undisturbed []
        [.attach "a" 0, .attach "a" 1, .unlink "a", .stopReader "a", .readerExit "a" 2,
          .attach "a" 2, .dropLink "a" 1] = true ∧
      ((Tasks.start 1).runAll
        [.attach "a" 0, .attach "a" 1, .unlink "a", .stopReader "a", .readerExit "a" 2,
          .attach "a" 2, .dropLink "a" 1]).Paired ∧
      ∀ (t : Tasks) (s : String) (g : Nat),
        Tasks.KeepsBut g t ((Section.readerExit s g).run t) ∧
          Tasks.KeepsBut g t ((Section.dropLink s g).run t) :=
  ⟨by decide, links_stay_paired 1 _ (by decide)⟩

/-- An attach of `a` between the two sections of a disconnect of `a`: the second section
stops and aborts the new reader, while the new link stays, so `a` is connected and never read. -/
theorem reattach_inside_disconnect_loses_reader :
    let xs := [Section.attach "a" 0, .unlink "a", .attach "a" 1, .stopReader "a"]
    let t := (Tasks.start 1).runAll xs
    t.endpoint.links.get? "a" = some ⟨2, 1⟩ ∧ t.endpoint.readers.get? "a" = none ∧
      2 ∈ t.aborted ∧ ¬ t.Paired := by
  intro xs t
  have hlink : t.endpoint.links.get? "a" = some ⟨2, 1⟩ := by decide
  have hreader : t.endpoint.readers.get? "a" = none := by decide
  refine ⟨hlink, hreader, by decide, fun hp => ?_⟩
  have := (hp "a" ⟨2, 1⟩ hlink).1
  rw [hreader] at this
  cases this

end WebSocket

end Courier
