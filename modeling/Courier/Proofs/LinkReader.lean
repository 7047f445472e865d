import Mathlib
import Courier.WebSocket.Loopback
import Courier.Proofs.LinkPairing
import Courier.Proofs.WireForm

/-!
# What a WebSocket reader passes on

A reader takes the frames at its socket end in order. It passes on the envelopes of its strand
and drops the rest; a close frame ends its stream, and so does a read error: a frame above the
size limit of its end, a ping above the control limit, or a ping once the peer has closed, since
the answer to the ping cannot be written (`Frame.endsStream`). The envelopes it passes on from a
list of frames are those that the frames before the first end carry (`passedOn`); `streamEnds`
says whether the stream ends within them.

`Loopback.readFrames_spec` ties a reader's turn to this view: the inbox gets the envelopes
`passedOn` gives, in order, as far as it has room; a reader that stops got them all, and its
stream has ended. A turn touches no entry of another strand (`Endpoint.SameElsewhere`). The last
part states what the loopback's small operations do to its endpoints and socket ends.
-/

namespace Courier

namespace WebSocket

/-- Whether a frame ends the stream of a reader whose end reads frames of at most `limit` bytes:
a frame above the limit does, a close frame does, and so does a ping above the control limit or
once the peer has closed, since its answer cannot be written. -/
def Frame.endsStream (peerOpen : Bool) (limit : Nat) (f : Frame) : Bool :=
  decide (limit < f.size) || match f with
    | .close => true
    | .ping d => !(peerOpen && decide (d.utf8ByteSize ≤ controlLimit))
    | _ => false

/-- The envelope of strand `s` a frame carries, if it carries one. -/
def Frame.envelopeFor (s : String) : Frame → Option Envelope
  | .text t | .binary t =>
    match Envelope.decode t with
    | .ok m => if m.strand = s then some m else none
    | .error _ => none
  | _ => none

/-- The envelopes a reader of strand `s` passes on from the frames at its end: those the frames
before the first one that ends its stream carry, in order. -/
def passedOn (s : String) (peerOpen : Bool) (limit : Nat) (fs : List Frame) : List Envelope :=
  (fs.takeWhile fun f => !f.endsStream peerOpen limit).filterMap (Frame.envelopeFor s)

/-- Whether a reader's stream ends within the frames at its end, or right after them because
the peer has closed. -/
def streamEnds (peerOpen : Bool) (limit : Nat) (fs : List Frame) : Bool :=
  fs.any (Frame.endsStream peerOpen limit) || !peerOpen

/-- A text frame holding an envelope's wire form carries the envelope for its strand, when its
timestamp is a signed 64-bit value. -/
theorem Frame.envelopeFor_text_encode {m : Envelope} {s : String} (hs : m.strand = s)
    (h1 : Envelope.minTimestamp ≤ m.timestamp) (h2 : m.timestamp ≤ Envelope.maxTimestamp) :
    (Frame.text m.encode).envelopeFor s = some m := by
  simp [Frame.envelopeFor, Envelope.decode_encode m h1 h2, hs]

section Views

variable (s : String) (b : Bool) (n : Nat)

@[simp] theorem passedOn_nil : passedOn s b n [] = [] := rfl

theorem passedOn_cons (f : Frame) (rest : List Frame) :
    passedOn s b n (f :: rest) =
      if f.endsStream b n then [] else (f.envelopeFor s).toList ++ passedOn s b n rest := by
  by_cases hf : f.endsStream b n <;> cases h : f.envelopeFor s <;> simp [passedOn, hf, h]

@[simp] theorem streamEnds_nil : streamEnds b n [] = !b := rfl

theorem streamEnds_cons (f : Frame) (rest : List Frame) :
    streamEnds b n (f :: rest) = (f.endsStream b n || streamEnds b n rest) := by
  simp [streamEnds, Bool.or_assoc]

/-- Frames that come after the end of the stream pass nothing on. -/
theorem passedOn_append (fs gs : List Frame) :
    passedOn s b n (fs ++ gs) =
      passedOn s b n fs ++ if fs.any (Frame.endsStream b n) then [] else passedOn s b n gs := by
  induction fs with
  | nil => simp
  | cons f fs ih =>
    by_cases hf : f.endsStream b n <;> simp [passedOn_cons, hf, ih]

end Views

namespace Endpoint

/-- `e'` differs from `e` at most in strand `t`'s entries, and has no reader that `e` lacks. -/
structure SameElsewhere (e e' : Endpoint) (t : String) : Prop where
  capacity : e'.capacity = e.capacity
  readers : e'.readers.toList.Sublist e.readers.toList
  lookups : ∀ u, u ≠ t → e'.readers.get? u = e.readers.get? u ∧
    e'.inboxes.get? u = e.inboxes.get? u ∧ e'.links.get? u = e.links.get? u

theorem SameElsewhere.refl (e : Endpoint) (t : String) : e.SameElsewhere e t :=
  ⟨rfl, List.Sublist.refl _, fun _ _ => ⟨rfl, rfl, rfl⟩⟩

theorem SameElsewhere.trans {e e' e'' : Endpoint} {t : String} (h : e.SameElsewhere e' t)
    (h' : e'.SameElsewhere e'' t) : e.SameElsewhere e'' t where
  capacity := h'.capacity.trans h.capacity
  readers := h'.readers.trans h.readers
  lookups u hu := by
    obtain ⟨r, i, l⟩ := h.lookups u hu
    obtain ⟨r', i', l'⟩ := h'.lookups u hu
    exact ⟨r'.trans r, i'.trans i, l'.trans l⟩

theorem readerDone_readers_sublist (e : Endpoint) (t : String) (g : Nat) :
    (e.readerDone t g).readers.toList.Sublist e.readers.toList := by
  unfold readerDone
  simp only [dropLink_readers]
  split
  · split
    · rw [Keyed.toList_erase]
      exact List.filter_sublist
    · exact List.Sublist.refl _
  · exact List.Sublist.refl _

theorem readerDone_inboxes_ne (e : Endpoint) {t u : String} (g : Nat) (hu : u ≠ t) :
    (e.readerDone t g).inboxes.get? u = e.inboxes.get? u := by
  unfold readerDone
  simp only [dropLink_inboxes]
  split
  · split <;> simp [Ne.symm hu]
  · rfl

/-- A reader's exit touches only its own strand's entries. -/
theorem sameElsewhere_readerDone (e : Endpoint) (t : String) (g : Nat) :
    e.SameElsewhere (e.readerDone t g) t where
  capacity := by simp [readerDone, dropLink_eq]; split <;> rfl
  readers := readerDone_readers_sublist e t g
  lookups u hu := by
    refine ⟨?_, readerDone_inboxes_ne e g hu, ?_⟩
    · rw [readerDone_readers]
      simp [Ne.symm hu]
    · rw [readerDone_links, dropLink_links]
      simp [Ne.symm hu]

/-- A reader's exit closes its own inbox for good. -/
theorem readerDone_inboxes_self (e : Endpoint) {s : String} {g : Nat} {i : Inbox}
    (hi : e.inboxes.get? s = some i) (hg : i.generation = g) :
    (e.readerDone s g).inboxes.get? s = some { i with senderOpen := false } := by
  unfold readerDone
  simp [hi, hg]

/-- A reader's exit takes it and its link out of the tables. -/
theorem readerDone_self (e : Endpoint) {s : String} {a : Attachment}
    (hr : e.readers.get? s = some a) (hl : ∀ c, e.links.get? s = some c → c = a) :
    (e.readerDone s a.generation).readers.get? s = none ∧
      (e.readerDone s a.generation).links.get? s = none := by
  refine ⟨by simp [readerDone_readers, hr], ?_⟩
  rw [readerDone_links, dropLink_links]
  cases hs : e.links.get? s with
  | none => simp
  | some c => simp [hl c hs]

end Endpoint

namespace Loopback

/-- One frame of a reader's turn, in the terms of `passedOn`: a frame that ends the stream stops
the reader; one that carries no envelope of its strand is skipped; an envelope of its strand
goes into its inbox if the inbox is its own and has room, waits if it is full, and stops the
reader if the inbox is gone or another's. -/
theorem readFrames_cons (s : String) (g : Nat) (b : Bool) (n : Nat) (e : Endpoint) (f : Frame)
    (rest : List Frame) :
    readFrames s g b n e (f :: rest) =
      if f.endsStream b n then (e, rest, .stopped)
      else match f.envelopeFor s with
        | none => readFrames s g b n e rest
        | some m =>
          match e.inboxes.get? s with
          | some i =>
            if i.generation ≠ g then (e, rest, .stopped)
            else if i.queue.length ≥ e.capacity then (e, f :: rest, .waiting)
            else readFrames s g b n
              { e with inboxes := e.inboxes.insert s { i with queue := i.queue ++ [m] } } rest
          | none => (e, rest, .stopped) := by
  by_cases hn : n < f.size
  · simp [readFrames, Frame.endsStream, hn]
  -- a frame within the limit: the reader goes by its kind
  cases f with
  | close => simp [readFrames, Frame.endsStream]
  | ping d =>
    by_cases hp : (b && decide (d.utf8ByteSize ≤ controlLimit)) = true <;>
      simp [readFrames, Frame.endsStream, Frame.envelopeFor, hn, hp]
  | pong => simp [readFrames, Frame.endsStream, Frame.envelopeFor]
  | text t | binary t =>
    simp only [readFrames, Frame.endsStream, Frame.envelopeFor, hn, decide_false, Bool.or_false,
      if_false, Bool.false_eq_true]
    cases Envelope.decode t with
    | error => rfl
    | ok m =>
      by_cases hm : m.strand = s
      · cases e.inboxes.get? s <;> simp [hm]
      · simp only [hm, ne_eq, not_false_eq_true, if_true, if_false]

/-- A reader changes its endpoint's inboxes only, and of those only its own strand's. -/
theorem readFrames_frame (t : String) (g : Nat) (b : Bool) (n : Nat) (e : Endpoint)
    (fs : List Frame) :
    (readFrames t g b n e fs).1 = { e with inboxes := (readFrames t g b n e fs).1.inboxes } ∧
      ∀ u, u ≠ t → (readFrames t g b n e fs).1.inboxes.get? u = e.inboxes.get? u := by
  induction fs generalizing e with
  | nil => exact ⟨rfl, fun _ _ => rfl⟩
  | cons f rest ih =>
    rw [readFrames_cons]
    split
    · exact ⟨rfl, fun _ _ => rfl⟩
    split
    · exact ih e
    split
    · split
      · exact ⟨rfl, fun _ _ => rfl⟩
      split
      · exact ⟨rfl, fun _ _ => rfl⟩
      -- the one change: an envelope put into the reader's own inbox
      obtain ⟨hframe, hothers⟩ := ih _
      refine ⟨hframe, fun u hu => (hothers u hu).trans ?_⟩
      simp [Ne.symm hu]
    · exact ⟨rfl, fun _ _ => rfl⟩

/-- What a reader of its strand's current inbox does with the frames at its end: the inbox gets
the envelopes `passedOn` gives, in order, as far as they fit. When the reader stops, it got all
of them and its stream has ended; when it waits, the envelopes of the frames it left complete
them, and either it has read every frame of an open peer or its inbox is full. -/
theorem readFrames_spec {s : String} {g : Nat} {b : Bool} {n : Nat} {e : Endpoint} {i : Inbox}
    (hi : e.inboxes.get? s = some i) (hg : i.generation = g) (fs : List Frame) :
    ∃ q', (readFrames s g b n e fs).1.inboxes.get? s = some { i with queue := q' } ∧
      ((readFrames s g b n e fs).2.2 = .stopped →
        q' = i.queue ++ passedOn s b n fs ∧ streamEnds b n fs = true) ∧
      ((readFrames s g b n e fs).2.2 = .waiting →
        q' ++ passedOn s b n (readFrames s g b n e fs).2.1 = i.queue ++ passedOn s b n fs ∧
        streamEnds b n (readFrames s g b n e fs).2.1 = streamEnds b n fs ∧
        ((readFrames s g b n e fs).2.1 = [] ∧ b = true ∨ e.capacity ≤ q'.length)) := by
  induction fs generalizing e i with
  | nil =>
    refine ⟨i.queue, hi, fun h => ?_, fun h => ?_⟩ <;> cases b <;>
      simp_all [readFrames, passedOn, streamEnds]
  | cons f rest ih =>
    rw [readFrames_cons]
    by_cases hend : f.endsStream b n = true
    · simp only [hend, if_true]
      refine ⟨i.queue, hi, fun _ => ⟨?_, ?_⟩, fun h => by simp at h⟩ <;>
        simp [passedOn_cons, streamEnds_cons, hend]
    have hs : streamEnds b n (f :: rest) = streamEnds b n rest := by simp [streamEnds_cons, hend]
    simp only [hend, Bool.false_eq_true, if_false]
    cases henv : f.envelopeFor s with
    | none =>
      have hp : passedOn s b n (f :: rest) = passedOn s b n rest := by
        simp [passedOn_cons, hend, henv]
      rw [hp, hs]
      exact ih hi hg
    | some m =>
      have hp : passedOn s b n (f :: rest) = m :: passedOn s b n rest := by
        simp [passedOn_cons, hend, henv]
      simp only [hi]
      rw [if_neg (not_not.2 hg)]
      by_cases hfull : i.queue.length ≥ e.capacity
      · rw [if_pos hfull]
        exact ⟨i.queue, hi, fun h => by simp at h, fun _ => ⟨rfl, rfl, .inr hfull⟩⟩
      rw [if_neg hfull]
      -- the envelope fits: the rest is read into the inbox that holds it
      obtain ⟨q', hq', hstop, hwait⟩ :=
        ih (e := { e with inboxes := e.inboxes.insert s { i with queue := i.queue ++ [m] } })
          (i := { i with queue := i.queue ++ [m] }) (by simp) hg
      refine ⟨q', hq', fun h => ?_, fun h => ?_⟩
      · obtain ⟨h1, h2⟩ := hstop h
        rw [hp, hs]
        exact ⟨by simp [h1], h2⟩
      · obtain ⟨h1, h2, h3⟩ := hwait h
        exact ⟨by rw [h1, hp]; simp, h2.trans hs.symm, h3⟩

/-- A reader's turn touches only its own strand's inbox. -/
theorem sameElsewhere_readFrames (t : String) (g : Nat) (b : Bool) (n : Nat) (e : Endpoint)
    (fs : List Frame) : e.SameElsewhere (readFrames t g b n e fs).1 t := by
  obtain ⟨hframe, hothers⟩ := readFrames_frame t g b n e fs
  refine ⟨by rw [hframe], by rw [hframe], fun u hu => ⟨by rw [hframe], hothers u hu, by rw [hframe]⟩⟩

/-! ## Socket ends and endpoints -/

section Tables

variable (w : Loopback)

@[simp] theorem endpoint_setEndpoint (side side' : Side) (e : Option Endpoint) :
    (w.setEndpoint side e).endpoint side' = if side' = side then e else w.endpoint side' := by
  cases side <;> cases side' <;> rfl

@[simp] theorem setEndpoint_ends (side : Side) (e : Option Endpoint) :
    (w.setEndpoint side e).ends = w.ends := by
  cases side <;> rfl

@[simp] theorem setEndpoint_raws (side : Side) (e : Option Endpoint) :
    (w.setEndpoint side e).raws = w.raws := by
  cases side <;> rfl

@[simp] theorem endpoint_modifyEnd (j : Nat) (f : SocketEnd → SocketEnd) (side : Side) :
    (w.modifyEnd j f).endpoint side = w.endpoint side := by
  cases side <;> rfl

@[simp] theorem modifyEnd_raws (j : Nat) (f : SocketEnd → SocketEnd) :
    (w.modifyEnd j f).raws = w.raws := rfl

@[simp] theorem modifyEnd_length (j : Nat) (f : SocketEnd → SocketEnd) :
    (w.modifyEnd j f).ends.length = w.ends.length := by
  simp [modifyEnd]

@[simp] theorem endpoint_closeLoose (side : Side) : w.closeLoose.endpoint side = w.endpoint side := by
  cases side <;> rfl

@[simp] theorem closeLoose_raws : w.closeLoose.raws = w.raws := rfl

@[simp] theorem closeLoose_length : w.closeLoose.ends.length = w.ends.length := by
  simp [closeLoose]

theorem socketEnd_modifyEnd (j k : Nat) (f : SocketEnd → SocketEnd) (hk : k < w.ends.length) :
    (w.modifyEnd j f).socketEnd k = if j = k then f (w.socketEnd k) else w.socketEnd k := by
  simp only [socketEnd, modifyEnd, List.getD_eq_getElem?_getD, List.getElem?_modify]
  by_cases hjk : j = k
  · subst hjk
    simp [List.getElem?_eq_getElem hk]
  · simp [hjk]

theorem isOpenEnd_modifyEnd (j k : Nat) (f : SocketEnd → SocketEnd)
    (hf : ∀ x, (f x).isOpen = x.isOpen) : (w.modifyEnd j f).isOpenEnd k = w.isOpenEnd k := by
  by_cases hk : k < w.ends.length
  · simp only [isOpenEnd, modifyEnd_length, socketEnd_modifyEnd w j k f hk]
    split <;> simp [hf]
  · simp [isOpenEnd, hk]

/-- Only `newPair` sets the size limit of a socket end. -/
theorem maxFrame_modifyEnd (j k : Nat) (f : SocketEnd → SocketEnd)
    (hf : ∀ x, (f x).maxFrame = x.maxFrame) :
    ((w.modifyEnd j f).socketEnd k).maxFrame = (w.socketEnd k).maxFrame := by
  by_cases hk : k < w.ends.length
  · rw [socketEnd_modifyEnd w j k f hk]
    split <;> simp [hf]
  · simp [socketEnd, modifyEnd, List.getD_eq_getElem?_getD, Nat.le_of_not_lt hk]

theorem maxFrame_closeLoose (k : Nat) :
    (w.closeLoose.socketEnd k).maxFrame = (w.socketEnd k).maxFrame := by
  simp only [socketEnd, closeLoose, List.getD_eq_getElem?_getD, List.getElem?_mapIdx]
  cases w.ends[k]? <;> rfl

theorem incoming_closeLoose (k : Nat) :
    (w.closeLoose.socketEnd k).incoming = (w.socketEnd k).incoming := by
  simp only [socketEnd, closeLoose, List.getD_eq_getElem?_getD, List.getElem?_mapIdx]
  cases w.ends[k]? <;> rfl

theorem isOpenEnd_closeLoose (k : Nat) : w.closeLoose.isOpenEnd k = (w.isOpenEnd k && w.held k) := by
  by_cases hk : k < w.ends.length
  · simp [isOpenEnd, socketEnd, closeLoose, List.getD_eq_getElem?_getD, hk]
  · simp [isOpenEnd, hk]

/-- A raw link holds its end open. -/
theorem held_of_raw {k : Nat} (h : ∃ r ∈ w.raws.values, r.socket = k) : w.held k = true := by
  obtain ⟨r, hr, rfl⟩ := h
  simp only [held, Bool.or_eq_true, List.any_eq_true, beq_iff_eq]
  exact .inl (.inr ⟨r, hr, rfl⟩)

@[simp] theorem peerOf_peerOf (k : Nat) : peerOf (peerOf k) = k := by
  unfold peerOf
  split <;> split <;> omega

/-- A reader holds its end open. -/
theorem held_of_reader (side : Side) {e : Endpoint} (hw : w.endpoint side = some e) {s : String}
    {a : Attachment} (hr : e.readers.get? s = some a) : w.held a.socket = true := by
  have hmem : a.socket ∈ e.sockets := List.mem_append_right _
    (List.mem_map.2 ⟨a, Keyed.mem_values_iff.2 ⟨s, Keyed.mem_toList_of_get? hr⟩, rfl⟩)
  cases side <;> simp only [endpoint] at hw <;> simp [held, hw, hmem]

end Tables

end Loopback

end WebSocket

end Courier
