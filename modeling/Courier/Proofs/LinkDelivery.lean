import Mathlib
import Courier.Proofs.LinkReader

/-!
# Delivery on a WebSocket link

A receive on a strand takes the next envelope of its inbox; when there is none, it waits while
the readers run (`Loopback.settle`) and takes again. What it sees of the strand's connection is
its phase (`LinkPhase`): the reader runs, with envelopes in the inbox and frames still to read;
the reader has stopped and the inbox drains; or the inbox is gone. `Loopback.Follows` says that
a loopback is in a phase, with the strand's reader the only one on its socket end, and with the
peer's end either closed or held open by a raw link, so that it stays as it is while the session
waits.

Every step keeps `Follows`. The turn of another reader leaves the phase alone, the strand's own
reader moves it on as `LinkPhase.ReadsTo` says, and so does a whole wait (`Follows.settle`); a
receive does what `LinkPhase.Receives` says (`Follows.receive`), which is one of four things
(`LinkPhase.Receives.cases`). What the receiver can tell of a phase is a `Feed`: the envelopes
to come, whether the stream has ended, and whether the end was reported.

The main statement is `link_delivers_then_closes`. Successive receives give the pending
envelopes in order, then one report that the connection closed and reports of no connection
from then on, or nothing while the stream is on; with the peer open, any interleaving of its
frames and the receives answers as the feed does. A frame above the size limit of the reader's
end ends the stream, and the envelopes behind it are lost
(`link_delivers_then_closes_over_a_dialed_link`). A ping is skipped only while the peer is open:
a ping read after the peer has gone ends the stream like a read error, and the envelopes behind
it are lost as well (`ping_after_the_peer_left_ends_the_stream`).
-/

namespace Courier

namespace WebSocket

/-! ## A strand's connection as its receives see it -/

/-- Where a strand's connection on one side stands for its receives: its reader runs, with
envelopes in the inbox and frames not yet read at its socket end; its reader has stopped and the
inbox still holds envelopes; or the inbox is gone. -/
inductive LinkPhase where
  | reading (queue : List Envelope) (frames : List Frame)
  | draining (queue : List Envelope)
  | closed

namespace LinkPhase

variable (s : String) (b : Bool) (n : Nat) (cap : Nat)

/-- The envelopes still to come, in order: those in the inbox, then those the reader passes on
from the frames it has not read. -/
def pending : LinkPhase → List Envelope
  | reading q fs => q ++ passedOn s b n fs
  | draining q => q
  | closed => []

/-- Whether the stream has ended, so that no envelope comes beyond the pending ones. -/
def ended : LinkPhase → Bool
  | reading _ fs => streamEnds b n fs
  | _ => true

/-- What a receive finds without waiting, and the phase it leaves. -/
def take : LinkPhase → Except TransportError (Option Envelope) × LinkPhase
  | reading (m :: q) fs => (.ok (some m), reading q fs)
  | reading [] fs => (.ok none, reading [] fs)
  | draining (m :: q) => (.ok (some m), draining q)
  | draining [] => (.error (.closed s), closed)
  | closed => (.error (.noConnection s), closed)

/-- The phases a reader's turn can leave from inbox `q` and frames `fs`: it stopped, with every
envelope of the frames in the inbox and its stream ended; or it waits with the frames it left,
having read every frame of an open peer or filled the inbox to `cap`. -/
def ReadsTo (q : List Envelope) (fs : List Frame) : LinkPhase → Prop
  | reading q' rest => q' ++ passedOn s b n rest = q ++ passedOn s b n fs ∧
      streamEnds b n rest = streamEnds b n fs ∧ (rest = [] ∧ b = true ∨ cap ≤ q'.length)
  | draining q' => q' = q ++ passedOn s b n fs ∧ streamEnds b n fs = true
  | closed => False

/-- What the readers' turns make of a phase: a running reader reads on, and nothing else
changes. -/
def Next : LinkPhase → LinkPhase → Prop
  | reading q fs, ph' => ReadsTo s b n cap q fs ph'
  | ph, ph' => ph' = ph

/-- What a receive does: it takes what is there, and when nothing is, it waits while the readers
run and takes again. -/
def Receives (ph : LinkPhase) (r : Except TransportError (Option Envelope)) (ph' : LinkPhase) :
    Prop :=
  match ph.take s with
  | (.ok none, _) => ∃ ph₁, Next s b n cap ph ph₁ ∧ ph₁.take s = (r, ph')
  | t => t = (r, ph')

variable {s b n cap}

theorem ReadsTo.trans {q q' : List Envelope} {fs rest : List Frame} {ph : LinkPhase}
    (h : ReadsTo s b n cap q fs (reading q' rest)) (h' : ReadsTo s b n cap q' rest ph) :
    ReadsTo s b n cap q fs ph := by
  obtain ⟨hq, he, -⟩ := h
  cases ph with
  | reading q'' rest' =>
    obtain ⟨hq', he', hw⟩ := h'
    exact ⟨hq'.trans hq, he'.trans he, hw⟩
  | draining q'' =>
    obtain ⟨hq', he'⟩ := h'
    exact ⟨by rw [hq', hq], he ▸ he'⟩
  | closed => exact h'.elim

theorem Next.trans {ph ph' ph'' : LinkPhase} (h : Next s b n cap ph ph')
    (h' : Next s b n cap ph' ph'') : Next s b n cap ph ph'' := by
  cases ph with
  | reading q fs =>
    cases ph' with
    | reading q' rest => exact ReadsTo.trans h h'
    | draining q' =>
      have h' : ph'' = draining q' := h'
      exact h' ▸ h
    | closed => exact h.elim
  | draining q =>
    have h : ph' = draining q := h
    subst h
    exact h'
  | closed =>
    have h : ph' = closed := h
    subst h
    exact h'

theorem ReadsTo.pending {q : List Envelope} {fs : List Frame} {ph : LinkPhase}
    (h : ReadsTo s b n cap q fs ph) :
    ph.pending s b n = q ++ passedOn s b n fs ∧ ph.ended b n = streamEnds b n fs := by
  cases ph with
  | reading q' rest => exact ⟨h.1, h.2.1⟩
  | draining q' => exact ⟨h.1, h.2.symm⟩
  | closed => exact h.elim

/-- The four things `take` can do: give the head of the inbox; report once that a drained inbox
is gone; report that there is no inbox; or find a running reader's inbox empty. -/
theorem take_cases {ph ph' : LinkPhase} {r : Except TransportError (Option Envelope)}
    (h : ph.take s = (r, ph')) :
    (∃ m, r = .ok (some m) ∧ ph.pending s b n = m :: ph'.pending s b n ∧
      ph'.ended b n = ph.ended b n ∧ ph' ≠ closed) ∨
    (ph = draining [] ∧ r = .error (.closed s) ∧ ph' = closed) ∨
    (ph = closed ∧ r = .error (.noConnection s) ∧ ph' = closed) ∨
    (∃ fs, ph = reading [] fs ∧ r = .ok none ∧ ph' = ph) := by
  cases ph with
  | reading q fs =>
    cases q with
    | cons m q =>
      simp only [take, Prod.mk.injEq] at h
      obtain ⟨rfl, rfl⟩ := h
      exact .inl ⟨m, rfl, by simp [pending], rfl, by simp⟩
    | nil =>
      simp only [take, Prod.mk.injEq] at h
      obtain ⟨rfl, rfl⟩ := h
      exact .inr (.inr (.inr ⟨fs, rfl, rfl, rfl⟩))
  | draining q =>
    cases q with
    | cons m q =>
      simp only [take, Prod.mk.injEq] at h
      obtain ⟨rfl, rfl⟩ := h
      exact .inl ⟨m, rfl, rfl, rfl, by simp⟩
    | nil =>
      simp only [take, Prod.mk.injEq] at h
      obtain ⟨rfl, rfl⟩ := h
      exact .inr (.inl ⟨rfl, rfl, rfl⟩)
  | closed =>
    simp only [take, Prod.mk.injEq] at h
    obtain ⟨rfl, rfl⟩ := h
    exact .inr (.inr (.inl ⟨rfl, rfl, rfl⟩))

/-- The four things a receive can do: give the next pending envelope; report the end of a
drained connection once; report that there is no connection; or find nothing on a stream that
has not ended. -/
theorem Receives.cases (hcap : 0 < cap) {ph ph' : LinkPhase}
    {r : Except TransportError (Option Envelope)} (h : Receives s b n cap ph r ph') :
    (∃ m, r = .ok (some m) ∧ ph.pending s b n = m :: ph'.pending s b n ∧
      ph'.ended b n = ph.ended b n ∧ ph' ≠ closed) ∨
    (ph ≠ closed ∧ ph.pending s b n = [] ∧ ph.ended b n = true ∧ r = .error (.closed s) ∧
      ph' = closed) ∨
    (ph = closed ∧ r = .error (.noConnection s) ∧ ph' = closed) ∨
    (ph.pending s b n = [] ∧ ph.ended b n = false ∧ r = .ok none ∧ ph'.pending s b n = [] ∧
      ph'.ended b n = false ∧ ph' ≠ closed) := by
  by_cases hwait : ∃ fs, ph = reading [] fs
  · -- nothing in the inbox: the receive takes from what the reader's turn left
    obtain ⟨fs, rfl⟩ := hwait
    obtain ⟨ph₁, hnext, htake⟩ := h
    have hp : ph₁.pending s b n = (reading [] fs).pending s b n := (ReadsTo.pending hnext).1
    have he : ph₁.ended b n = (reading [] fs).ended b n := (ReadsTo.pending hnext).2
    rcases take_cases htake with ⟨m, rfl, hm, he', hne⟩ | ⟨rfl, rfl, rfl⟩ | ⟨rfl, -⟩ |
      ⟨rest, rfl, rfl, rfl⟩
    · exact .inl ⟨m, rfl, hp.symm.trans hm, he'.trans he, hne⟩
    · exact .inr (.inl ⟨by simp, hp.symm, he.symm, rfl, rfl⟩)
    · exact hnext.elim
    · -- an empty inbox after a turn: the reader read every frame of an open peer
      obtain ⟨rfl, rfl⟩ : rest = [] ∧ b = true := hnext.2.2.resolve_right (by simp; omega)
      have hp' : (reading [] []).pending s true n = [] := by simp [pending]
      have he' : (reading [] []).ended true n = false := by simp [ended, streamEnds]
      exact .inr (.inr (.inr ⟨hp.symm.trans hp', he.symm.trans he', rfl, hp', he', by simp⟩))
  · -- otherwise the receive takes what is there
    have htake : ph.take s = (r, ph') := by
      cases ph with
      | reading q fs =>
        cases q with
        | nil => exact absurd ⟨fs, rfl⟩ hwait
        | cons m q => exact h
      | draining q => cases q <;> exact h
      | closed => exact h
    rcases take_cases htake with ⟨m, hr, hm, he, hne⟩ | ⟨rfl, hr, rfl⟩ | ⟨rfl, hr, rfl⟩ |
      ⟨fs, hph, -⟩
    · exact .inl ⟨m, hr, hm, he, hne⟩
    · exact .inr (.inl ⟨by simp, rfl, rfl, hr, rfl⟩)
    · exact .inr (.inr (.inl ⟨rfl, hr, rfl⟩))
    · exact absurd ⟨fs, hph⟩ hwait

theorem take_eq_ok_none {ph ph₁ : LinkPhase} (h : ph.take s = (.ok none, ph₁)) : ph₁ = ph := by
  cases ph with
  | reading q fs => cases q <;> simp_all [take]
  | draining q => cases q <;> simp [take] at h
  | closed => simp [take] at h

/-- Whether the inbox is gone. -/
def isClosed : LinkPhase → Bool
  | closed => true
  | _ => false

theorem isClosed_eq_false {ph : LinkPhase} (h : ph ≠ closed) : ph.isClosed = false := by
  cases ph <;> simp_all [isClosed]

@[simp] theorem pending_closed : closed.pending s b n = [] := rfl

@[simp] theorem ended_closed : closed.ended b n = true := rfl

@[simp] theorem isClosed_closed : closed.isClosed = true := rfl

/-- A frame arrives at the reader's socket end: a running reader has one more frame to read. -/
def arrive (f : Frame) : LinkPhase → LinkPhase
  | reading q fs => reading q (fs ++ [f])
  | ph => ph

/-- With the peer open, a frame that arrives before the stream ends adds the envelope it carries,
if any, behind the pending ones and ends the stream if it is a close frame; after the end it
adds nothing. -/
theorem arrive_pending (ph : LinkPhase) (f : Frame) :
    (ph.arrive f).pending s true n =
        ph.pending s true n ++ (if ph.ended true n then [] else passedOn s true n [f]) ∧
      (ph.arrive f).ended true n = (ph.ended true n || f.endsStream true n) := by
  cases ph with
  | reading q fs =>
    by_cases hend : fs.any (Frame.endsStream true n) = true <;>
      simp [arrive, pending, ended, passedOn_append, streamEnds, hend]
  | draining q => simp [arrive, pending, ended]
  | closed => simp [arrive, pending, ended]

/-- The shape a phase has in an endpoint's entries for the strand and at the socket end of its
attachment `a`. -/
def Shows (a : Attachment) : LinkPhase → Option Attachment → Option Inbox → Option Attachment →
    List Frame → Prop
  | reading q fs, r, i, l, f =>
    r = some a ∧ i = some ⟨a.generation, q, true⟩ ∧ (∀ c, l = some c → c = a) ∧ f = fs
  | draining q, r, i, l, _ => r = none ∧ i = some ⟨a.generation, q, false⟩ ∧ l = none
  | closed, r, i, l, _ => r = none ∧ i = none ∧ l = none

end LinkPhase

/-- What a receiver of one strand can tell of its connection: the envelopes still to come, in
order, whether the stream has ended, and whether the end has been reported. -/
structure Feed where
  pending : List Envelope
  ended : Bool
  closed : Bool

/-- What the peer and the receiving side do next: the peer writes a frame, or the side receives. -/
inductive LinkEvent where
  | arrive (f : Frame)
  | receive

namespace Feed

variable (s : String) (n : Nat)

/-- A frame from an open peer, read by an end of size limit `n`: before the end of the stream
its envelope, if it carries one, joins the pending ones, and a frame that ends the stream ends
it. -/
def arrive (x : Feed) (f : Frame) : Feed :=
  if x.ended then x
  else { x with pending := x.pending ++ passedOn s true n [f], ended := f.endsStream true n }

/-- A receive: the next pending envelope; with none pending, nothing yet while the stream is
on, one report that the connection closed once it has ended, and no connection after that. -/
def receive (x : Feed) : Except TransportError (Option Envelope) × Feed :=
  match x.pending with
  | m :: rest => (.ok (some m), { x with pending := rest })
  | [] =>
    if x.closed then (.error (.noConnection s), x)
    else if x.ended then (.error (.closed s), { x with closed := true })
    else (.ok none, x)

/-- The answers to the receives among a list of events. -/
def run : Feed → List LinkEvent → List (Except TransportError (Option Envelope))
  | _, [] => []
  | x, .arrive f :: evs => run (x.arrive s n f) evs
  | x, .receive :: evs => (x.receive s).1 :: run (x.receive s).2 evs

end Feed

namespace LinkPhase

variable {s : String} {b : Bool} {n : Nat} {cap : Nat}

/-- What a receiver can tell of a phase. -/
def feed (s : String) (b : Bool) (n : Nat) (ph : LinkPhase) : Feed := ⟨ph.pending s b n, ph.ended b n, ph.isClosed⟩

/-- A receive on a phase answers as a receive on what the receiver can tell of it. -/
theorem Receives.feed_receive (hcap : 0 < cap) {ph ph' : LinkPhase}
    {r : Except TransportError (Option Envelope)} (h : Receives s b n cap ph r ph') :
    r = ((ph.feed s b n).receive s).1 ∧ ph'.feed s b n = ((ph.feed s b n).receive s).2 := by
  rcases h.cases hcap with ⟨m, rfl, hp, he, hne⟩ | ⟨hne, hp, he, rfl, rfl⟩ | ⟨rfl, rfl, rfl⟩ |
    ⟨hp, he, rfl, hp', he', hne'⟩
  · have hph : ph ≠ closed := by
      rintro rfl
      simp [pending] at hp
    simp [LinkPhase.feed, Feed.receive, hp, he, isClosed_eq_false hph, isClosed_eq_false hne]
  · simp [LinkPhase.feed, Feed.receive, hp, he, isClosed_eq_false hne]
  · simp [LinkPhase.feed, Feed.receive]
  · have hph : ph ≠ closed := by
      rintro rfl
      simp [ended] at he
    simp [LinkPhase.feed, Feed.receive, hp, he, hp', he', isClosed_eq_false hph, isClosed_eq_false hne']

/-- With the peer open, a frame's arrival does to what the receiver can tell what `Feed.arrive`
says. -/
theorem feed_arrive (ph : LinkPhase) (f : Frame) :
    (ph.arrive f).feed s true n = (ph.feed s true n).arrive s n f := by
  obtain ⟨hp, he⟩ := arrive_pending (s := s) (n := n) ph f
  have hc : (ph.arrive f).isClosed = ph.isClosed := by cases ph <;> rfl
  cases hend : ph.ended true n <;> simp [LinkPhase.feed, Feed.arrive, hp, he, hc, hend]

end LinkPhase

namespace Loopback

/-! ## A reader's turn -/

/-- One reader's turn in `runSide`: it reads the frames at its socket end, and when its stream
has ended it leaves. -/
def runReader (side : Side) (w : Loopback) : String × Attachment → Loopback
  | (strand, a) =>
    match w.endpoint side with
    | none => w
    | some e =>
      let frames := (w.socketEnd a.socket).incoming
      let (e, rest, outcome) := readFrames strand a.generation (w.isOpenEnd (peerOf a.socket))
        (w.socketEnd a.socket).maxFrame e frames
      let e := if outcome = .stopped then e.readerDone strand a.generation else e
      let w := w.setEndpoint side (some e)
      (w.modifyEnd a.socket fun s => { s with incoming := rest }).closeLoose

theorem runSide_eq (w : Loopback) (side : Side) :
    w.runSide side = match w.endpoint side with
      | none => w
      | some e => e.readers.toList.foldl (runReader side) w := rfl

/-- The loopback after a reader's turn on `side`: the endpoint is `e`, and socket end `j` keeps
the frames `rest`. -/
def afterTurn (w : Loopback) (side : Side) (e : Endpoint) (j : Nat) (rest : List Frame) :
    Loopback :=
  ((w.setEndpoint side (some e)).modifyEnd j fun x => { x with incoming := rest }).closeLoose

theorem runReader_eq (side : Side) (w : Loopback) (t : String) (c : Attachment) :
    runReader side w (t, c) = match w.endpoint side with
      | none => w
      | some e =>
        let r := readFrames t c.generation (w.isOpenEnd (peerOf c.socket))
          (w.socketEnd c.socket).maxFrame e (w.socketEnd c.socket).incoming
        w.afterTurn side (if r.2.2 = .stopped then r.1.readerDone t c.generation else r.1)
          c.socket r.2.1 := rfl

section AfterTurn

variable (w : Loopback) (side : Side) (e : Endpoint) (j : Nat) (rest : List Frame)

@[simp] theorem endpoint_afterTurn (side' : Side) :
    (w.afterTurn side e j rest).endpoint side' =
      if side' = side then some e else w.endpoint side' := by
  simp [afterTurn]

@[simp] theorem afterTurn_raws : (w.afterTurn side e j rest).raws = w.raws := by
  simp [afterTurn]

@[simp] theorem afterTurn_length : (w.afterTurn side e j rest).ends.length = w.ends.length := by
  simp [afterTurn]

theorem incoming_afterTurn {k : Nat} (hk : k < w.ends.length) :
    ((w.afterTurn side e j rest).socketEnd k).incoming =
      if j = k then rest else (w.socketEnd k).incoming := by
  rw [afterTurn, incoming_closeLoose, socketEnd_modifyEnd _ _ _ _ (by simpa using hk)]
  split <;> simp [socketEnd]

theorem isOpenEnd_afterTurn (k : Nat) :
    (w.afterTurn side e j rest).isOpenEnd k =
      (w.isOpenEnd k && ((w.setEndpoint side (some e)).modifyEnd j
        fun x => { x with incoming := rest }).held k) := by
  rw [afterTurn, isOpenEnd_closeLoose,
    isOpenEnd_modifyEnd _ j k (fun x => { x with incoming := rest }) (fun _ => rfl)]
  simp [isOpenEnd, socketEnd]

end AfterTurn

/-! ## Following one strand's connection -/

section Follows

variable (side : Side) (s : String) (a : Attachment) (b : Bool) (n : Nat) (cap : Nat)

/-- Strand `s` on `side` is in phase `ph` of its connection through attachment `a`: the endpoint's
entries for `s` and the frames at `a`'s socket end show `ph`, in an endpoint of inbox capacity
`cap` whose readers are in key order. No reader on either side but this one reads that
socket end. The socket end exists, reads frames of at most `n` bytes, and is open while the
reader runs. The peer end is open exactly when `b`, and stays so while the session waits: it
has closed, or a raw link holds it. -/
structure Follows (w : Loopback) (ph : LinkPhase) : Prop where
  shows : ∃ e, w.endpoint side = some e ∧ e.readers.Sorted ∧ e.capacity = cap ∧
    ph.Shows a (e.readers.get? s) (e.inboxes.get? s) (e.links.get? s)
      (w.socketEnd a.socket).incoming
  alone : ∀ side' e', w.endpoint side' = some e' → ∀ t c, (t, c) ∈ e'.readers.toList →
    c.socket = a.socket → side' = side ∧ t = s
  socket : a.socket < w.ends.length
  limit : (w.socketEnd a.socket).maxFrame = n
  reads : ∀ q fs, ph = .reading q fs → w.isOpenEnd a.socket = true
  peer : w.isOpenEnd (peerOf a.socket) = b
  stays : b = false ∨ ∃ r ∈ w.raws.values, r.socket = peerOf a.socket

variable {side s a b n cap}

/-- Putting in place of one side's endpoint one with no reader the old one lacked leaves the
strand's reader alone on its socket end. -/
theorem Follows.alone_replace {w : Loopback} {ph : LinkPhase} (h : Follows side s a b n cap w ph)
    {side' : Side} {e' e₂ : Endpoint} (hw : w.endpoint side' = some e')
    (hsub : e₂.readers.toList.Sublist e'.readers.toList) {w' : Loopback}
    (hend : ∀ side'', w'.endpoint side'' = if side'' = side' then some e₂ else w.endpoint side'')
    (side'' : Side) (e'' : Endpoint) (he'' : w'.endpoint side'' = some e'') (t : String)
    (c : Attachment) (hmem : (t, c) ∈ e''.readers.toList) (hc : c.socket = a.socket) :
    side'' = side ∧ t = s := by
  rw [hend] at he''
  split at he''
  · subst side''
    rw [Option.some.injEq] at he''
    subst he''
    exact h.alone side' e' hw t c (hsub.subset hmem) hc
  · exact h.alone side'' e'' he'' t c hmem hc

/-- A step that keeps the raw links keeps the peer end as it is: if it is open, a raw link holds
it. -/
theorem Follows.held_peer {w : Loopback} {ph : LinkPhase} (h : Follows side s a b n cap w ph)
    {w' : Loopback} (hraws : w'.raws = w.raws) : (b && w'.held (peerOf a.socket)) = b := by
  rcases h.stays with rfl | hraw
  · rfl
  · rw [held_of_raw _ (by rwa [hraws]), Bool.and_true]

/-- A reader's turn on any side keeps the connection followed, in phase `ph'`, when the
new endpoint has no reader that the old one lacked, keeps its capacity, and shows `ph'` if it is
the strand's own side; a turn on the other side leaves the phase and the socket end alone. -/
theorem Follows.afterTurn {w : Loopback} {ph ph' : LinkPhase} (h : Follows side s a b n cap w ph)
    {side' : Side} {e' e₂ : Endpoint} {j : Nat} {rest : List Frame}
    (hw : w.endpoint side' = some e') (hsub : e₂.readers.toList.Sublist e'.readers.toList)
    (hcap : e₂.capacity = e'.capacity)
    (hshows : side' = side → ph'.Shows a (e₂.readers.get? s) (e₂.inboxes.get? s)
      (e₂.links.get? s) (if j = a.socket then rest else (w.socketEnd a.socket).incoming))
    (hsame : side' ≠ side → ph' = ph ∧ j ≠ a.socket)
    (hwas : ∀ q fs, ph' = .reading q fs → ∃ q' fs', ph = .reading q' fs') :
    Follows side s a b n cap (w.afterTurn side' e₂ j rest) ph' where
  shows := by
    obtain ⟨e, hwe, hsorted, hcape, hsh⟩ := h.shows
    rw [incoming_afterTurn _ _ _ _ _ h.socket]
    by_cases hside : side' = side
    · subst hside
      rw [hwe, Option.some.injEq] at hw
      subst hw
      exact ⟨e₂, by simp, hsorted.of_sublist hsub, hcap.trans hcape, hshows rfl⟩
    · obtain ⟨rfl, hj⟩ := hsame hside
      refine ⟨e, by simp [Ne.symm hside, hwe], hsorted, hcape, ?_⟩
      rwa [if_neg hj]
  alone := h.alone_replace hw hsub (endpoint_afterTurn w side' e₂ j rest)
  socket := by simpa using h.socket
  limit := by
    rw [Loopback.afterTurn, maxFrame_closeLoose,
      maxFrame_modifyEnd _ _ _ (fun x => { x with incoming := rest }) fun _ => rfl]
    simpa [socketEnd] using h.limit
  reads q fs hq := by
    obtain ⟨q', fs', hq'⟩ := hwas q fs hq
    rw [isOpenEnd_afterTurn, h.reads q' fs' hq', Bool.true_and]
    -- the strand's reader, still running, holds its end
    obtain ⟨e, hwe, -, -, hsh⟩ := h.shows
    by_cases hside : side' = side
    · subst hside hq
      exact held_of_reader _ side' (by simp) (hshows rfl).1
    · subst hq'
      exact held_of_reader _ side (by simp [Ne.symm hside, hwe]) hsh.1
  peer := by
    rw [isOpenEnd_afterTurn, h.peer]
    exact h.held_peer (by simp)
  stays := by simpa using h.stays

/-- A reader's turn keeps every entry of another strand, whether or not it stops. -/
theorem sameElsewhere_turn (t : String) (g : Nat) (b : Bool) (n : Nat) (e : Endpoint)
    (fs : List Frame) :
    e.SameElsewhere (if (readFrames t g b n e fs).2.2 = .stopped then
      (readFrames t g b n e fs).1.readerDone t g else (readFrames t g b n e fs).1) t := by
  refine (sameElsewhere_readFrames t g b n e fs).trans ?_
  split
  · exact Endpoint.sameElsewhere_readerDone _ t g
  · exact Endpoint.SameElsewhere.refl _ t

/-- The turn of another strand's reader, or of any reader on the other side, leaves the followed
connection as it is. -/
theorem Follows.runReader_other {w : Loopback} {ph : LinkPhase} (h : Follows side s a b n cap w ph)
    {side' : Side} {t : String} {c : Attachment} (hother : side' = side → t ≠ s)
    (hc : c.socket ≠ a.socket) : Follows side s a b n cap (runReader side' w (t, c)) ph := by
  rw [runReader_eq]
  cases hw : w.endpoint side' with
  | none => exact h
  | some e' =>
    have hkeep := sameElsewhere_turn t c.generation (w.isOpenEnd (peerOf c.socket))
      (w.socketEnd c.socket).maxFrame e' (w.socketEnd c.socket).incoming
    refine h.afterTurn hw hkeep.readers hkeep.capacity (fun hside => ?_) (fun _ => ⟨rfl, hc⟩)
      (fun q fs hq => ⟨q, fs, hq⟩)
    subst hside
    obtain ⟨e, hwe, -, -, hsh⟩ := h.shows
    rw [hwe, Option.some.injEq] at hw
    subst hw
    obtain ⟨hr, hi, hl⟩ := hkeep.lookups s (Ne.symm (hother rfl))
    rwa [hr, hi, hl, if_neg hc]

/-- The turn of the strand's own running reader moves its phase on as `ReadsTo` says. -/
theorem Follows.runReader_own {w : Loopback} {q : List Envelope} {fs : List Frame}
    (h : Follows side s a b n cap w (.reading q fs)) :
    ∃ ph', Follows side s a b n cap (runReader side w (s, a)) ph' ∧
      LinkPhase.ReadsTo s b n cap q fs ph' := by
  obtain ⟨e, hwe, -, hcap, hr, hi, hl, hf⟩ := h.shows
  rw [runReader_eq, hwe]
  simp only [hf, h.peer, h.limit]
  have hkeep := sameElsewhere_turn s a.generation b n e fs
  obtain ⟨hframe, -⟩ := readFrames_frame s a.generation b n e fs
  obtain ⟨q', hq', hstop, hwait⟩ := readFrames_spec (b := b) (n := n) hi rfl fs
  have hr' : (readFrames s a.generation b n e fs).1.readers.get? s = some a := by
    rw [hframe]; exact hr
  have hl' : ∀ c, (readFrames s a.generation b n e fs).1.links.get? s = some c → c = a := by
    rw [hframe]; exact hl
  cases ho : (readFrames s a.generation b n e fs).2.2 with
  | stopped =>
    -- the stream ended: the reader leaves, and its inbox closes with what it got
    obtain ⟨hq, hend⟩ := hstop ho
    refine ⟨.draining q', h.afterTurn hwe (by simpa [ho] using hkeep.readers)
      (by simpa [ho] using hkeep.capacity) (fun _ => ?_) (fun hne => absurd rfl hne)
      (fun _ _ _ => ⟨q, fs, rfl⟩), hq, hend⟩
    obtain ⟨hgone, hunlinked⟩ := Endpoint.readerDone_self _ hr' hl'
    simp only [if_true]
    exact ⟨hgone, Endpoint.readerDone_inboxes_self _ hq' rfl, hunlinked⟩
  | waiting =>
    obtain ⟨hq, hend, hwhy⟩ := hwait ho
    refine ⟨.reading q' (readFrames s a.generation b n e fs).2.1,
      h.afterTurn hwe (by simpa [ho] using hkeep.readers) (by simpa [ho] using hkeep.capacity)
        (fun _ => ?_) (fun hne => absurd rfl hne) (fun _ _ _ => ⟨q, fs, rfl⟩), hq, hend,
        hcap ▸ hwhy⟩
    simp only [reduceCtorEq, if_false, if_true]
    exact ⟨hr', hq', hl', rfl⟩

/-- No reader but the strand's own reads its socket end. -/
theorem Follows.socket_ne {w : Loopback} {ph : LinkPhase} (h : Follows side s a b n cap w ph)
    {side' : Side} {e' : Endpoint} (hw : w.endpoint side' = some e') {x : String × Attachment}
    (hx : x ∈ e'.readers.toList) (hne : side' = side → x.1 ≠ s) : x.2.socket ≠ a.socket :=
  fun hc => hne (h.alone side' e' hw x.1 x.2 hx hc).1 (h.alone side' e' hw x.1 x.2 hx hc).2

theorem Follows.foldl_others {ph : LinkPhase} {side' : Side} (l : List (String × Attachment))
    (hl : ∀ x ∈ l, (side' = side → x.1 ≠ s) ∧ x.2.socket ≠ a.socket) {w : Loopback}
    (h : Follows side s a b n cap w ph) : Follows side s a b n cap (l.foldl (runReader side') w) ph := by
  induction l generalizing w with
  | nil => exact h
  | cons x l ih =>
    obtain ⟨hne, hc⟩ := hl x List.mem_cons_self
    exact ih (fun y hy => hl y (List.mem_cons_of_mem x hy)) (h.runReader_other hne hc)

/-- The readers of the other side leave the followed connection as it is. -/
theorem Follows.runSide_other {w : Loopback} {ph : LinkPhase} (h : Follows side s a b n cap w ph)
    {side' : Side} (hside : side' ≠ side) : Follows side s a b n cap (w.runSide side') ph := by
  rw [runSide_eq]
  cases hw : w.endpoint side' with
  | none => exact h
  | some e' =>
    exact h.foldl_others _ fun x hx =>
      ⟨fun hs => absurd hs hside, h.socket_ne hw hx fun hs => absurd hs hside⟩

/-- The readers of the strand's own side move its phase on: the other strands' readers leave it
alone, and its own reader, if it runs, takes one turn. -/
theorem Follows.runSide_own {w : Loopback} {ph : LinkPhase} (h : Follows side s a b n cap w ph) :
    ∃ ph', Follows side s a b n cap (w.runSide side) ph' ∧ LinkPhase.Next s b n cap ph ph' := by
  obtain ⟨e, hwe, hsorted, -, hsh⟩ := h.shows
  rw [runSide_eq, hwe]
  dsimp only
  -- a turn of another strand's reader of this side reads another socket end
  have hothers : ∀ l : List (String × Attachment), (∀ x ∈ l, x ∈ e.readers.toList) →
      (∀ x ∈ l, x.1 ≠ s) → ∀ x ∈ l, (side = side → x.1 ≠ s) ∧ x.2.socket ≠ a.socket :=
    fun l hl hne x hx => ⟨fun _ => hne x hx, h.socket_ne hwe (hl x hx) fun _ => hne x hx⟩
  cases ph with
  | reading q fs =>
    -- the strand's own reader parts the table into the readers before it and after it
    obtain ⟨l₁, l₂, hl, h₁, h₂⟩ := hsorted.eq_append_cons hsh.1
    have hin₁ : ∀ x ∈ l₁, x ∈ e.readers.toList := fun x hx => by
      rw [hl]
      exact List.mem_append_left _ hx
    have hin₂ : ∀ x ∈ l₂, x ∈ e.readers.toList := fun x hx => by
      rw [hl]
      exact List.mem_append_right _ (List.mem_cons_of_mem _ hx)
    rw [hl, List.foldl_append, List.foldl_cons]
    obtain ⟨ph', h', hreads⟩ := (h.foldl_others l₁ (hothers l₁ hin₁ h₁)).runReader_own
    exact ⟨ph', h'.foldl_others l₂ (hothers l₂ hin₂ h₂), hreads⟩
  | draining q =>
    have hne := (Keyed.get?_eq_none_iff _ _).1 hsh.1
    exact ⟨_, h.foldl_others _ (hothers _ (fun _ hx => hx) hne), rfl⟩
  | closed =>
    have hne := (Keyed.get?_eq_none_iff _ _).1 hsh.1
    exact ⟨_, h.foldl_others _ (hothers _ (fun _ hx => hx) hne), rfl⟩

/-- One round of the readers of both sides moves the phase on as the strand's own reader does. -/
theorem Follows.round {w : Loopback} {ph : LinkPhase} (h : Follows side s a b n cap w ph) :
    ∃ ph', Follows side s a b n cap ((w.runSide .server).runSide .client) ph' ∧
      LinkPhase.Next s b n cap ph ph' := by
  cases side with
  | server =>
    obtain ⟨ph', h', hnext⟩ := h.runSide_own
    exact ⟨ph', h'.runSide_other (by decide), hnext⟩
  | client => exact (h.runSide_other (by decide)).runSide_own

theorem Follows.rounds {w : Loopback} {ph : LinkPhase} (h : Follows side s a b n cap w ph)
    (x : Nat) (l : List Nat) :
    ∃ ph', Follows side s a b n cap
      ((x :: l).foldl (fun w _ => (w.runSide .server).runSide .client) w) ph' ∧
      LinkPhase.Next s b n cap ph ph' := by
  induction l generalizing x w ph with
  | nil => exact h.round
  | cons y l ih =>
    obtain ⟨ph₁, h₁, hnext₁⟩ := h.round
    obtain ⟨ph', h', hnext'⟩ := ih h₁ y
    exact ⟨ph', h', hnext₁.trans hnext'⟩

theorem Follows.closeLoose {w : Loopback} {ph : LinkPhase} (h : Follows side s a b n cap w ph) :
    Follows side s a b n cap w.closeLoose ph where
  shows := by simpa [incoming_closeLoose] using h.shows
  alone := by simpa using h.alone
  socket := by simpa using h.socket
  limit := by rw [maxFrame_closeLoose]; exact h.limit
  reads q fs hq := by
    rw [isOpenEnd_closeLoose, h.reads q fs hq, Bool.true_and]
    obtain ⟨e, hwe, -, -, hsh⟩ := h.shows
    subst hq
    exact held_of_reader _ side hwe hsh.1
  peer := by
    rw [isOpenEnd_closeLoose, h.peer]
    exact h.held_peer rfl
  stays := by simpa using h.stays

/-- While the session waits, the phase moves on as the strand's own reader's turns make it. -/
theorem Follows.settle {w : Loopback} {ph : LinkPhase} (h : Follows side s a b n cap w ph) :
    ∃ ph', Follows side s a b n cap w.settle ph' ∧ LinkPhase.Next s b n cap ph ph' := by
  have h₀ : Follows side s a b n cap ({ w with lingering := [] } : Loopback).closeLoose ph :=
    Follows.closeLoose ⟨h.shows, h.alone, h.socket, h.limit, h.reads, h.peer, h.stays⟩
  unfold Loopback.settle
  dsimp only
  rw [List.range_succ_eq_map]
  exact h₀.rounds 0 _

theorem Follows.setInboxes {w : Loopback} {ph : LinkPhase} (h : Follows side s a b n cap w ph)
    {e : Endpoint} (hwe : w.endpoint side = some e) {inboxes : Keyed Inbox} {ph' : LinkPhase}
    (hsh : ph'.Shows a (e.readers.get? s) (inboxes.get? s) (e.links.get? s)
      (w.socketEnd a.socket).incoming)
    (hwas : ∀ q fs, ph' = .reading q fs → ∃ q' fs', ph = .reading q' fs') :
    Follows side s a b n cap (w.setEndpoint side (some { e with inboxes })) ph' where
  shows := by
    obtain ⟨e', hwe', hsorted, hcap, -⟩ := h.shows
    rw [hwe, Option.some.injEq] at hwe'
    subst hwe'
    exact ⟨{ e with inboxes }, by simp, hsorted, hcap, by simpa [socketEnd] using hsh⟩
  alone := h.alone_replace hwe (by exact List.Sublist.refl _) (endpoint_setEndpoint w side · _)
  socket := by simpa using h.socket
  limit := by simpa [socketEnd] using h.limit
  reads q fs hq := by
    obtain ⟨q', fs', hq'⟩ := hwas q fs hq
    simpa [isOpenEnd, socketEnd] using h.reads q' fs' hq'
  peer := by simpa [isOpenEnd, socketEnd] using h.peer
  stays := by simpa using h.stays

/-- A receive that does not wait does what `LinkPhase.take` says. -/
theorem Follows.takeNow {w : Loopback} {ph : LinkPhase} (h : Follows side s a b n cap w ph) :
    (w.takeNow side s).1 = (ph.take s).1 ∧
      Follows side s a b n cap (w.takeNow side s).2 (ph.take s).2 := by
  obtain ⟨e, hwe, -, -, hsh⟩ := h.shows
  cases ph with
  | reading q fs =>
    obtain ⟨hr, hi, hl, hf⟩ := hsh
    cases q with
    | cons m q =>
      have ht : w.takeNow side s = (.ok (some m), w.setEndpoint side (some { e with
          inboxes := e.inboxes.insert s ⟨a.generation, q, true⟩ })) := by
        simp [Loopback.takeNow, hwe, hi]
      rw [ht]
      exact ⟨rfl, h.setInboxes hwe ⟨hr, by simp, hl, hf⟩ fun _ _ _ => ⟨_, _, rfl⟩⟩
    | nil =>
      have ht : w.takeNow side s = (.ok none, w) := by simp [Loopback.takeNow, hwe, hi]
      rw [ht]
      exact ⟨rfl, h⟩
  | draining q =>
    obtain ⟨hr, hi, hl⟩ := hsh
    cases q with
    | cons m q =>
      have ht : w.takeNow side s = (.ok (some m), w.setEndpoint side (some { e with
          inboxes := e.inboxes.insert s ⟨a.generation, q, false⟩ })) := by
        simp [Loopback.takeNow, hwe, hi]
      rw [ht]
      exact ⟨rfl, h.setInboxes hwe ⟨hr, by simp, hl⟩ fun _ _ hq => by cases hq⟩
    | nil =>
      have ht : w.takeNow side s = (.error (.closed s), w.setEndpoint side (some { e with
          inboxes := e.inboxes.erase s })) := by
        simp [Loopback.takeNow, hwe, hi]
      rw [ht]
      exact ⟨rfl, h.setInboxes hwe ⟨hr, by simp, hl⟩ fun _ _ hq => by cases hq⟩
  | closed =>
    obtain ⟨hr, hi, hl⟩ := hsh
    have ht : w.takeNow side s = (.error (.noConnection s), w) := by
      simp [Loopback.takeNow, hwe, hi]
    rw [ht]
    exact ⟨rfl, h⟩

/-- A receive does what `LinkPhase.Receives` says. -/
theorem Follows.receive {w : Loopback} {ph : LinkPhase} (h : Follows side s a b n cap w ph) :
    ∃ ph', Follows side s a b n cap (w.receive side s).2 ph' ∧
      LinkPhase.Receives s b n cap ph (w.receive side s).1 ph' := by
  obtain ⟨ht₁, ht₂⟩ := h.takeNow
  rcases hp : ph.take s with ⟨r, ph₁⟩
  rcases hw : w.takeNow side s with ⟨r', w₁⟩
  rw [hp, hw] at ht₁ ht₂
  dsimp only at ht₁ ht₂
  subst ht₁
  unfold Loopback.receive
  rw [hw]
  -- only a receive that finds nothing waits for the readers
  rcases r' with err | _ | m
  · exact ⟨ph₁, ht₂, by simp [LinkPhase.Receives, hp]⟩
  · obtain rfl := LinkPhase.take_eq_ok_none hp
    obtain ⟨ph₂, h₂, hnext⟩ := ht₂.settle
    obtain ⟨hr, h'⟩ := h₂.takeNow
    refine ⟨_, h', ?_⟩
    simp only [LinkPhase.Receives, hp]
    exact ⟨ph₂, hnext, by rw [hr]⟩
  · exact ⟨ph₁, ht₂, by simp [LinkPhase.Receives, hp]⟩

/-- A frame added at the reader's socket end is one more frame for a running reader to read. -/
theorem Follows.appendFrame {w : Loopback} {ph : LinkPhase} (h : Follows side s a b n cap w ph)
    (f : Frame) :
    Follows side s a b n cap
      (w.modifyEnd a.socket fun x => { x with incoming := x.incoming ++ [f] }) (ph.arrive f) where
  shows := by
    obtain ⟨e, hwe, hsorted, hcap, hsh⟩ := h.shows
    refine ⟨e, by simpa using hwe, hsorted, hcap, ?_⟩
    rw [socketEnd_modifyEnd _ _ _ _ h.socket, if_pos rfl]
    cases ph with
    | reading q fs =>
      obtain ⟨hr, hi, hl, hf⟩ := hsh
      exact ⟨hr, hi, hl, by rw [hf]⟩
    | draining q => exact hsh
    | closed => exact hsh
  alone := by simpa using h.alone
  socket := by simpa using h.socket
  limit := by
    rw [maxFrame_modifyEnd _ _ _ (fun x => { x with incoming := x.incoming ++ [f] }) fun _ => rfl]
    exact h.limit
  reads q fs hq := by
    rw [isOpenEnd_modifyEnd _ _ _ (fun x => { x with incoming := x.incoming ++ [f] }) fun _ => rfl]
    cases ph with
    | reading q' fs' => exact h.reads q' fs' rfl
    | draining q' => cases hq
    | closed => cases hq
  peer := by
    rw [isOpenEnd_modifyEnd _ _ _ (fun x => { x with incoming := x.incoming ++ [f] }) fun _ => rfl,
      h.peer]
  stays := by simpa using h.stays

/-- A frame the peer writes reaches a running reader's end; once the reader has stopped, whether
the write goes through or not, the phase stays. -/
theorem Follows.arrival {w : Loopback} {ph : LinkPhase} (h : Follows side s a b n cap w ph) (f : Frame) :
    Follows side s a b n cap ((w.write (peerOf a.socket) f).toOption.getD w) (ph.arrive f) := by
  unfold Loopback.write
  simp only [peerOf_peerOf]
  by_cases ho : w.isOpenEnd a.socket = true
  · rw [if_pos ho]
    exact h.appendFrame f
  · rw [if_neg ho]
    cases ph with
    | reading q fs => exact absurd (h.reads q fs rfl) ho
    | draining q => exact h
    | closed => exact h

/-- The answers of `k` receives on a strand, one after another, and the loopback they leave. -/
def receiveRun (side : Side) (s : String) :
    Nat → Loopback → List (Except TransportError (Option Envelope)) × Loopback
  | 0, w => ([], w)
  | k + 1, w =>
    let r := w.receive side s
    (r.1 :: (receiveRun side s k r.2).1, (receiveRun side s k r.2).2)

/-- Once the inbox is gone, every receive reports that there is no connection. -/
theorem Follows.receiveRun_closed {w : Loopback} (h : Follows side s a b n cap w .closed) (k : Nat) :
    (receiveRun side s k w).1 = List.replicate k (.error (.noConnection s)) ∧
      Follows side s a b n cap (receiveRun side s k w).2 .closed := by
  induction k generalizing w with
  | zero => exact ⟨rfl, h⟩
  | succ k ih =>
    obtain ⟨ph', h', hrec⟩ := h.receive
    simp only [LinkPhase.Receives, LinkPhase.take, Prod.mk.injEq] at hrec
    obtain ⟨hr, rfl⟩ := hrec
    obtain ⟨ih₁, ih₂⟩ := ih h'
    exact ⟨by simp [receiveRun, ← hr, ih₁, List.replicate_succ], ih₂⟩

/-- While the strand has its link, a send of one of its envelopes writes the envelope's text as
one frame to the peer, or fails with a broken pipe when the peer has closed. -/
theorem Follows.send_linked {w : Loopback} {q : List Envelope} {fs : List Frame}
    (h : Follows side s a b n cap w (.reading q fs)) (hc : w.isConnected side s = true)
    {m : Envelope} (hm : m.strand = s) :
    (w.send side m).1 = (if b then .ok () else .error (.webSocket brokenPipe)) ∧
      (b = true → (w.send side m).2 =
        w.modifyEnd (peerOf a.socket) fun x => { x with incoming := x.incoming ++ [.text m.encode] }) := by
  obtain ⟨e, hwe, -, -, -, -, hl, -⟩ := h.shows
  have hlink : e.links.get? s = some a := by
    simp only [isConnected, hwe, Endpoint.isConnected, Keyed.contains, Option.isSome_iff_exists] at hc
    obtain ⟨c, hc⟩ := hc
    rw [hc, hl c hc]
  cases hb : b
  · simp [Loopback.send, hwe, hm, hlink, write, h.peer, hb]
  · simp [Loopback.send, hwe, hm, hlink, write, h.peer, hb]

/-- Once the strand's reader has stopped, a send of one of its envelopes finds no connection and
changes nothing. -/
theorem Follows.send_stopped {w : Loopback} {ph : LinkPhase} (h : Follows side s a b n cap w ph)
    (hph : ph = .closed ∨ ∃ q, ph = .draining q) {m : Envelope} (hm : m.strand = s) :
    w.send side m = (.error (.noConnection s), w) := by
  obtain ⟨e, hwe, -, -, hsh⟩ := h.shows
  have hlink : e.links.get? s = none := by
    rcases hph with rfl | ⟨q, rfl⟩
    · exact hsh.2.2
    · exact hsh.2.2
  simp [Loopback.send, hwe, hm, hlink]

/-- A server fresh from attaching strand `s` to socket end `0`, on an endpoint with no readers
and no attachments before, follows `s` from an empty inbox, beside a client with no readers. -/
theorem follows_after_attach {w : Loopback} {e : Endpoint} {s : String} {b : Bool} {n : Nat}
    {fs : List Frame} (hg : e.generation = 0) (hr : e.readers.toList = [])
    (hs : w.endpoint .server = some (e.attach s 0).1)
    (hc : ∀ e', w.endpoint .client = some e' → e'.readers.toList = [])
    (hlen : 0 < w.ends.length) (hlim : (w.socketEnd 0).maxFrame = n)
    (hopen : w.isOpenEnd 0 = true) (hpeer : w.isOpenEnd 1 = b)
    (hstays : b = false ∨ ∃ r ∈ w.raws.values, r.socket = 1)
    (hin : (w.socketEnd 0).incoming = fs) :
    Follows .server s ⟨1, 0⟩ b n e.capacity w (.reading [] fs) := by
  have hreaders : (e.attach s 0).1.readers.toList = [(s, ⟨1, 0⟩)] := by
    simp [Endpoint.attach, Keyed.insert, Keyed.place, hr, hg]
  have hsorted : (e.attach s 0).1.readers.Sorted := by
    simp [Keyed.Sorted, Keyed.keys, hreaders]
  refine ⟨⟨_, hs, hsorted, rfl, by simp [Endpoint.attach, hg], by simp [Endpoint.attach, hg],
    fun c hc => by simpa [Endpoint.attach, hg] using hc.symm, hin⟩, ?_, hlen, hlim,
    fun _ _ _ => hopen, hpeer, hstays⟩
  intro side' e' he' t c hmem _
  cases side' with
  | server =>
    rw [hs, Option.some.injEq] at he'
    subst he'
    rw [hreaders, List.mem_singleton, Prod.mk.injEq] at hmem
    exact ⟨rfl, hmem.1⟩
  | client =>
    rw [hc e' he'] at hmem
    cases hmem

/-- The answers to the receives among the peer's writes from end `p` and the side's receives. -/
def runEvents (side : Side) (s : String) (p : Nat) :
    Loopback → List LinkEvent → List (Except TransportError (Option Envelope))
  | _, [] => []
  | w, .arrive f :: evs => runEvents side s p ((w.write p f).toOption.getD w) evs
  | w, .receive :: evs => (w.receive side s).1 :: runEvents side s p (w.receive side s).2 evs

variable (hcap : 0 < cap)
include hcap

/-- Before the stream ends, receives that find nothing pending find nothing, and leave nothing
pending. -/
theorem Follows.receiveRun_waiting {w : Loopback} {ph : LinkPhase}
    (h : Follows side s a b n cap w ph) (hp : ph.pending s b n = []) (he : ph.ended b n = false)
    (k : Nat) : (receiveRun side s k w).1 = List.replicate k (.ok none) := by
  induction k generalizing w ph with
  | zero => rfl
  | succ k ih =>
    obtain ⟨ph', h', hrec⟩ := h.receive
    rcases hrec.cases hcap with ⟨m, -, hm, -⟩ | ⟨-, -, hend, -⟩ | ⟨rfl, -⟩ |
      ⟨-, -, hr, hp', he', -⟩
    · rw [hp] at hm
      cases hm
    · rw [he] at hend
      cases hend
    · cases he
    · simp [receiveRun, hr, ih h' hp' he', List.replicate_succ]

/-- From any phase of a connection whose inbox is still there, successive receives give the
pending envelopes in order; then, if the stream has ended, one report that the connection is
closed and reports of no connection from then on, and otherwise nothing. -/
theorem Follows.receiveRun_pending {w : Loopback} {ph : LinkPhase}
    (h : Follows side s a b n cap w ph) (hph : ph ≠ .closed) (j : Nat) :
    (receiveRun side s ((ph.pending s b n).length + 1 + j) w).1 =
        (ph.pending s b n).map (.ok ∘ some) ++
          (if ph.ended b n then .error (.closed s) :: List.replicate j (.error (.noConnection s))
          else List.replicate (j + 1) (.ok none)) ∧
      (ph.ended b n = true →
        Follows side s a b n cap (receiveRun side s ((ph.pending s b n).length + 1 + j) w).2 .closed) := by
  generalize hL : ph.pending s b n = L
  induction L generalizing w ph with
  | nil =>
    obtain ⟨ph', h', hrec⟩ := h.receive
    rcases hrec.cases hcap with ⟨m, -, hm, -⟩ | ⟨-, -, hend, hr, rfl⟩ | ⟨hcl, -⟩ |
      ⟨-, hend, hr, hp', he', -⟩
    · rw [hL] at hm
      cases hm
    · -- the stream ended with nothing pending: one report that it closed, then no connection
      obtain ⟨hrun, hclosed⟩ := h'.receiveRun_closed j
      rw [List.length_nil, Nat.zero_add, Nat.add_comm 1 j]
      exact ⟨by simp [receiveRun, hr, hrun, hend], fun _ => hclosed⟩
    · exact absurd hcl hph
    · simp only [List.length_nil, Nat.zero_add, Nat.add_comm 1 j, receiveRun, hr,
        h'.receiveRun_waiting hcap hp' he' j, hend, List.map_nil, List.nil_append]
      exact ⟨by simp [List.replicate_succ], fun h => by cases h⟩
  | cons m L ih =>
    obtain ⟨ph', h', hrec⟩ := h.receive
    rcases hrec.cases hcap with ⟨m', hr, hm, he', hph'⟩ | ⟨-, hp, -⟩ | ⟨hcl, -⟩ |
      ⟨hp, -⟩
    · rw [hL, List.cons.injEq] at hm
      obtain ⟨rfl, hL'⟩ := hm
      obtain ⟨ih₁, ih₂⟩ := ih h' hph' hL'.symm
      rw [he'] at ih₁ ih₂
      rw [show (m :: L).length + 1 + j = (L.length + 1 + j) + 1 by simp; omega]
      exact ⟨by simp [receiveRun, hr, ih₁], ih₂⟩
    · rw [hL] at hp
      cases hp
    · exact absurd hcl hph
    · rw [hL] at hp
      cases hp

/-- With the peer open and held by a raw link, any interleaving of its writes and the side's
receives gets the answers of a feed: the receiver sees the strand's envelopes in the order their
frames arrived, up to the first close frame, and then the end once. -/
theorem Follows.runEvents_feed {w : Loopback} {ph : LinkPhase}
    (h : Follows side s a true n cap w ph) (evs : List LinkEvent) :
    runEvents side s (peerOf a.socket) w evs = Feed.run s n (ph.feed s true n) evs := by
  induction evs generalizing w ph with
  | nil => rfl
  | cons ev evs ih =>
    cases ev with
    | arrive f =>
      simp only [runEvents, Feed.run]
      rw [← LinkPhase.feed_arrive]
      exact ih (h.arrival f)
    | receive =>
      obtain ⟨ph', h', hrec⟩ := h.receive
      obtain ⟨hr, hph'⟩ := hrec.feed_receive hcap
      simp only [runEvents, Feed.run, hr, ← hph']
      rw [ih h']

end Follows

end Loopback

open Loopback in
/-- Take a strand whose reader runs alone on a socket end that reads frames of at most `n` bytes,
with its peer closed or held by a raw link. Successive receives give the envelopes in its inbox
and then those of the frames not yet read, in order: the frames before the first one that ends
the stream (a close frame, a frame above `n` bytes, a ping above the control limit, or a ping
once the peer has closed) that read as envelopes of the strand. When the stream has ended they then give one
report that the connection closed and reports of no connection from then on, after which a send
of the strand's envelopes finds no connection; before it ends they find nothing. While the peer
is open, any interleaving of its frames and the receives answers as a feed of those envelopes.
While the strand has its link, a send writes the envelope's text as one frame to the peer, or
fails with a broken pipe once the peer has closed. -/
theorem link_delivers_then_closes (w : Loopback) (side : Side) (s : String) (a : Attachment)
    (b : Bool) (n cap : Nat) (q : List Envelope) (fs : List Frame)
    (h : Follows side s a b n cap w (.reading q fs)) (hcap : 0 < cap) (j : Nat) (m : Envelope)
    (hm : m.strand = s) :
    let L := q ++ passedOn s b n fs
    (receiveRun side s (L.length + 1 + j) w).1 =
        L.map (.ok ∘ some) ++
          (if streamEnds b n fs then .error (.closed s) :: List.replicate j (.error (.noConnection s))
          else List.replicate (j + 1) (.ok none)) ∧
      (streamEnds b n fs = true →
        ((receiveRun side s (L.length + 1 + j) w).2.send side m).1 = .error (.noConnection s)) ∧
      (b = true → ∀ evs, runEvents side s (peerOf a.socket) w evs =
        Feed.run s n ⟨L, streamEnds b n fs, false⟩ evs) ∧
      (w.isConnected side s = true →
        (w.send side m).1 = (if b then .ok () else .error (.webSocket brokenPipe)) ∧
        (b = true → (w.send side m).2 = w.modifyEnd (peerOf a.socket)
          fun x => { x with incoming := x.incoming ++ [.text m.encode] })) := by
  intro L
  obtain ⟨hrun, hclosed⟩ := h.receiveRun_pending hcap (by simp) j
  refine ⟨hrun, fun hend => ?_, fun hb evs => ?_, fun hc => h.send_linked hc hm⟩
  · exact congrArg Prod.fst ((hclosed hend).send_stopped (.inl rfl) hm)
  · subst hb
    exact h.runEvents_feed hcap evs

/-- A link dialed for strand `x` between endpoints that read frames of at most one hundred
bytes: the client sends three envelopes, the second above the limit, and drops. The server's
reader runs alone on its end with the peer closed, and its receives give the first envelope and
then the end of the connection; the third envelope, behind the oversized frame, is lost. -/
theorem link_delivers_then_closes_over_a_dialed_link :
    let m₁ := Envelope.make "1" "x" "first" 0
    let m₂ := Envelope.make "2" "x" "a frame of more than one hundred bytes in all" 0
    let m₃ := Envelope.make "3" "x" "third" 0
    let fs := [Frame.text m₁.encode, .text m₂.encode, .text m₃.encode]
    let w₀ : Loopback :=
      { server := some (Endpoint.withLimits 1 100), client := some (Endpoint.withLimits 1 100) }
    let w₁ := ((w₀.newPair 100 100).1.attach .server "x" 0).attach .client "x" 1
    let w := ((((w₁.send .client m₁).2.send .client m₂).2.send .client m₃).2).drop .client
    w₀.link "x" = .ok w₁ ∧ Loopback.Follows .server "x" ⟨1, 0⟩ false 100 1 w (.reading [] fs) ∧
      0 < 1 ∧ m₁.strand = "x" ∧ passedOn "x" false 100 fs = [m₁] ∧
      (Loopback.receiveRun .server "x" 3 w).1 =
        [.ok (some m₁), .error (.closed "x"), .error (.noConnection "x")] := by
  intro m₁ m₂ m₃ fs w₀ w₁ w
  have hF : Loopback.Follows .server "x" ⟨1, 0⟩ false 100 1 w (.reading [] fs) :=
    Loopback.follows_after_attach (e := Endpoint.withLimits 1 100) rfl rfl rfl
      (fun _ h => by cases h) (by decide) rfl (by decide) (by decide) (.inl rfl) rfl
  -- the first frame is within the limit and carries the envelope; the second is above it
  have hpass : passedOn "x" false 100 fs = [m₁] := by
    have henv : (Frame.text m₁.encode).envelopeFor "x" = some m₁ :=
      Frame.envelopeFor_text_encode rfl (by decide) (by decide)
    have h₁ : (Frame.text m₁.encode).endsStream false 100 = false := by decide
    have h₂ : (Frame.text m₂.encode).endsStream false 100 = true := by decide
    simp only [fs, passedOn_cons, h₁, h₂, henv]
    simp
  have hrun := (link_delivers_then_closes w .server "x" ⟨1, 0⟩ false 100 1 [] fs hF (by decide) 1
    m₁ rfl).1
  simp only [List.nil_append, hpass, streamEnds, Bool.not_false, Bool.or_true, if_true] at hrun
  exact ⟨rfl, hF, by decide, rfl, hpass, hrun⟩

/-- A raw pair for strand `x` whose peer sends a ping and an envelope and then drops without a
close frame. The reader reaches the ping only after the peer has gone, cannot answer it, and
stops: the receives report the end of the connection and then no connection, and the envelope is
lost, where a reader that skipped the ping would have passed it on. -/
theorem ping_after_the_peer_left_ends_the_stream :
    let m := Envelope.make "1" "x" "after ping" 1
    let w₀ : Loopback := { server := some (Endpoint.make 100), client := some (Endpoint.make 100) }
    let w₁ := (((w₀.newPair plainFrameLimit plainFrameLimit).1.attach .server "x" 0).putRaw "r"
      { socket := 1 }).closeLoose
    let w₂ := ((w₁.rawSend "r" (.ping "p")).2.rawSend "r" (.text m.encode)).2
    let w := ({ w₂ with raws := w₂.raws.erase "r" } : Loopback).closeLoose
    w₂.rawDrop "r" = .ok w ∧
      (Loopback.receiveRun .server "x" 2 w).1 =
        [.error (.closed "x"), .error (.noConnection "x")] ∧
      passedOn "x" true plainFrameLimit [.ping "p", .text m.encode] = [m] := by
  intro m w₀ w₁ w₂ w
  refine ⟨rfl, ?_, ?_⟩
  · -- the peer has closed, so the ping ends the stream before the envelope
    have hF : Loopback.Follows .server "x" ⟨1, 0⟩ false plainFrameLimit 100 w
        (.reading [] [.ping "p", .text m.encode]) :=
      Loopback.follows_after_attach (e := Endpoint.make 100) rfl rfl rfl (fun _ h => by cases h; rfl)
        (by decide) rfl (by decide) (by decide) (.inl rfl) rfl
    have hrun := (hF.receiveRun_pending (by decide) (by simp) 1).1
    simpa [LinkPhase.pending, LinkPhase.ended, passedOn, streamEnds, Frame.endsStream] using hrun
  · have henv : (Frame.text m.encode).envelopeFor "x" = some m :=
      Frame.envelopeFor_text_encode rfl (by decide) (by decide)
    have hping : (Frame.ping "p").endsStream true plainFrameLimit = false := by decide
    have htext : (Frame.text m.encode).endsStream true plainFrameLimit = false := by decide
    simp only [passedOn_cons, hping, htext, henv]
    simp [Frame.envelopeFor]

end WebSocket

end Courier
