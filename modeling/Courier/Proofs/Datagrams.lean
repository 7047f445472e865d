import Mathlib
import Courier.Transport.Datagram
import Courier.Proofs.WireForm

/-!
# Datagrams: the size limit and the strand filter

A datagram transport refuses an envelope whose wire form is longer than its limit, in bytes, and
sends nothing then; otherwise it hands the system exactly one datagram, the bytes of the wire
form, and sends it unless the system refuses it (`transmit_of_gt`, `transmit_of_le_of_none`,
`transmit_of_le_of_some`). The limit is the configured one clamped to `1 ..= 65536`.

A datagram is read through its text: the bytes of a text read as the text does
(`read_ok_iff`, `read_of_error`), and bytes that are not UTF-8 are refused
(`read_of_not_valid`). Reading for a strand walks the arrived datagrams in order: a datagram
holding an envelope of another strand is dropped, and the first one holding no envelope, or an
envelope of the strand, is taken and read (`receive_append_cons`); when there is none, every
datagram is taken and the read waits (`receive_of_others`). So a datagram sent for an envelope
and read on its strand, with only other strands' envelopes ahead of it, gives the envelope back.
-/

namespace Courier.Datagram

/-- A datagram holding an envelope of another strand than `s`. -/
def OtherStrand (s : String) (data : ByteArray) : Prop := ∃ m, read data = .ok m ∧ m.strand ≠ s

/-- The limit is the configured one clamped to `1 ..= 65536`. -/
theorem make_limit (L : Nat) : (make L).limit = max 1 (min L 65536) := by
  simp only [make, largest]
  omega

/-! ## Text and its bytes -/

/-- A string's bytes read back as the string. -/
theorem fromUTF8?_toUTF8 (text : String) : String.fromUTF8? text.toUTF8 = some text := by
  unfold String.fromUTF8?
  rw [String.toUTF8_eq_toByteArray, dif_pos text.isValidUTF8]
  rfl

/-- Bytes that read as a string are that string's bytes. -/
theorem toUTF8_of_fromUTF8? {data : ByteArray} {text : String}
    (h : String.fromUTF8? data = some text) : text.toUTF8 = data := by
  unfold String.fromUTF8? at h
  split at h
  · cases h
    rfl
  · contradiction

/-! ## Sending -/

section Sending

variable {d : Datagram} {sock : Socket} {m : Envelope}

/-- The transport measures the wire form by its byte size and hands its bytes to the system. -/
theorem transmit_eq : d.transmit sock m =
    if d.limit < m.encode.utf8ByteSize then
      (.error (.packetTooLarge m.encode.utf8ByteSize d.limit), sock)
    else (sock.refusal m.encode.toUTF8).elim
      (.ok (), { sock with sent := sock.sent ++ [m.encode.toUTF8] }) fun r => (.error (.io r), sock) :=
  rfl

theorem transmit_of_gt (h : d.limit < m.encode.utf8ByteSize) :
    d.transmit sock m = (.error (.packetTooLarge m.encode.utf8ByteSize d.limit), sock) := by
  rw [transmit_eq, if_pos h]

theorem transmit_of_le_of_none (h : m.encode.utf8ByteSize ≤ d.limit)
    (hs : sock.refusal m.encode.toUTF8 = none) :
    d.transmit sock m = (.ok (), { sock with sent := sock.sent ++ [m.encode.toUTF8] }) := by
  rw [transmit_eq, if_neg (Nat.not_lt.2 h), hs, Option.elim_none]

theorem transmit_of_le_of_some {r : String} (h : m.encode.utf8ByteSize ≤ d.limit)
    (hs : sock.refusal m.encode.toUTF8 = some r) : d.transmit sock m = (.error (.io r), sock) := by
  rw [transmit_eq, if_neg (Nat.not_lt.2 h), hs, Option.elim_some]

/-- The transport answers `packetTooLarge` exactly when the wire form is over the limit. -/
theorem packetTooLarge_iff :
    (∃ n l, (d.transmit sock m).1 = .error (.packetTooLarge n l)) ↔
      d.limit < m.encode.utf8ByteSize := by
  constructor
  · rintro ⟨n, l, h⟩
    by_contra hle
    cases hs : sock.refusal m.encode.toUTF8 with
    | none => simp [transmit_of_le_of_none (Nat.not_lt.1 hle) hs] at h
    | some r => simp [transmit_of_le_of_some (Nat.not_lt.1 hle) hs] at h
  · intro h
    exact ⟨_, _, by rw [transmit_of_gt h]⟩

end Sending

/-! ## Receiving -/

section Receiving

variable {sock : Socket} {s text : String} {data : ByteArray}

/-- The bytes of a text read as the text does. -/
theorem read_toUTF8 (text : String) :
    read text.toUTF8 = (Envelope.decode text).mapError fun e => .serialization e.message := by
  simp only [read, fromUTF8?_toUTF8]

theorem read_ok_iff {m : Envelope} : read text.toUTF8 = .ok m ↔ Envelope.decode text = .ok m := by
  rw [read_toUTF8]
  cases Envelope.decode text <;> simp [Except.mapError]

theorem read_of_error {e : Json.ReadError} (h : Envelope.decode text = .error e) :
    read text.toUTF8 = .error (.serialization e.message) := by
  rw [read_toUTF8, h]
  rfl

/-- Bytes that are not UTF-8 hold no envelope: the read refuses them. -/
theorem read_of_not_valid (h : ¬ data.IsValidUTF8) :
    read data = .error (.serialization notText) := by
  simp only [read, String.fromUTF8?, dif_neg h]

/-- A datagram ends a read exactly when it holds no envelope of another strand. -/
theorem ends_iff : ends s data = true ↔ ∀ m, read data = .ok m → m.strand = s := by
  cases h : read data with
  | error e => simp [ends, h, Except.toOption]
  | ok m' => simp [ends, h, Except.toOption]

theorem ends_eq_false (h : OtherStrand s data) : ends s data = false := by
  obtain ⟨m, hm, hne⟩ := h
  cases he : ends s data with
  | false => rfl
  | true => exact absurd (ends_iff.1 he m hm) hne

/-- A datagram that does not end a read holds an envelope of another strand. -/
theorem otherStrand_of_ends_eq_false (h : ends s data = false) : OtherStrand s data := by
  cases hd : read data with
  | error e => simp [ends, hd, Except.toOption] at h
  | ok m => exact ⟨m, hd, by simpa [ends, hd, Except.toOption] using h⟩

/-- Datagrams of other strands ahead of the first that ends the read are dropped, and that one
is taken and read. -/
theorem receive_append_cons {pre post : List ByteArray} (hpre : ∀ x ∈ pre, OtherStrand s x)
    (hend : ends s data = true) :
    receive { sock with arrived := pre ++ data :: post } s =
      (some (read data), { sock with arrived := post }) := by
  have hdrop : (pre ++ data :: post).dropWhile (fun t => !ends s t) = data :: post := by
    rw [List.dropWhile_append_of_pos fun x hx => by simp [ends_eq_false (hpre x hx)],
      List.dropWhile_cons_of_neg (by simp [hend])]
  simp only [receive, hdrop, List.head?_cons, Option.map_some, List.tail_cons]

/-- When every arrived datagram holds an envelope of another strand, the read takes them all and
waits. -/
theorem receive_of_others {ds : List ByteArray} (hds : ∀ x ∈ ds, OtherStrand s x) :
    receive { sock with arrived := ds } s = (none, { sock with arrived := [] }) := by
  have hdrop : ds.dropWhile (fun t => !ends s t) = [] := by
    have h : (ds ++ []).dropWhile (fun t => !ends s t) = ([] : List ByteArray).dropWhile
        (fun t => !ends s t) :=
      List.dropWhile_append_of_pos fun x hx => by simp [ends_eq_false (hds x hx)]
    simpa using h
  simp only [receive, hdrop, List.head?_nil, Option.map_none, List.tail_nil]

/-- The arrived datagrams either hold a first one that ends the read, behind datagrams of other
strands only, or are all of other strands. -/
theorem arrived_cases (ds : List ByteArray) :
    (∃ pre data post, ds = pre ++ data :: post ∧ (∀ x ∈ pre, OtherStrand s x) ∧
      ends s data = true) ∨ ∀ x ∈ ds, OtherStrand s x := by
  induction ds with
  | nil => exact .inr (by simp)
  | cons x rest ih =>
    cases hx : ends s x with
    | true => exact .inl ⟨[], x, rest, rfl, by simp, hx⟩
    | false =>
      have hother := otherStrand_of_ends_eq_false hx
      rcases ih with ⟨pre, data, post, rfl, hpre, hend⟩ | hall
      · exact .inl ⟨x :: pre, data, post, rfl, List.forall_mem_cons.2 ⟨hother, hpre⟩, hend⟩
      · exact .inr (List.forall_mem_cons.2 ⟨hother, hall⟩)

/-- The wire form of an envelope with a 64-bit timestamp, as a datagram, holds the envelope. -/
theorem read_encode {m : Envelope} (h1 : Envelope.minTimestamp ≤ m.timestamp)
    (h2 : m.timestamp ≤ Envelope.maxTimestamp) : read m.encode.toUTF8 = .ok m :=
  read_ok_iff.2 (Envelope.decode_encode m h1 h2)

end Receiving

/-- A datagram transport configured with the limit `L`, over any socket. Its limit is `L` clamped
to `1 ..= 65536`. An envelope whose wire form is longer than the limit, in bytes, is refused as
`packetTooLarge` with that length and the limit, and nothing goes out; any other goes out as
exactly one datagram, its wire form, unless the system refuses it, which is then an `io` error
with the system's report. Reading for the strand `s` the arrived datagrams `ds`: either a first
datagram holds no envelope or one of `s`, with only envelopes of other strands ahead of it, and
the read drops those, takes it and answers with what it holds (the envelope, or the reader's
error as `serialization`); or every datagram holds an envelope of another strand, and the read
takes them all and waits. The bytes of a text hold what the text reads as, and bytes that are
not UTF-8 hold the reader's error. An envelope with a 64-bit timestamp, sent as a datagram and
read on its strand behind envelopes of other strands only, comes back as it was. -/
theorem datagrams_keep_the_limit_and_the_strand (L : Nat) (sock : Socket) (m : Envelope)
    (s : String) (ds : List ByteArray) :
    let d := make L
    let size := m.encode.utf8ByteSize
    d.limit = max 1 (min L 65536) ∧
    ((∃ n l, (d.transmit sock m).1 = .error (.packetTooLarge n l)) ↔ d.limit < size) ∧
    (d.limit < size → d.transmit sock m = (.error (.packetTooLarge size d.limit), sock)) ∧
    (size ≤ d.limit → sock.refusal m.encode.toUTF8 = none →
      d.transmit sock m = (.ok (), { sock with sent := sock.sent ++ [m.encode.toUTF8] })) ∧
    (∀ r, size ≤ d.limit → sock.refusal m.encode.toUTF8 = some r →
      d.transmit sock m = (.error (.io r), sock)) ∧
    ((∃ pre data post, ds = pre ++ data :: post ∧ (∀ x ∈ pre, OtherStrand s x) ∧
        (∀ m', read data = .ok m' → m'.strand = s) ∧
        receive { sock with arrived := ds } s = (some (read data), { sock with arrived := post })) ∨
      ((∀ x ∈ ds, OtherStrand s x) ∧
        receive { sock with arrived := ds } s = (none, { sock with arrived := [] }))) ∧
    (∀ text, (∀ m', read text.toUTF8 = .ok m' ↔ Envelope.decode text = .ok m') ∧
      ∀ e, Envelope.decode text = .error e → read text.toUTF8 = .error (.serialization e.message)) ∧
    (∀ data : ByteArray, ¬ data.IsValidUTF8 → read data = .error (.serialization notText)) ∧
    (Envelope.minTimestamp ≤ m.timestamp → m.timestamp ≤ Envelope.maxTimestamp →
      ∀ pre post, (∀ x ∈ pre, OtherStrand m.strand x) →
        receive { sock with arrived := pre ++ m.encode.toUTF8 :: post } m.strand =
          (some (.ok m), { sock with arrived := post })) := by
  intro d size
  refine ⟨make_limit L, packetTooLarge_iff, transmit_of_gt, transmit_of_le_of_none,
    fun _ => transmit_of_le_of_some, ?_, fun _ => ⟨fun _ => read_ok_iff, fun _ => read_of_error⟩,
    fun _ => read_of_not_valid, ?_⟩
  · rcases arrived_cases (s := s) ds with ⟨pre, data, post, rfl, hpre, hend⟩ | hall
    · exact .inl ⟨pre, data, post, rfl, hpre, ends_iff.1 hend, receive_append_cons hpre hend⟩
    · exact .inr ⟨hall, receive_of_others hall⟩
  · intro h1 h2 pre post hpre
    have hread := read_encode h1 h2
    -- the envelope's own datagram holds an envelope of its strand, so it ends the read
    have hend : ends m.strand m.encode.toUTF8 = true := ends_iff.2 fun m' h => by
      rw [hread] at h
      cases h
      rfl
    rw [receive_append_cons hpre hend, hread]

/-- Two envelopes arrive, one for another strand and then one for `events`: a read on `events`
drops the first and gives back the second. -/
theorem datagrams_keep_the_limit_and_the_strand_behind_noise :
    receive { Socket.unrouted with
        arrived := [(Envelope.make "1" "noise" "skip me" 0).encode.toUTF8,
          (Envelope.make "2" "events" "keep me" 0).encode.toUTF8] } "events" =
      (some (.ok (Envelope.make "2" "events" "keep me" 0)), { Socket.unrouted with arrived := [] }) :=
  (datagrams_keep_the_limit_and_the_strand 1400 Socket.unrouted
    (Envelope.make "2" "events" "keep me" 0) "events" []).2.2.2.2.2.2.2.2 (by decide) (by decide)
    [(Envelope.make "1" "noise" "skip me" 0).encode.toUTF8] []
    fun x hx => by
      rw [List.mem_singleton.1 hx]
      exact ⟨_, read_encode (by decide) (by decide), by decide⟩

/-- A datagram that is not UTF-8 ends a read with the reader's error. -/
example : (receive { Socket.unrouted with arrived := [ByteArray.mk #[0xff]] } "events").1 =
    some (.error (.serialization notText)) := by
  decide

end Courier.Datagram
