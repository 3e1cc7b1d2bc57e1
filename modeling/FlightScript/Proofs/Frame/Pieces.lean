import FlightScript.Frame
import Mathlib.Tactic.Lemma
/-!
# Reading a stream in pieces

A stream of frames arrives in whatever pieces the link hands on: a piece may end inside a header or
a payload, may hold several frames, and may be empty.  Here it is shown that none of this matters.
Adding the pieces one after another, and reading after each of them all that is whole, gives the
packets, the verdict and the unread octets that the stream gives in one piece.

## What carries the proof

What a decoder remembers is the unread end of the stream and nothing else.  So everything follows
from how `Frame.drain` behaves on a stream that grows (`drain_append`): it takes the same packets
off the front, and goes on from what it had left unread.  That in turn needs two facts about a
single frame: a frame that is whole stays whole and the same when more arrives (`decode_append`),
and a fault stays in front for good (`decode_append_of_error`).

`Decoder.drain` reads a whole buffer at once.  `Decoder.readAll` is the reader that a station serves
its connection with, asking for one packet after another until there is none; the two agree
(`readAll_eq_drain`).
-/

namespace FlightScript

namespace Frame

variable {stream rest : Bytes} {packet : Packet} {e : Error}

/-! ## One frame in a stream that grows -/

/-- A whole frame in front is read the same way, whatever follows it. -/
lemma decode_append (h : decode stream = .ok (some (packet, rest))) (more : Bytes) :
    decode (stream ++ more) = .ok (some (packet, rest ++ more)) := by
  obtain ⟨rfl, hfits⟩ := eq_octets_append_of_decode h
  rw [List.append_assoc]
  exact decode_octets_append hfits (rest ++ more)

/-- The only fault of a stream is a length that no frame has; it is judged on the header alone. -/
lemma decode_eq_error_iff :
    decode stream = .error e ↔ ∃ port high low payload,
      stream = port :: high :: low :: payload ∧
        Limits.framePayload < (Bytes.toUInt16 high low).toNat ∧
          e = .invalidLength (Bytes.toUInt16 high low) := by
  constructor
  · intro h
    unfold decode at h
    split at h
    · next port high low payload =>
      simp only at h
      split at h
      · next hlong =>
        injection h with h
        exact ⟨port, high, low, payload, rfl, hlong, h.symm⟩
      · split at h <;> cases h
    · cases h
  · rintro ⟨port, high, low, payload, rfl, hlong, rfl⟩
    simp only [decode]
    rw [if_pos hlong]

/-- A fault stays, whatever arrives behind it. -/
lemma decode_append_of_error (h : decode stream = .error e) (more : Bytes) :
    decode (stream ++ more) = .error e := by
  obtain ⟨port, high, low, payload, rfl, hlong, rfl⟩ := decode_eq_error_iff.1 h
  exact decode_eq_error_iff.2 ⟨port, high, low, payload ++ more, rfl, hlong, rfl⟩

/-! ## Draining a stream that grows -/

lemma drain_of_error (h : decode stream = .error e) : drain stream = ⟨[], some e, stream⟩ := by
  rw [drain]
  split <;> simp_all

lemma drain_of_none (h : decode stream = .ok none) : drain stream = ⟨[], none, stream⟩ := by
  rw [drain]
  split <;> simp_all

lemma drain_of_some (h : decode stream = .ok (some (packet, rest))) :
    drain stream = { drain rest with packets := packet :: (drain rest).packets } := by
  rw [drain]
  split <;> simp_all

/-- **A longer stream is drained in two steps**: the packets that were whole before, and then
whatever the octets left unread give together with what has been added. -/
lemma drain_append (front back : Bytes) :
    drain (front ++ back) =
      { drain ((drain front).rest ++ back) with
        packets := (drain front).packets ++ (drain ((drain front).rest ++ back)).packets } := by
  induction front using drain.induct with
  | case1 front e h => simp [drain_of_error h]
  | case2 front h => simp [drain_of_none h]
  | case3 front packet rest h ih =>
    rw [drain_of_some h, drain_of_some (decode_append h back), ih]
    simp

/-- What is left unread holds no further packet, and shows the same fault again. -/
lemma drain_rest (stream : Bytes) :
    drain (drain stream).rest = ⟨[], (drain stream).fault, (drain stream).rest⟩ := by
  induction stream using drain.induct with
  | case1 stream e h => simp [drain_of_error h]
  | case2 stream h => simp [drain_of_none h]
  | case3 stream packet rest h ih =>
    rw [drain_of_some h]
    exact ih

end Frame

namespace Decoder

variable {decoder : Decoder} {e : Frame.Error}

/-! ## The reader of a connection -/

lemma next_of_error (h : Frame.decode decoder.buffered = .error e) :
    decoder.next = (.error e, decoder) := by
  simp [next, h]

/-- A decoder that reports a fault has read nothing, and is as it was. -/
lemma next_eq_error (h : decoder.next.1 = .error e) :
    Frame.decode decoder.buffered = .error e ∧ decoder.next.2 = decoder := by
  unfold next at h ⊢
  split at h
  · next hread =>
    cases h
    simp [hread]
  · cases h
  · cases h

lemma length_of_next {after : Decoder} {packet : Packet}
    (h : decoder.next = (.ok (some packet), after)) :
    after.buffered.length < decoder.buffered.length := by
  unfold next at h
  split at h
  · cases h
  · cases h
  · next found rest hread =>
    obtain ⟨-, rfl⟩ := Prod.mk.inj h
    have hlength := Frame.length_of_decode hread
    simp only [Frame.headerLength] at hlength
    simp only
    omega

/-- Asks for packets until there is none or the stream is at fault: the packets, the verdict and the
decoder afterwards. -/
def readAll (decoder : Decoder) : List Packet × Option Frame.Error × Decoder :=
  match _h : decoder.next with
  | (.error e, after) => ([], some e, after)
  | (.ok none, after) => ([], none, after)
  | (.ok (some packet), after) =>
    let (packets, verdict, last) := readAll after
    (packet :: packets, verdict, last)
termination_by decoder.buffered.length
decreasing_by exact length_of_next _h

/-- Draining a buffer, told by the answers of `next`. -/
lemma drain_eq (decoder : Decoder) :
    decoder.drain =
      match decoder.next with
      | (.error e, after) => ([], some e, after)
      | (.ok none, after) => ([], none, after)
      | (.ok (some packet), after) =>
        let (packets, verdict, last) := after.drain
        (packet :: packets, verdict, last) := by
  unfold next drain
  cases h : Frame.decode decoder.buffered with
  | error e => simp [Frame.drain_of_error h]
  | ok found =>
    cases found with
    | none => simp [Frame.drain_of_none h]
    | some found => simp [Frame.drain_of_some h]

/-- Asking for one packet after another drains the buffer. -/
lemma readAll_eq_drain (decoder : Decoder) : decoder.readAll = decoder.drain := by
  induction decoder using readAll.induct with
  | case1 decoder e after h => rw [readAll, drain_eq, h]
  | case2 decoder after h => rw [readAll, drain_eq, h]
  | case3 decoder packet after h _ _ _ _ ih =>
    rw [readAll, drain_eq, h]
    simp only [ih]

/-! ## Pieces -/

/-- One more piece: it is added to the buffer, and then all that is whole is read.  The verdict is that
of this reading. -/
def readPiece : List Packet × Option Frame.Error × Decoder → Bytes →
    List Packet × Option Frame.Error × Decoder
  | (packets, _, decoder), piece =>
    let (more, verdict, after) := (decoder.feed piece).readAll
    (packets ++ more, verdict, after)

/-- A stream that arrives in pieces. -/
def readPieces (decoder : Decoder) (pieces : List Bytes) :
    List Packet × Option Frame.Error × Decoder :=
  pieces.foldl readPiece ([], none, decoder)

/-- Adding a piece and draining, after what came before it was drained, is draining all of it. -/
lemma drain_feed_append (decoder : Decoder) (front back : Bytes) :
    (decoder.feed (front ++ back)).drain =
      let (packets, _, after) := (decoder.feed front).drain
      let (more, verdict, last) := (after.feed back).drain
      (packets ++ more, verdict, last) := by
  simp only [drain, feed, ← List.append_assoc]
  rw [Frame.drain_append]

/-- A decoder that was drained gives nothing more until something is added. -/
lemma drain_drain (decoder : Decoder) :
    decoder.drain.2.2.drain = ([], decoder.drain.2.1, decoder.drain.2.2) := by
  simp only [drain, Frame.drain_rest]

/-- The run over the pieces.  At every piece the decoder holds just the unread end of what has
arrived, so the verdict so far is the one it would give again. -/
lemma foldl_readPiece (pieces : List Bytes) {packets : List Packet} {verdict : Option Frame.Error}
    {decoder : Decoder} (hread : decoder.drain = ([], verdict, decoder)) :
    pieces.foldl readPiece (packets, verdict, decoder) =
      let (more, verdict, last) := (decoder.feed pieces.flatten).drain
      (packets ++ more, verdict, last) := by
  induction pieces generalizing packets verdict decoder with
  | nil => simp [hread]
  | cons piece pieces ih =>
    have hafter := drain_drain (decoder.feed piece)
    rw [List.foldl_cons, readPiece, readAll_eq_drain, ih hafter, List.flatten_cons,
      drain_feed_append]
    simp only [List.append_assoc]

/-! ## Faults -/

/-- What the owner of a decoder does with it. -/
inductive Call where
  | feed (piece : Bytes)
  | next
  deriving DecidableEq, Repr

/-- The answers to the calls of `next` among some calls, in order. -/
def answers : Decoder → List Call → List (Except Frame.Error (Option Packet))
  | _, [] => []
  | decoder, .feed piece :: calls => (decoder.feed piece).answers calls
  | decoder, .next :: calls => decoder.next.1 :: decoder.next.2.answers calls

/-- A decoder whose buffer is at fault answers every call alike. -/
lemma answers_of_error (calls : List Call) (h : Frame.decode decoder.buffered = .error e) :
    ∀ answer ∈ decoder.answers calls, answer = .error e := by
  induction calls generalizing decoder with
  | nil => simp [answers]
  | cons call calls ih =>
    cases call with
    | feed piece => exact ih (Frame.decode_append_of_error h piece)
    | next =>
      simp only [answers, next_of_error h, List.forall_mem_cons, true_and]
      exact ih h

/-- **Pieces do not matter.**  A stream that arrives in any pieces gives the packets, the verdict and
the unread octets that it gives at once; and after a decoder has reported a fault, every answer of it
is that fault again, whatever is added. -/
theorem readPieces_eq_readAll :
    (∀ pieces : List Bytes,
      readPieces {} pieces = (feed {} pieces.flatten).readAll) ∧
    ∀ (decoder : Decoder) (e : Frame.Error), decoder.next.1 = .error e →
      ∀ calls, ∀ answer ∈ decoder.next.2.answers calls, answer = .error e := by
  constructor
  · intro pieces
    have hnew : drain {} = ([], none, {}) := by
      have hempty : Frame.decode [] = .ok none := rfl
      simp [drain, Frame.drain_of_none hempty]
    rw [readPieces, foldl_readPiece pieces hnew, readAll_eq_drain]
    simp
  · intro decoder e h calls
    obtain ⟨hfault, hsame⟩ := next_eq_error h
    rw [hsame]
    exact answers_of_error calls hfault

/-- A header that is cut twice and whose length no frame has, behind a packet that is cut too. -/
theorem readPieces_cut_header :
    readPieces {} [[1, 0], [2, 0x68, 0x69, 9], [], [0xFF, 0xFF, 7]] =
        ([⟨⟨1⟩, [0x68, 0x69]⟩], some (.invalidLength 65535), ⟨[9, 0xFF, 0xFF, 7]⟩) ∧
      (next ⟨[9, 0xFF, 0xFF, 7]⟩).1 = .error (.invalidLength 65535) ∧
      ∀ answer ∈ (next ⟨[9, 0xFF, 0xFF, 7]⟩).2.answers [.next, .feed [0, 0], .next],
        answer = .error (.invalidLength 65535) := by
  have hfault : (next ⟨[9, 0xFF, 0xFF, 7]⟩).1 = .error (.invalidLength 65535) := rfl
  refine ⟨(readPieces_eq_readAll.1 _).trans ?_, hfault, readPieces_eq_readAll.2 _ _ hfault _⟩
  cbv

end Decoder

end FlightScript
