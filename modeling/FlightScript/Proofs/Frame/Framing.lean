import FlightScript.Proofs.Frame.Pieces
/-!
# Frames, written and read

What is written by `Encoder` is read by `Decoder`, and whatever `Decoder` reads was a frame.  The
first half says that any packets a frame can carry come back, in order, in front of any further
octets.  The second half starts from octets that nobody need have written as frames: reading them
splits them into whole frames and a rest, and the rest is either the beginning of a frame or a header
whose length no frame has.

## Reading as steps

`Decoder.Reads` relates a decoder to what it is after some packets were asked for, one call of
`Decoder.next` a packet.  Both halves are about such runs, so that "reading comes to an end" is a
statement (`Decoder.reads_drain`, with what the last call finds in `decode_rest_drain`) and not only a
fact about how `Frame.drain` is defined.

## The beginning of a frame

`IsUnfinished` is what a stream shows that has no whole frame in front and no fault.  Two octets can
already exclude every frame that could be sent, since they hold the greater half of the length; the
length is judged only once the header is complete, so they still count as unfinished.
-/

namespace FlightScript

namespace Frame

variable {stream : Bytes} {e : Error}

/-! ## The header -/

/-- The length that the header in front of a stream declares, once the header is complete. -/
def declaredLength? : Bytes → Option UInt16
  | _ :: high :: low :: _ => some (Bytes.toUInt16 high low)
  | _ => none

lemma declaredLength?_eq_some_iff {length : UInt16} :
    declaredLength? stream = some length ↔ ∃ port high low payload,
      stream = port :: high :: low :: payload ∧ Bytes.toUInt16 high low = length := by
  constructor
  · intro h
    unfold declaredLength? at h
    split at h
    · next port high low payload =>
      exact ⟨port, high, low, payload, rfl, Option.some.inj h⟩
    · cases h
  · rintro ⟨port, high, low, payload, rfl, rfl⟩
    rfl

lemma declaredLength?_eq_none_iff : declaredLength? stream = none ↔ stream.length < headerLength := by
  unfold declaredLength?
  split
  · simp [headerLength]
  · next hshort =>
    -- what is left are the streams of at most two octets
    obtain _ | ⟨port, _ | ⟨high, _ | ⟨low, payload⟩⟩⟩ := stream
    · simp [headerLength]
    · simp [headerLength]
    · simp [headerLength]
    · exact absurd rfl (hshort port high low payload)

/-- The beginning of a frame: not even a header, or a header that declares a length which a frame can
have, and not all of the payload. -/
def IsUnfinished (stream : Bytes) : Prop :=
  stream.length < headerLength ∨
    ∃ length : UInt16, declaredLength? stream = some length ∧
      length.toNat ≤ Limits.framePayload ∧ stream.length < headerLength + length.toNat

/-- There is nothing to read yet exactly from the beginning of a frame. -/
lemma decode_eq_none_iff : decode stream = .ok none ↔ IsUnfinished stream := by
  unfold decode
  split
  · next port high low payload =>
    have hheader : declaredLength? (port :: high :: low :: payload) =
        some (Bytes.toUInt16 high low) := rfl
    simp only [IsUnfinished, hheader, Option.some.injEq, exists_eq_left', headerLength,
      List.length_cons, List.length_take]
    split
    · next hlong =>
      constructor
      · intro h
        cases h
      · intro h
        omega
    · next hfits =>
      split
      · next hshort =>
        simp only [true_iff]
        omega
      · next hwhole =>
        constructor
        · intro h
          cases h
        · intro h
          omega
  · next hshort =>
    have hnone : declaredLength? stream = none := by
      unfold declaredLength?
      split
      · exact absurd rfl (hshort _ _ _ _)
      · rfl
    simp only [true_iff]
    exact .inl (declaredLength?_eq_none_iff.1 hnone)

/-- A fault is a header that declares more than a frame can carry, and names that length. -/
lemma decode_eq_error_iff_declaredLength? :
    decode stream = .error e ↔ ∃ length, declaredLength? stream = some length ∧
      Limits.framePayload < length.toNat ∧ e = .invalidLength length := by
  simp only [decode_eq_error_iff, declaredLength?_eq_some_iff]
  constructor
  · rintro ⟨port, high, low, payload, rfl, hlong, rfl⟩
    exact ⟨_, ⟨port, high, low, payload, rfl, rfl⟩, hlong, rfl⟩
  · rintro ⟨_, ⟨port, high, low, payload, rfl, rfl⟩, hlong, rfl⟩
    exact ⟨port, high, low, payload, rfl, hlong, rfl⟩

/-- The beginning of a frame is never as long as the longest frame. -/
lemma IsUnfinished.length_lt (h : IsUnfinished stream) :
    stream.length < headerLength + Limits.framePayload := by
  obtain hheader | ⟨length, -, hfits, hshort⟩ := h
  · exact Nat.lt_add_right _ hheader
  · omega

/-- A header and some of its payload, filled up with zeros, are a frame. -/
lemma octets_filled {port high low : UInt8} {payload : Bytes}
    (h : payload.length ≤ (Bytes.toUInt16 high low).toNat) :
    octets ⟨⟨port⟩, payload ++ List.replicate ((Bytes.toUInt16 high low).toNat - payload.length) 0⟩ =
      port :: high :: low :: payload ++
        List.replicate ((Bytes.toUInt16 high low).toNat - payload.length) 0 := by
  have hlength : payload.length + ((Bytes.toUInt16 high low).toNat - payload.length) =
      (Bytes.toUInt16 high low).toNat := by omega
  simp only [octets, List.length_append, List.length_replicate, hlength, Nat.toUInt16_eq,
    UInt16.ofNat_toNat, Bytes.ofUInt16_toUInt16, List.cons_append, List.nil_append]

/-- The beginning of a frame is continued to one, of the length that it declares if it does. -/
lemma IsUnfinished.exists_octets (h : IsUnfinished stream) :
    ∃ (packet : Packet) (missing : Bytes), octets packet = stream ++ missing ∧ missing ≠ [] ∧
      ∀ length, declaredLength? stream = some length →
        packet.payload.length = length.toNat ∧ packet.payload.length ≤ Limits.framePayload := by
  obtain _ | ⟨port, _ | ⟨high, _ | ⟨low, payload⟩⟩⟩ := stream
  · exact ⟨⟨⟨0⟩, []⟩, [0, 0, 0], rfl, by simp, by simp [declaredLength?]⟩
  · exact ⟨⟨⟨port⟩, []⟩, [0, 0], by simp [octets, Bytes.ofUInt16], by simp,
      by simp [declaredLength?]⟩
  · exact ⟨⟨⟨port⟩, _⟩, 0 :: _, @octets_filled port high 0 [] (Nat.zero_le _), by simp,
      by simp [declaredLength?]⟩
  · obtain hheader | ⟨length, hlength, hfits, hshort⟩ := h
    · simp only [headerLength, List.length_cons] at hheader
      omega
    · obtain rfl : Bytes.toUInt16 high low = length := Option.some.inj hlength
      have hpart : payload.length < (Bytes.toUInt16 high low).toNat := by
        simp only [headerLength, List.length_cons] at hshort
        omega
      refine ⟨⟨⟨port⟩, _⟩, _, octets_filled (Nat.le_of_lt hpart), ?_, ?_⟩
      · rw [ne_eq, List.replicate_eq_nil_iff]
        omega
      · rintro _ ⟨⟩
        simp only [List.length_append, List.length_replicate]
        omega

/-! ## Packets back to back -/

/-- Packets that a frame can carry are framed back to back. -/
lemma encodeAll_of_forall_le {packets : List Packet}
    (h : ∀ packet ∈ packets, packet.payload.length ≤ Limits.framePayload) :
    encodeAll packets = .ok (packets.flatMap octets) := by
  induction packets with
  | nil => rfl
  | cons packet packets ih =>
    obtain ⟨hfirst, hrest⟩ := List.forall_mem_cons.1 h
    have hencode : encode packet = .ok (octets packet) := if_neg (Nat.not_lt.2 hfirst)
    rw [encodeAll, hencode, ih hrest]
    rfl

end Frame

/-- So are they by an encoder, behind what it has written before. -/
lemma Encoder.written_putAll {packets : List Packet}
    (h : ∀ packet ∈ packets, packet.payload.length ≤ Limits.framePayload) (encoder : Encoder) :
    (encoder.putAll packets).written = encoder.written ++ packets.flatMap Frame.octets := by
  induction packets generalizing encoder with
  | nil => simp [putAll]
  | cons packet packets ih =>
    obtain ⟨hfirst, hrest⟩ := List.forall_mem_cons.1 h
    have hput : encoder.putAll (packet :: packets) =
        putAll ⟨encoder.written ++ Frame.octets packet⟩ packets := by
      rw [putAll, List.foldl_cons, put_of_le hfirst]
      rfl
    rw [hput, ih hrest, List.flatMap_cons, List.append_assoc]

namespace Decoder

/-! ## Reading as steps -/

/-- Asked for one packet after another, a decoder gave these, and is now the second one. -/
inductive Reads : Decoder → List Packet → Decoder → Prop where
  | done (decoder : Decoder) : Reads decoder [] decoder
  | packet {decoder after last : Decoder} {packet : Packet} {packets : List Packet}
      (first : decoder.next = (.ok (some packet), after)) (others : Reads after packets last) :
      Reads decoder (packet :: packets) last

variable {decoder last : Decoder} {packets : List Packet}

/-- Whole frames in front of a stream are read one by one, and what follows them is left. -/
lemma reads_octets (h : ∀ packet ∈ packets, packet.payload.length ≤ Limits.framePayload)
    (rest : Bytes) : Reads ⟨packets.flatMap Frame.octets ++ rest⟩ packets ⟨rest⟩ := by
  induction packets with
  | nil => exact .done _
  | cons packet packets ih =>
    obtain ⟨hfirst, hrest⟩ := List.forall_mem_cons.1 h
    refine .packet ?_ (ih hrest)
    rw [List.flatMap_cons, List.append_assoc, next, Frame.decode_octets_append hfirst]

/-- What was read are whole frames in front of what is left. -/
lemma Reads.eq_octets_append (h : Reads decoder packets last) :
    (∀ packet ∈ packets, packet.payload.length ≤ Limits.framePayload) ∧
      decoder.buffered = packets.flatMap Frame.octets ++ last.buffered := by
  induction h with
  | done decoder => simp
  | @packet decoder after last packet packets first others ih =>
    obtain ⟨hfits, hbuffered⟩ := ih
    have hdecode : Frame.decode decoder.buffered = .ok (some (packet, after.buffered)) := by
      unfold next at first
      split at first
      · cases first
      · cases first
      · next hread =>
        cases first
        exact hread
    obtain ⟨hfirst, hpacket⟩ := Frame.eq_octets_append_of_decode hdecode
    refine ⟨List.forall_mem_cons.2 ⟨hpacket, hfits⟩, ?_⟩
    rw [hfirst, hbuffered, List.flatMap_cons, List.append_assoc]

/-- Draining a stream is reading it, one call of `next` for every packet. -/
lemma reads_drain (stream : Bytes) :
    Reads ⟨stream⟩ (Frame.drain stream).packets ⟨(Frame.drain stream).rest⟩ := by
  induction stream using Frame.drain.induct with
  | case1 stream e h =>
    rw [Frame.drain_of_error h]
    exact .done _
  | case2 stream h =>
    rw [Frame.drain_of_none h]
    exact .done _
  | case3 stream packet rest h ih =>
    rw [Frame.drain_of_some h]
    refine .packet ?_ ih
    rw [next, h]

end Decoder

namespace Frame

/-- What stopped the draining of a stream is what its rest shows. -/
lemma decode_rest_drain (stream : Bytes) :
    decode (drain stream).rest =
      match (drain stream).fault with
      | none => .ok none
      | some e => .error e := by
  induction stream using drain.induct with
  | case1 stream e h => simp only [drain_of_error h, h]
  | case2 stream h => simp only [drain_of_none h, h]
  | case3 stream packet rest h ih =>
    rw [drain_of_some h]
    exact ih

/-- **Framing is exact in both directions.**  Packets that a frame can carry, framed back to back and
followed by any octets, are read again one after another, and those octets are left to be read.  Any
octets at all are read in finitely many calls to packets whose frames, put back to back, stand in
front of what is left; and the call that ends the reading changes nothing and finds there either the
beginning of a frame, shorter than the longest frame, or a header that declares a length which no
frame has.  And an encoder refuses exactly a payload that is too long, and has then written nothing. -/
theorem framing_exact :
    (∀ (packets : List Packet) (rest : Bytes),
      (∀ packet ∈ packets, packet.payload.length ≤ Limits.framePayload) →
        Decoder.Reads ⟨(Encoder.putAll {} packets).written ++ rest⟩ packets ⟨rest⟩) ∧
    (∀ buffer : Bytes, ∃ (packets : List Packet) (fault : Option Error) (rest frames : Bytes),
      drain buffer = ⟨packets, fault, rest⟩ ∧ Decoder.Reads ⟨buffer⟩ packets ⟨rest⟩ ∧
      encodeAll packets = .ok frames ∧ buffer = frames ++ rest ∧
      match fault with
      | none =>
        Decoder.next ⟨rest⟩ = (.ok none, ⟨rest⟩) ∧ IsUnfinished rest ∧
          rest.length < headerLength + Limits.framePayload ∧
          ∃ (packet : Packet) (missing : Bytes),
            octets packet = rest ++ missing ∧ missing ≠ [] ∧
            ∀ length, declaredLength? rest = some length →
              packet.payload.length = length.toNat ∧ packet.payload.length ≤ Limits.framePayload
      | some e =>
        Decoder.next ⟨rest⟩ = (.error e, ⟨rest⟩) ∧
          ∃ length, declaredLength? rest = some length ∧ Limits.framePayload < length.toNat ∧
            e = .invalidLength length) ∧
    ∀ (encoder : Encoder) (packet : Packet),
      ((∃ e, (encoder.put packet).1 = .error e) ↔ Limits.framePayload < packet.payload.length) ∧
      ((∃ e, (encoder.put packet).1 = .error e) → (encoder.put packet).2 = encoder) := by
  refine ⟨?_, ?_, ?_⟩
  · intro packets rest hfits
    rw [Encoder.written_putAll hfits]
    exact Decoder.reads_octets hfits rest
  · intro buffer
    have hreads := Decoder.reads_drain buffer
    have hstop := decode_rest_drain buffer
    obtain ⟨hfits, hbuffer⟩ := hreads.eq_octets_append
    refine ⟨_, _, _, _, rfl, hreads, encodeAll_of_forall_le hfits, hbuffer, ?_⟩
    cases hfault : (drain buffer).fault with
    | none =>
      rw [hfault] at hstop
      have hunfinished := decode_eq_none_iff.1 hstop
      exact ⟨by rw [Decoder.next, hstop], hunfinished, hunfinished.length_lt, hunfinished.exists_octets⟩
    | some e =>
      rw [hfault] at hstop
      exact ⟨by rw [Decoder.next, hstop], decode_eq_error_iff_declaredLength?.1 hstop⟩
  · intro encoder packet
    by_cases hlong : Limits.framePayload < packet.payload.length
    · rw [Encoder.put_of_lt hlong]
      simp [hlong]
    · rw [Encoder.put_of_le (Nat.not_lt.1 hlong)]
      simp [hlong]

/-- Two packets, one with the longest payload that a frame carries and one with none, in front of an
unfinished header; and a payload that is longer by one octet. -/
theorem framing_longest_payload :
    let longest : Packet := ⟨.telemetry, List.replicate Limits.framePayload 7⟩
    let tooLong : Packet := ⟨.telemetry, List.replicate (Limits.framePayload + 1) 7⟩
    Decoder.Reads ⟨(Encoder.putAll {} [longest, ⟨.telecommand, []⟩]).written ++ [1, 0xFF]⟩
        [longest, ⟨.telecommand, []⟩] ⟨[1, 0xFF]⟩ ∧
      (Encoder.put ⟨[1, 0, 0]⟩ tooLong).2 = ⟨[1, 0, 0]⟩ := by
  intro longest tooLong
  obtain ⟨hread, -, hput⟩ := framing_exact
  refine ⟨hread _ _ ?_, (hput _ _).2 ((hput _ _).1.2 ?_)⟩
  · simp [longest]
  · simp [tooLong]

end Frame

end FlightScript
