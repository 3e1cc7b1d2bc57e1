import FlightScript.Bytes
import FlightScript.Limits
import FlightScript.Port
/-!
# Frames of the ground link

A frame carries one packet for one port: the port in one octet, the length of the payload in two in
network order, then the payload. The length field could say 65535, but a frame carries at most
`Limits.framePayload` octets, so a greater length is a fault of the stream: nothing says where the
next frame begins, and the fault stays in front for good.

## One stream, two views

`Frame.encodeAll` writes packets back to back and `Frame.drain` takes whole frames off the front of
a stream until it meets the end, an unfinished frame or a fault. `Decoder` is the same reading done
piece by piece; what it has to remember is exactly the octets not yet read. `Encoder` is the writing
done packet by packet into one stream.
-/

namespace FlightScript

structure Packet where
  port : Port
  payload : Bytes
  deriving DecidableEq, Repr

namespace Frame

def headerLength : Nat := 3

/-- Why a packet cannot be framed or a stream cannot be read further. -/
inductive Error where
  | payloadTooLarge (length : Nat)
  | invalidLength (length : UInt16)
  deriving DecidableEq, Repr

def Error.message : Error → String
  | .payloadTooLarge length =>
    s!"Payload too large: {length} bytes (max: {Limits.framePayload})"
  | .invalidLength length => s!"Invalid frame length prefix: {length}"

/-- The octets of a frame, whatever the length of its payload. -/
def octets (packet : Packet) : Bytes :=
  packet.port.number :: (Bytes.ofUInt16 packet.payload.length.toUInt16 ++ packet.payload)

/-- The frame of a packet; a payload that is too long has none. -/
def encode (packet : Packet) : Except Error Bytes :=
  if packet.payload.length > Limits.framePayload then
    .error (.payloadTooLarge packet.payload.length)
  else
    .ok (octets packet)

/-- Adds the frame of a packet to a stream. -/
def append (stream : Bytes) (packet : Packet) : Except Error Bytes :=
  (stream ++ ·) <$> encode packet

/-- Takes the first frame off a stream: nothing yet if it is unfinished. The length is judged as
soon as it is there. -/
def decode : Bytes → Except Error (Option (Packet × Bytes))
  | port :: high :: low :: rest =>
    let length := Bytes.toUInt16 high low
    let payload := rest.take length.toNat
    if length.toNat > Limits.framePayload then .error (.invalidLength length)
    else if payload.length < length.toNat then .ok none
    else .ok (some (⟨⟨port⟩, payload⟩, rest.drop length.toNat))
  | _ => .ok none

/-- A whole frame in front of a stream is read, and nothing else is touched. -/
theorem decode_octets_append {packet : Packet} (fits : packet.payload.length ≤ Limits.framePayload)
    (rest : Bytes) : decode (octets packet ++ rest) = .ok (some (packet, rest)) := by
  have small : packet.payload.length < 65536 := Nat.lt_of_le_of_lt fits (by decide)
  have length : packet.payload.length.toUInt16.toNat = packet.payload.length := by
    simp only [Nat.toUInt16_eq, UInt16.toNat_ofNat']
    omega
  obtain ⟨⟨number⟩, payload⟩ := packet
  simp only [octets, decode, Bytes.ofUInt16, List.cons_append, List.nil_append,
    Bytes.toUInt16_ofUInt16]
  simp only [length, List.take_left', List.drop_left']
  rw [if_neg (Nat.not_lt.2 fits), if_neg (by omega)]

/-- What was read is what stands in front of the stream, and it fits a frame. -/
theorem eq_octets_append_of_decode {stream rest : Bytes} {packet : Packet}
    (h : decode stream = .ok (some (packet, rest))) :
    stream = octets packet ++ rest ∧ packet.payload.length ≤ Limits.framePayload := by
  unfold decode at h
  split at h
  · next port high low more =>
    simp only at h
    split at h
    · cases h
    · next long =>
      split at h
      · cases h
      · next short =>
        injection h with h
        injection h with h
        injection h with hp hr
        subst hp hr
        have length : (more.take (Bytes.toUInt16 high low).toNat).length =
            (Bytes.toUInt16 high low).toNat :=
          Nat.le_antisymm (List.length_take_le ..) (Nat.not_lt.1 short)
        refine ⟨?_, by simp only [length]; omega⟩
        simp only [octets, length, Nat.toUInt16_eq, UInt16.ofNat_toNat, Bytes.ofUInt16_toUInt16,
          List.cons_append, List.nil_append, List.take_append_drop]
  · cases h

/-- Reading a frame makes the stream shorter. -/
theorem length_of_decode {stream rest : Bytes} {packet : Packet}
    (h : decode stream = .ok (some (packet, rest))) :
    stream.length = headerLength + packet.payload.length + rest.length := by
  rw [(eq_octets_append_of_decode h).1]
  simp only [octets, Bytes.ofUInt16, List.cons_append, List.nil_append, List.length_cons,
    List.length_append, headerLength]
  omega

/-- What reading a stream to its end gave: the packets, the fault that stopped it if one did, and the
octets that are left. -/
structure Drained where
  packets : List Packet
  fault : Option Error
  rest : Bytes
  deriving DecidableEq, Repr

/-- Takes frames off a stream until one is unfinished or the stream is at fault. -/
def drain (stream : Bytes) : Drained :=
  match _h : decode stream with
  | .error e => ⟨[], some e, stream⟩
  | .ok none => ⟨[], none, stream⟩
  | .ok (some (packet, rest)) =>
    let drained := drain rest
    { drained with packets := packet :: drained.packets }
termination_by stream.length
decreasing_by
  have := length_of_decode _h
  simp only [headerLength] at this
  omega

/-- Packets framed back to back, or the error of the first that cannot be framed. -/
def encodeAll : List Packet → Except Error Bytes
  | [] => .ok []
  | packet :: rest => do
    let front ← encode packet
    return front ++ (← encodeAll rest)

end Frame

/-- Writes frames into one stream. -/
structure Encoder where
  written : Bytes := []
  deriving DecidableEq, Repr

namespace Encoder

/-- Adds the frame of a packet. A packet that cannot be framed adds nothing. -/
def put (encoder : Encoder) (packet : Packet) : Except Frame.Error Unit × Encoder :=
  match Frame.append encoder.written packet with
  | .error e => (.error e, encoder)
  | .ok stream => (.ok (), ⟨stream⟩)

/-- Adds the frames of some packets, as far as they can be framed. -/
def putAll (encoder : Encoder) (packets : List Packet) : Encoder :=
  packets.foldl (fun encoder packet => (encoder.put packet).2) encoder

theorem put_of_le {encoder : Encoder} {packet : Packet}
    (fits : packet.payload.length ≤ Limits.framePayload) :
    encoder.put packet = (.ok (), ⟨encoder.written ++ Frame.octets packet⟩) := by
  simp only [put, Frame.append, Frame.encode]
  rw [if_neg (Nat.not_lt.2 fits)]
  rfl

theorem put_of_lt {encoder : Encoder} {packet : Packet}
    (long : Limits.framePayload < packet.payload.length) :
    encoder.put packet = (.error (.payloadTooLarge packet.payload.length), encoder) := by
  simp only [put, Frame.append, Frame.encode]
  rw [if_pos long]
  rfl

end Encoder

/-- Reads frames from a stream that arrives in pieces. -/
structure Decoder where
  buffered : Bytes := []
  deriving DecidableEq, Repr

namespace Decoder

def feed (decoder : Decoder) (piece : Bytes) : Decoder :=
  ⟨decoder.buffered ++ piece⟩

/-- The next packet if a whole frame is there. A fault stays, whatever arrives after it. -/
def next (decoder : Decoder) : Except Frame.Error (Option Packet) × Decoder :=
  match Frame.decode decoder.buffered with
  | .error e => (.error e, decoder)
  | .ok none => (.ok none, decoder)
  | .ok (some (packet, rest)) => (.ok (some packet), ⟨rest⟩)

/-- Every packet that is whole by now, the fault behind them if there is one, and the decoder for
what comes next. -/
def drain (decoder : Decoder) : List Packet × Option Frame.Error × Decoder :=
  let drained := Frame.drain decoder.buffered
  (drained.packets, drained.fault, ⟨drained.rest⟩)

@[simp] theorem buffered_feed (decoder : Decoder) (piece : Bytes) :
    (decoder.feed piece).buffered = decoder.buffered ++ piece := rfl

@[simp] theorem feed_nil (decoder : Decoder) : decoder.feed [] = decoder := by
  simp [feed]

theorem feed_feed (decoder : Decoder) (front back : Bytes) :
    (decoder.feed front).feed back = decoder.feed (front ++ back) := by
  simp [feed]

end Decoder

end FlightScript
