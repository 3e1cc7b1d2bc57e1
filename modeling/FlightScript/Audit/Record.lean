import FlightScript.Bytes
import FlightScript.Status
/-!
# Records of the audit log

One record is seven octets in network order: the kind of the command in two, the time in seconds in
four, the status in one. The log is nothing but records, back to back.

`Record.decode` takes the first record off a log and touches nothing unless there is a whole record
with a known status. `decodeAll` reads a log to its end; of two faults, a status octet that means
nothing and a log that stops inside a record, the first wins, because records are read before the
end is looked at.
-/

namespace FlightScript.Audit

structure Record where
  kind : UInt16
  timestamp : UInt32
  status : Status
  deriving DecidableEq, Repr

inductive ReadError where
  /-- The status octet of a complete record means nothing. -/
  | unknownStatus (byte : UInt8)
  /-- The log ends inside a record. -/
  | trailingBytes (count : Nat)
  deriving DecidableEq, Repr

def ReadError.message : ReadError → String
  | .unknownStatus byte => s!"Unknown command status byte: {byte}"
  | .trailingBytes count => s!"Truncated audit log: {count} trailing bytes"

namespace Record

def width : Nat := 7

def encode (record : Record) : Bytes :=
  Bytes.ofUInt16 record.kind ++ Bytes.ofUInt32 record.timestamp ++ [record.status.byte]

@[simp] theorem length_encode (record : Record) : record.encode.length = width := rfl

/-- Takes the first record off a log: nothing yet if fewer octets are there than one record has. -/
def decode : Bytes → Except ReadError (Option (Record × Bytes))
  | k₁ :: k₀ :: t₃ :: t₂ :: t₁ :: t₀ :: s :: rest =>
    match Status.ofByte? s with
    | none => .error (.unknownStatus s)
    | some status =>
      .ok (some (⟨Bytes.toUInt16 k₁ k₀, Bytes.toUInt32 t₃ t₂ t₁ t₀, status⟩, rest))
  | _ => .ok none

/-- The same, with the log that is left in every case: all of it, unless a record was taken. -/
def next (log : Bytes) : Except ReadError (Option Record) × Bytes :=
  match decode log with
  | .error e => (.error e, log)
  | .ok none => (.ok none, log)
  | .ok (some (record, rest)) => (.ok (some record), rest)

/-- A record in front of a log is read, and nothing else is touched. -/
@[simp] theorem decode_encode_append (record : Record) (rest : Bytes) :
    decode (record.encode ++ rest) = .ok (some (record, rest)) := by
  simp [encode, decode, Bytes.ofUInt16, Bytes.ofUInt32]

/-- What was read is what stands in front of the log. -/
theorem eq_encode_append_of_decode {log rest : Bytes} {record : Record}
    (h : decode log = .ok (some (record, rest))) : log = record.encode ++ rest := by
  unfold decode at h
  split at h
  · split at h
    · cases h
    · next known =>
      injection h with h
      injection h with h
      injection h with hr ht
      subst hr ht
      simp [encode, Status.byte_of_ofByte? known]
  · cases h

/-- A record that was read is seven octets, and the rest is what follows them. -/
theorem length_of_decode {log rest : Bytes} {record : Record}
    (h : decode log = .ok (some (record, rest))) : log.length = rest.length + width := by
  rw [eq_encode_append_of_decode h, List.length_append, length_encode, Nat.add_comm]

end Record

/-- The records of a whole log, in order. -/
def decodeAll (log : Bytes) : Except ReadError (List Record) :=
  match _h : Record.decode log with
  | .error e => .error e
  | .ok none => if log.isEmpty then .ok [] else .error (.trailingBytes log.length)
  | .ok (some (record, rest)) => (record :: ·) <$> decodeAll rest
termination_by log.length
decreasing_by
  have := Record.length_of_decode _h
  simp only [Record.width] at this
  omega

/-- A log that holds these records. -/
def encodeAll (records : List Record) : Bytes :=
  records.flatMap Record.encode

@[simp] theorem length_encodeAll (records : List Record) :
    (encodeAll records).length = Record.width * records.length := by
  induction records with
  | nil => rfl
  | cons record rest ih =>
    simp only [encodeAll, List.flatMap_cons, List.length_append, Record.length_encode,
      List.length_cons] at ih ⊢
    rw [ih, Nat.mul_succ, Nat.add_comm]

end FlightScript.Audit
