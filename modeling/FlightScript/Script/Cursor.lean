import FlightScript.Script.Error
import FlightScript.Script.Keyword
/-!
# Reading tokens off a script

A cursor is what is left of a script, with the number of octets already behind it. Each reading
function first passes the blanks and then takes one token; when the token is not there it answers
with the error and leaves the cursor where the reading stopped, so a caller may look for another.

`Cursor.At script` says that a cursor belongs to a script: what it holds is the script less the
octets behind it. Every reading function keeps that and never moves backwards.
-/

namespace FlightScript.Script

/-- A place in a script. -/
structure Cursor where
  offset : Nat
  rest : Bytes
  deriving DecidableEq, Repr

namespace Cursor

def start (script : Bytes) : Cursor :=
  ⟨0, script⟩

/-- A cursor that stands in a script. -/
def At (script : Bytes) (cursor : Cursor) : Prop :=
  cursor.offset ≤ script.length ∧ cursor.rest = script.drop cursor.offset

def advance (cursor : Cursor) (n : Nat) : Cursor :=
  ⟨cursor.offset + n, cursor.rest.drop n⟩

/-- Passes the octets in front that a test holds of. -/
def skipWhile (cursor : Cursor) (test : UInt8 → Bool) : Cursor :=
  cursor.advance (cursor.rest.takeWhile test).length

def skipBlanks (cursor : Cursor) : Cursor :=
  cursor.skipWhile isBlank

/-- The next word as a keyword. The end of the script counts as the keyword that ends it. A word is
as long as it can be, and is behind the cursor even if it is none of the keywords. -/
def keyword (cursor : Cursor) : Except Error Keyword × Cursor :=
  let cursor := cursor.skipBlanks
  if cursor.rest.isEmpty then (.ok .stop, cursor)
  else
    let word := cursor.rest.takeWhile isWordByte
    let cursor := cursor.skipWhile isWordByte
    match Keyword.ofWord? word with
    | some keyword => (.ok keyword, cursor)
    | none => (.error (.unknownWord word), cursor)

/-- The required octet. -/
def expect (cursor : Cursor) (expected : UInt8) : Except Error Unit × Cursor :=
  let cursor := cursor.skipBlanks
  match cursor.rest with
  | [] => (.error (.unexpectedEnd expected), cursor)
  | found :: _ =>
    if found = expected then (.ok (), cursor.advance 1)
    else (.error (.unexpectedByte expected found cursor.offset), cursor)

/-- The octet if it is there. -/
def accept (cursor : Cursor) (wanted : UInt8) : Bool × Cursor :=
  let cursor := cursor.skipBlanks
  if cursor.rest.head? = some wanted then (true, cursor.advance 1) else (false, cursor)

def quoteMark : UInt8 := 0x22

/-- The octets of a string in double quotes. There are no escapes: the next quote closes it. An
unclosed string is reported where it was opened, and leaves the cursor behind that quote. -/
def quoted (cursor : Cursor) : Except Error Bytes × Cursor :=
  match cursor.expect quoteMark with
  | (.error e, cursor) => (.error e, cursor)
  | (.ok (), cursor) =>
    let text := cursor.rest.takeWhile (· != quoteMark)
    if text.length = cursor.rest.length then
      (.error (.unterminatedString (cursor.offset - 1)), cursor)
    else
      (.ok text, cursor.advance (text.length + 1))

/-! ## Where a cursor stands -/

theorem at_start (script : Bytes) : At script (start script) := by
  simp [At, start]

/-- Going on inside what is left stays in the script. -/
theorem At.advance {script : Bytes} {cursor : Cursor} (h : At script cursor) {n : Nat}
    (fits : n ≤ cursor.rest.length) : At script (cursor.advance n) := by
  obtain ⟨le, eq⟩ := h
  have room := congrArg List.length eq
  rw [List.length_drop] at room
  refine ⟨?_, ?_⟩
  · simp only [Cursor.advance]
    omega
  · simp [Cursor.advance, eq, List.drop_drop]

theorem At.skipWhile {script : Bytes} {cursor : Cursor} (h : At script cursor)
    (test : UInt8 → Bool) : At script (cursor.skipWhile test) :=
  h.advance (List.takeWhile_sublist test).length_le

theorem At.skipBlanks {script : Bytes} {cursor : Cursor} (h : At script cursor) :
    At script cursor.skipBlanks :=
  h.skipWhile isBlank

theorem At.keyword {script : Bytes} {cursor : Cursor} (h : At script cursor) :
    At script cursor.keyword.2 := by
  unfold Cursor.keyword
  simp only
  split
  · exact h.skipBlanks
  · split <;> exact h.skipBlanks.skipWhile _

theorem At.expect {script : Bytes} {cursor : Cursor} (h : At script cursor) (expected : UInt8) :
    At script (cursor.expect expected).2 := by
  unfold Cursor.expect
  simp only
  split
  · exact h.skipBlanks
  · next more =>
    split
    · exact h.skipBlanks.advance (by simp [more])
    · exact h.skipBlanks

theorem At.accept {script : Bytes} {cursor : Cursor} (h : At script cursor) (wanted : UInt8) :
    At script (cursor.accept wanted).2 := by
  unfold Cursor.accept
  simp only
  split
  · next found =>
    refine h.skipBlanks.advance ?_
    cases more : cursor.skipBlanks.rest with
    | nil => simp [more] at found
    | cons => simp
  · exact h.skipBlanks

theorem At.quoted {script : Bytes} {cursor : Cursor} (h : At script cursor) :
    At script cursor.quoted.2 := by
  unfold Cursor.quoted
  have opened := h.expect quoteMark
  split
  · next hit => simpa [hit] using opened
  · next after hit =>
    replace opened : At script after := by simpa [hit] using opened
    simp only
    split
    · exact opened
    · next closed =>
      refine opened.advance ?_
      have := (List.takeWhile_sublist (l := after.rest) (· != quoteMark)).length_le
      omega

end Cursor

end FlightScript.Script
