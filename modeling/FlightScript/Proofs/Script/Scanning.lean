import FlightScript.Proofs.Script.Reading
/-!
# Reading a script by position

A cursor holds what is left of a script, so there is nothing outside the script that it could reach for.
Whoever reads a script by position has no such assurance: the octet at a position, the stretch from one
position to another and the position in front of one need not be there.

`Scan` reads by position, and takes nothing for granted.  A stretch that runs backwards or past the end is
nothing (`slice?`), and so is what lies in front of the first position (`previous?`); a reading that comes
upon one of these has no result at all.  From wherever a cursor stands in a script, each reading by
position has a result, and it is that of the cursor (`At.scan_keyword`, `At.scan_expect`,
`At.scan_accept`, `At.scan_quoted`).  So none of the checks ever fails.
-/

namespace FlightScript.Script

/-! ## Positions -/

/-- The octets of a script from one position up to another. -/
def slice? (script : Bytes) (start stop : Nat) : Option Bytes :=
  if start ≤ stop ∧ stop ≤ script.length then some ((script.drop start).take (stop - start))
  else none

/-- The position in front of another one. -/
def previous? : Nat → Option Nat
  | 0 => none
  | position + 1 => some position

namespace Scan

/-- The first position from some position on where no octet is that a test holds of. -/
def skip (script : Bytes) (test : UInt8 → Bool) (position : Nat) : Nat :=
  match h : script[position]? with
  | none => position
  | some b => if test b then skip script test (position + 1) else position
termination_by script.length - position
decreasing_by
  have hinside := (List.getElem?_eq_some_iff.1 h).1
  omega

/-- The next word as a keyword, and the position behind it. -/
def keyword (script : Bytes) (position : Nat) : Option (Except Error Keyword × Nat) :=
  let start := skip script isBlank position
  match script[start]? with
  | none => some (.ok .stop, start)
  | some _ =>
    let stop := skip script isWordByte start
    (slice? script start stop).map fun word =>
      match Keyword.ofWord? word with
      | some keyword => (.ok keyword, stop)
      | none => (.error (.unknownWord word), stop)

/-- The required octet. -/
def expect (script : Bytes) (position : Nat) (expected : UInt8) : Except Error Unit × Nat :=
  let position := skip script isBlank position
  match script[position]? with
  | none => (.error (.unexpectedEnd expected), position)
  | some found =>
    if found = expected then (.ok (), position + 1)
    else (.error (.unexpectedByte expected found position), position)

/-- The octet if it is there. -/
def accept (script : Bytes) (position : Nat) (wanted : UInt8) : Bool × Nat :=
  let position := skip script isBlank position
  if script[position]? = some wanted then (true, position + 1) else (false, position)

/-- The octets of a string in double quotes.  Where it was opened is looked up before it is known
whether anything closes it. -/
def quoted (script : Bytes) (position : Nat) : Option (Except Error Bytes × Nat) :=
  match expect script position Cursor.quoteMark with
  | (.error e, position) => some (.error e, position)
  | (.ok (), start) => do
    let tail ← slice? script start script.length
    let opened ← previous? start
    match tail.findIdx? (· == Cursor.quoteMark) with
    | none => return (.error (.unterminatedString opened), start)
    | some length =>
      let text ← slice? script start (start + length)
      return (.ok text, start + length + 1)

/-- Skipping by position passes the octets in front that the test holds of. -/
lemma skip_eq (script : Bytes) (test : UInt8 → Bool) (position : Nat) :
    skip script test position = position + ((script.drop position).takeWhile test).length := by
  fun_induction skip script test position with
  | case1 position h =>
    have hend : script.drop position = [] := by simpa using h
    simp [hend]
  | case2 position b h hb ih =>
    obtain ⟨hinside, hget⟩ := List.getElem?_eq_some_iff.1 h
    rw [ih, List.drop_eq_getElem_cons hinside, hget, List.takeWhile_cons_of_pos hb, List.length_cons]
    omega
  | case3 position b h hb =>
    obtain ⟨hinside, hget⟩ := List.getElem?_eq_some_iff.1 h
    rw [List.drop_eq_getElem_cons hinside, hget, List.takeWhile_cons_of_neg hb]
    rfl

end Scan

namespace Cursor

variable {script : Bytes} {cursor : Cursor}

/-! ## Positions of a cursor -/

lemma At.getElem?_offset (h : At script cursor) : script[cursor.offset]? = cursor.rest.head? := by
  rw [h.2, List.head?_drop]

lemma At.length_rest (h : At script cursor) : cursor.offset + cursor.rest.length = script.length := by
  have hle := h.1
  rw [h.2, List.length_drop]
  omega

lemma At.scan_skip (h : At script cursor) (test : UInt8 → Bool) :
    Scan.skip script test cursor.offset = (cursor.skipWhile test).offset := by
  rw [Scan.skip_eq, ← h.2]
  rfl

/-- A stretch of what is left is a stretch of the script. -/
lemma At.slice?_offset (h : At script cursor) {n : Nat} (hfits : n ≤ cursor.rest.length) :
    slice? script cursor.offset (cursor.offset + n) = some (cursor.rest.take n) := by
  have hlength := h.length_rest
  rw [slice?, if_pos ⟨by omega, by omega⟩, ← h.2, Nat.add_sub_cancel_left]

/-- So is what is in front of a cursor and of one class. -/
lemma At.slice?_skipWhile (h : At script cursor) (test : UInt8 → Bool) :
    slice? script cursor.offset (cursor.skipWhile test).offset =
      some (cursor.rest.takeWhile test) := by
  calc slice? script cursor.offset (cursor.skipWhile test).offset
      = some (cursor.rest.take (cursor.rest.takeWhile test).length) :=
        h.slice?_offset (List.takeWhile_sublist test).length_le
    _ = some (cursor.rest.takeWhile test) := by
        rw [← List.prefix_iff_eq_take.1 (List.takeWhile_prefix test)]

/-- And so is all that is left. -/
lemma At.slice?_length (h : At script cursor) :
    slice? script cursor.offset script.length = some cursor.rest := by
  rw [← h.length_rest, h.slice?_offset (Nat.le_refl _), List.take_length]

/-- A cursor that has just passed an octet has a position in front of it. -/
lemma previous?_of_expect {expected : UInt8} {after : Cursor}
    (h : cursor.expect expected = (.ok (), after)) :
    previous? after.offset = some (after.offset - 1) := by
  unfold expect at h
  simp only at h
  split at h
  · cases h
  · split at h
    · obtain rfl := (Prod.mk.inj h).2
      rfl
    · cases h

/-! ## Reading by position is reading by cursor -/

lemma At.scan_keyword (h : At script cursor) :
    Scan.keyword script cursor.offset = some (cursor.keyword.1, cursor.keyword.2.offset) := by
  have hstart : Scan.skip script isBlank cursor.offset = cursor.skipBlanks.offset := h.scan_skip _
  have hhead := h.skipBlanks.getElem?_offset
  have hstop := h.skipBlanks.scan_skip isWordByte
  have hword := h.skipBlanks.slice?_skipWhile isWordByte
  unfold Scan.keyword Cursor.keyword
  simp only [hstart, hhead, hstop, hword]
  cases hrest : cursor.skipBlanks.rest with
  | nil => rfl
  | cons b more =>
    simp only [List.head?_cons, Option.map_some, List.isEmpty_cons, Bool.false_eq_true, if_false]
    cases Keyword.ofWord? ((b :: more).takeWhile isWordByte) <;> rfl

lemma At.scan_expect (h : At script cursor) (expected : UInt8) :
    Scan.expect script cursor.offset expected =
      ((cursor.expect expected).1, (cursor.expect expected).2.offset) := by
  have hstart : Scan.skip script isBlank cursor.offset = cursor.skipBlanks.offset := h.scan_skip _
  have hhead := h.skipBlanks.getElem?_offset
  unfold Scan.expect Cursor.expect
  simp only [hstart, hhead]
  cases cursor.skipBlanks.rest with
  | nil => rfl
  | cons found more =>
    simp only [List.head?_cons]
    split <;> rfl

lemma At.scan_accept (h : At script cursor) (wanted : UInt8) :
    Scan.accept script cursor.offset wanted =
      ((cursor.accept wanted).1, (cursor.accept wanted).2.offset) := by
  have hstart : Scan.skip script isBlank cursor.offset = cursor.skipBlanks.offset := h.scan_skip _
  have hhead := h.skipBlanks.getElem?_offset
  unfold Scan.accept Cursor.accept
  simp only [hstart, hhead]
  split <;> rfl

/-- The first quote is where the text in front of it ends. -/
lemma findIdx?_quoteMark (octets : Bytes) :
    octets.findIdx? (· == quoteMark) =
      if (octets.takeWhile (· != quoteMark)).length = octets.length then none
      else some (octets.takeWhile (· != quoteMark)).length := by
  induction octets with
  | nil => rfl
  | cons b octets ih =>
    by_cases hb : b = quoteMark
    · simp [List.findIdx?_cons, hb]
    · have htake : (b :: octets).takeWhile (· != quoteMark) =
          b :: octets.takeWhile (· != quoteMark) := List.takeWhile_cons_of_pos (bne_iff_ne.2 hb)
      rw [List.findIdx?_cons, beq_eq_false_iff_ne.2 hb, ih, htake]
      simp only [Bool.false_eq_true, if_false, List.length_cons, Nat.add_right_cancel_iff]
      split <;> rfl

lemma At.scan_quoted (h : At script cursor) :
    Scan.quoted script cursor.offset = some (cursor.quoted.1, cursor.quoted.2.offset) := by
  unfold Scan.quoted Cursor.quoted
  rw [h.scan_expect]
  have hafter := h.expect quoteMark
  rcases hexpect : cursor.expect quoteMark with ⟨e | ⟨⟩, opened⟩
  · rfl
  · rw [hexpect] at hafter
    have hopened : At script opened := hafter
    have htext : slice? script opened.offset
        (opened.offset + (opened.rest.takeWhile (· != quoteMark)).length) =
          some (opened.rest.takeWhile (· != quoteMark)) := hopened.slice?_skipWhile _
    simp only [hopened.slice?_length, previous?_of_expect hexpect, Option.bind_eq_bind,
      Option.bind_some, findIdx?_quoteMark]
    by_cases hunclosed : (opened.rest.takeWhile (· != quoteMark)).length = opened.rest.length
    · simp only [hunclosed, if_true]
      rfl
    · simp only [hunclosed, if_false, htext]
      rfl

end Cursor

end FlightScript.Script
