import FlightScript.Proofs.Script.Scanning
/-!
# Any calls on a reader, in any order

The reader of a script has four calls: for a keyword, for a quoted text, for an octet that has to be there
and for one that may be there.  The grammar makes them in a certain order and stops at the first that
fails.  Nothing depends on that.  Whatever calls are made, and however many of them fail, the cursor only
goes forward and stays within the script, and reading by position gives the same answers without once
reaching outside (`At.scanAll`).

## Looking for an octet that is not there

A call that looks for an octet in vain does move the cursor: it leaves it behind the blanks.  But every call
begins by passing the blanks, so what it answers, and where it leaves the cursor, is the same from in front
of the blanks and from behind them (`Request.ask_skipBlanks`).  So such a call can be left out of any list of
calls, and no other answer changes (`answers_of_thinned`).
-/

namespace FlightScript.Script

/-- A call on the reader. -/
inductive Request where
  | keyword
  | quoted
  | expect (mark : UInt8)
  | accept (mark : UInt8)
  deriving DecidableEq, Repr

inductive Answer where
  | keyword (result : Except Error Keyword)
  | quoted (result : Except Error Bytes)
  | expect (result : Except Error Unit)
  | accept (found : Bool)

namespace Answer

/-- Whether an octet was looked for in vain. -/
def isMiss : Answer → Bool
  | expect (.error _) | accept false => true
  | _ => false

end Answer

namespace Request

/-- What a call is answered from a cursor, and where it leaves the cursor. -/
def ask : Request → Cursor → Answer × Cursor
  | keyword, cursor => cursor.keyword.map .keyword id
  | quoted, cursor => cursor.quoted.map .quoted id
  | expect mark, cursor => (cursor.expect mark).map .expect id
  | accept mark, cursor => (cursor.accept mark).map .accept id

/-- The same by position. -/
def scan (script : Bytes) (position : Nat) : Request → Option (Answer × Nat)
  | keyword => (Scan.keyword script position).map (Prod.map .keyword id)
  | quoted => (Scan.quoted script position).map (Prod.map .quoted id)
  | expect mark => some ((Scan.expect script position mark).map .expect id)
  | accept mark => some ((Scan.accept script position mark).map .accept id)

end Request

/-- A call that was made, with the cursor that it met. -/
structure Exchange where
  request : Request
  before : Cursor

namespace Exchange

def answer (call : Exchange) : Answer := (call.request.ask call.before).1

def after (call : Exchange) : Cursor := (call.request.ask call.before).2

end Exchange

/-- The calls that are made from a cursor on, one after another, whatever they are answered. -/
def exchanges : Cursor → List Request → List Exchange
  | _, [] => []
  | cursor, request :: requests =>
    let call : Exchange := ⟨request, cursor⟩
    call :: exchanges call.after requests

/-- All of them by position: their answers, and where they have led. -/
def scanAll (script : Bytes) : Nat → List Request → Option (List (Answer × Nat))
  | _, [] => some []
  | position, request :: requests => do
    let answered ← request.scan script position
    let rest ← scanAll script answered.2 requests
    return answered :: rest

variable {script : Bytes} {cursor other : Cursor} {request : Request} {requests : List Request}
  {call : Exchange}

/-- They are the calls that were asked for. -/
lemma map_request_exchanges (cursor : Cursor) (requests : List Request) :
    (exchanges cursor requests).map (·.request) = requests := by
  induction requests generalizing cursor with
  | nil => rfl
  | cons request requests ih => exact congrArg (request :: ·) (ih _)

/-! ## Within the script -/

lemma Cursor.At.ask (h : At script cursor) (request : Request) : At script (request.ask cursor).2 := by
  cases request with
  | keyword => exact h.keyword
  | quoted => exact h.quoted
  | expect mark => exact h.expect mark
  | accept mark => exact h.accept mark

lemma Cursor.At.scan (h : At script cursor) (request : Request) :
    request.scan script cursor.offset =
      some ((request.ask cursor).1, (request.ask cursor).2.offset) := by
  cases request with
  | keyword => simp only [Request.scan, h.scan_keyword, Option.map_some]; rfl
  | quoted => simp only [Request.scan, h.scan_quoted, Option.map_some]; rfl
  | expect mark => simp only [Request.scan, h.scan_expect]; rfl
  | accept mark => simp only [Request.scan, h.scan_accept]; rfl

lemma at_of_mem (h : Cursor.At script cursor) (hcall : call ∈ exchanges cursor requests) :
    Cursor.At script call.before := by
  induction requests generalizing cursor with
  | nil => cases hcall
  | cons request requests ih =>
    rcases List.mem_cons.1 hcall with rfl | hcall
    · exact h
    · exact ih (h.ask request) hcall

/-- **Reading by position never reaches outside**, and comes to what the cursor comes to. -/
lemma Cursor.At.scanAll (h : At script cursor) (requests : List Request) :
    scanAll script cursor.offset requests =
      some ((exchanges cursor requests).map fun call => (call.answer, call.after.offset)) := by
  induction requests generalizing cursor with
  | nil => rfl
  | cons request requests ih =>
    rw [Script.scanAll, h.scan request, Option.bind_eq_bind, Option.bind_some, ih (h.ask request)]
    rfl

/-! ## Forward -/

lemma Cursor.offset_le_skipWhile (cursor : Cursor) (test : UInt8 → Bool) :
    cursor.offset ≤ (cursor.skipWhile test).offset :=
  Nat.le_add_right ..

lemma Cursor.offset_le_expect (cursor : Cursor) (mark : UInt8) :
    cursor.offset ≤ (cursor.expect mark).2.offset := by
  have hblanks := cursor.offset_le_skipWhile isBlank
  unfold Cursor.expect
  simp only
  split
  · exact hblanks
  · split
    · exact Nat.le_add_right_of_le hblanks
    · exact hblanks

lemma Cursor.offset_le_ask (cursor : Cursor) (request : Request) :
    cursor.offset ≤ (request.ask cursor).2.offset := by
  have hblanks := cursor.offset_le_skipWhile isBlank
  cases request with
  | keyword =>
    have hword := cursor.skipBlanks.offset_le_skipWhile isWordByte
    show cursor.offset ≤ cursor.keyword.2.offset
    unfold Cursor.keyword
    simp only
    split
    · exact hblanks
    · split <;> exact Nat.le_trans hblanks hword
  | quoted =>
    have hopened := cursor.offset_le_expect Cursor.quoteMark
    show cursor.offset ≤ cursor.quoted.2.offset
    unfold Cursor.quoted
    split
    · next hexpect => simpa [hexpect] using hopened
    · next after hexpect =>
      have hopened : cursor.offset ≤ after.offset := by simpa [hexpect] using hopened
      simp only
      split
      · exact hopened
      · exact Nat.le_add_right_of_le hopened
  | expect mark => exact cursor.offset_le_expect mark
  | accept mark =>
    show cursor.offset ≤ (cursor.accept mark).2.offset
    unfold Cursor.accept
    simp only
    split
    · exact Nat.le_add_right_of_le hblanks
    · exact hblanks

lemma offset_le_of_mem (hcall : call ∈ exchanges cursor requests) :
    cursor.offset ≤ call.after.offset := by
  induction requests generalizing cursor with
  | nil => cases hcall
  | cons request requests ih =>
    have hstep := cursor.offset_le_ask request
    rcases List.mem_cons.1 hcall with rfl | hcall
    · exact hstep
    · exact Nat.le_trans hstep (ih hcall)

lemma pairwise_offsets (cursor : Cursor) (requests : List Request) :
    ((exchanges cursor requests).map (·.after.offset)).Pairwise (· ≤ ·) := by
  induction requests generalizing cursor with
  | nil => exact .nil
  | cons request requests ih =>
    refine List.pairwise_cons.2 ⟨?_, ih _⟩
    intro offset hoffset
    obtain ⟨call, hcall, rfl⟩ := List.mem_map.1 hoffset
    exact offset_le_of_mem hcall

/-! ## In vain -/

@[simp] lemma Cursor.skipBlanks_skipBlanks (cursor : Cursor) :
    cursor.skipBlanks.skipBlanks = cursor.skipBlanks :=
  skipBlanks_eq_iff.2 ⟨⟨[], by simp⟩, by simp [Passes], cursor.stops_skipWhile isBlank⟩

/-- **A call is answered the same from behind the blanks**, and leads to the same place. -/
lemma Request.ask_skipBlanks (request : Request) (cursor : Cursor) :
    request.ask cursor.skipBlanks = request.ask cursor := by
  cases request with
  | keyword => simp only [ask, Cursor.keyword, Cursor.skipBlanks_skipBlanks]
  | quoted => simp only [ask, Cursor.quoted, Cursor.expect, Cursor.skipBlanks_skipBlanks]
  | expect mark => simp only [ask, Cursor.expect, Cursor.skipBlanks_skipBlanks]
  | accept mark => simp only [ask, Cursor.accept, Cursor.skipBlanks_skipBlanks]

lemma Request.ask_congr (h : cursor.skipBlanks = other.skipBlanks) (request : Request) :
    request.ask cursor = request.ask other := by
  rw [← request.ask_skipBlanks cursor, h, request.ask_skipBlanks]

lemma Cursor.snd_expect_of_error {mark : UInt8} {e : Error} (h : (cursor.expect mark).1 = .error e) :
    (cursor.expect mark).2 = cursor.skipBlanks := by
  unfold Cursor.expect at h ⊢
  simp only at h ⊢
  split at h
  · rfl
  · split at h
    · cases h
    · next hfound => rw [if_neg hfound]

lemma Cursor.snd_accept_of_false {mark : UInt8} (h : (cursor.accept mark).1 = false) :
    (cursor.accept mark).2 = cursor.skipBlanks := by
  unfold Cursor.accept at h ⊢
  simp only at h ⊢
  split at h
  · cases h
  · next hfound => rw [if_neg hfound]

/-- An octet that is looked for in vain costs the blanks, and nothing else. -/
lemma Exchange.after_of_isMiss (h : call.answer.isMiss = true) :
    call.after = call.before.skipBlanks := by
  obtain ⟨request, before⟩ := call
  cases request with
  | keyword => cases h
  | quoted => cases h
  | expect mark =>
    cases hresult : (before.expect mark).1 with
    | error e => exact Cursor.snd_expect_of_error hresult
    | ok =>
      rw [show answer ⟨.expect mark, before⟩ = .expect (before.expect mark).1 from rfl, hresult] at h
      cases h
  | accept mark =>
    cases hresult : (before.accept mark).1 with
    | false => exact Cursor.snd_accept_of_false hresult
    | true =>
      rw [show answer ⟨.accept mark, before⟩ = .accept (before.accept mark).1 from rfl, hresult] at h
      cases h

/-- The calls that were made, less some that have looked for an octet in vain. -/
inductive Thinned : List Exchange → List Exchange → Prop
  | nil : Thinned [] []
  | keep (call : Exchange) {made kept : List Exchange} (h : Thinned made kept) :
    Thinned (call :: made) (call :: kept)
  | leaveOut (call : Exchange) {made kept : List Exchange} (hmiss : call.answer.isMiss = true)
    (h : Thinned made kept) : Thinned (call :: made) kept

/-- All of them may be left out. -/
lemma thinned_filter (made : List Exchange) :
    Thinned made (made.filter fun call => !call.answer.isMiss) := by
  induction made with
  | nil => exact .nil
  | cons call made ih =>
    rw [List.filter_cons]
    split
    · exact .keep call ih
    · next hmiss => exact .leaveOut call (by simpa using hmiss) ih

/-- **Calls that have looked for an octet in vain can be left out**, and every other call is answered as it
was.  The cursor with them may be ahead of the one without them by blanks. -/
lemma answers_of_thinned {kept : List Exchange} (h : Thinned (exchanges cursor requests) kept)
    (hblanks : other.skipBlanks = cursor.skipBlanks) :
    (exchanges other (kept.map (·.request))).map (·.answer) = kept.map (·.answer) := by
  induction requests generalizing cursor other kept with
  | nil =>
    cases h
    rfl
  | cons request requests ih =>
    have hask := Request.ask_congr hblanks request
    cases h with
    | @keep _ _ kept h =>
      have hrest : (exchanges (request.ask other).2 (kept.map (·.request))).map (·.answer) =
          kept.map (·.answer) := by
        rw [hask]
        exact ih h rfl
      exact List.cons_eq_cons.2 ⟨congrArg Prod.fst hask, hrest⟩
    | leaveOut _ hmiss h =>
      have hafter := Exchange.after_of_isMiss hmiss
      refine ih h ?_
      rw [hafter, Cursor.skipBlanks_skipBlanks, hblanks]

/-! ## What is read is there -/

/-- A text that is read is what stands in the script between two quotes, the first of which is not in front of
the cursor. -/
lemma Cursor.At.exists_quotes (h : At script cursor) {text : Bytes} {after : Cursor}
    (hquoted : cursor.quoted = (.ok text, after)) :
    quoteMark ∉ text ∧ ∃ front back,
      script = front ++ quoteMark :: (text ++ quoteMark :: back) ∧
        cursor.offset ≤ front.length ∧ after.offset = front.length + text.length + 2 := by
  obtain ⟨⟨blanks, text⟩, rfl, hrest, hoffset⟩ := quoted_eq_ok_iff.1 hquoted
  obtain ⟨hle, hscript⟩ := h
  have hlength : (script.take cursor.offset).length = cursor.offset := by
    rw [List.length_take, Nat.min_eq_left hle]
  refine ⟨fun hmem => absurd (text.all _ hmem) (by simp), script.take cursor.offset ++ blanks.octets,
    after.rest, ?_, ?_, ?_⟩
  · calc script
        = script.take cursor.offset ++ cursor.rest := by rw [hscript, List.take_append_drop]
      _ = script.take cursor.offset ++ blanks.octets ++
            quoteMark :: (text.octets ++ quoteMark :: after.rest) := by
          rw [hrest]
          simp [Quotation.octets]
  · rw [List.length_append, hlength]
    omega
  · rw [hoffset, List.length_append, hlength]
    simp only [Quotation.octets, List.length_append, List.length_cons, List.length_nil]
    omega

/-- **Reading never leaves the script.**  Let any calls be made on a reader of any script, in any order, and
let them go on behind calls that fail.  Made by position, every one of them has a result: no octet, no
stretch and no position is asked for that is not there.  The results are those of the cursor, which never
goes back and never passes the end of the script.  A text that is read stands in the script between two
quotes and has none in it.  And calls that have looked for an octet in vain, whether it had to be there or
might have been, can be left out, any of them: every call that is kept is answered as it was. -/
theorem reading_never_leaves_script (script : Bytes) (requests : List Request) :
    let made := exchanges (.start script) requests
    made.map (·.request) = requests ∧
    scanAll script 0 requests = some (made.map fun call => (call.answer, call.after.offset)) ∧
    (∀ call ∈ made, call.before.offset ≤ call.after.offset ∧ call.after.offset ≤ script.length) ∧
    (made.map (·.after.offset)).Pairwise (· ≤ ·) ∧
    (∀ call ∈ made, ∀ text, call.answer = .quoted (.ok text) →
      Cursor.quoteMark ∉ text ∧ ∃ front back,
        script = front ++ Cursor.quoteMark :: (text ++ Cursor.quoteMark :: back) ∧
          call.before.offset ≤ front.length ∧
          call.after.offset = front.length + text.length + 2) ∧
    ∀ kept, Thinned made kept →
      (exchanges (.start script) (kept.map (·.request))).map (·.answer) = kept.map (·.answer) := by
  intro made
  have hstart := Cursor.at_start script
  refine ⟨map_request_exchanges _ requests, hstart.scanAll requests, ?within,
    pairwise_offsets _ requests, ?quotes, ?thinned⟩
  case within =>
    intro call hcall
    exact ⟨Cursor.offset_le_ask .., ((at_of_mem hstart hcall).ask call.request).1⟩
  case quotes =>
    intro call hcall text htext
    have hat := at_of_mem hstart hcall
    obtain ⟨request, before⟩ := call
    cases request with
    | quoted =>
      have hresult : before.quoted.1 = .ok text := Answer.quoted.inj htext
      exact hat.exists_quotes (Prod.ext hresult rfl)
    | keyword => cases htext
    | expect mark => cases htext
    | accept mark => cases htext
  case thinned =>
    intro kept hkept
    exact answers_of_thinned hkept rfl

/-- A comma is looked for in front of a text and a semicolon behind it, and neither is there; then another
text is opened and never closed.  Without the two calls both texts are answered as they were. -/
theorem reading_never_leaves_script_behind_failures :
    let script := Bytes.ofString " \"ab\" \""
    let requests : List Request := [.accept 0x2C, .quoted, .expect 0x3B, .quoted]
    let made := exchanges (.start script) requests
    let kept := made.filter fun call => !call.answer.isMiss
    made.map (·.after.offset) = [1, 5, 6, 7] ∧ (scanAll script 0 requests).isSome ∧
      (∃ call ∈ made, call.answer = .quoted (.ok (Bytes.ofString "ab")) ∧
        Cursor.quoteMark ∉ Bytes.ofString "ab") ∧
      Thinned made kept ∧ kept.map (·.request) = [.quoted, .quoted] ∧
      (exchanges (.start script) (kept.map (·.request))).map (·.answer) = kept.map (·.answer) := by
  intro script requests made kept
  obtain ⟨-, hscan, -, -, hquotes, hthinned⟩ := reading_never_leaves_script script requests
  have hsome : (scanAll script 0 requests).isSome := by
    rw [hscan]
    rfl
  obtain ⟨call, hcall, htext⟩ :
      ∃ call ∈ made, call.answer = .quoted (.ok (Bytes.ofString "ab")) :=
    ⟨_, .tail _ (.head _), rfl⟩
  have hkept : Thinned made kept := thinned_filter made
  exact ⟨by decide, hsome, ⟨call, hcall, htext, (hquotes call hcall _ htext).1⟩, hkept, by decide,
    hthinned kept hkept⟩

end FlightScript.Script
