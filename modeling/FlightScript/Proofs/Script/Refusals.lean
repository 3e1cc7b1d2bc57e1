import FlightScript.Proofs.Script.Halting
/-!
# Errors that point at the truth

A script that is refused in its call fails at one of the places of `Proofs.Script.Halting`, behind tokens
that are complete (`exists_fails_of_parse`).  What its error says about the octets of the script is read off
that place.

For the errors that blame the end of the script there is more to show: the script could have gone on.
Every place can be brought to the end of a call (`Place.exists_reaches_finished`), so a script that has
merely ended is the beginning of one that the grammar accepts, and the octet that was missed is the one
that it goes on with (`exists_layout_of_lacks`).
-/

namespace FlightScript.Script

/-! ## Scripts that are refused in their call -/

namespace Error

/-- Whether it is the call of a script that earns an error, and not its keyword, its end or its
command. -/
def isOfCall : Error → Bool
  | unexpectedByte .. | unexpectedEnd _ | unterminatedString _ => true
  | _ => false

/-- The octet for want of which a script has come to its end. -/
def lacks? : Error → Option UInt8
  | unexpectedEnd expected => some expected
  | unterminatedString _ => some Cursor.quoteMark
  | _ => none

end Error

variable {text : Bytes} {registry : Registry} {allowances : Allowances} {e : Error}

lemma Cursor.isOfCall_of_keyword {cursor after : Cursor} (h : cursor.keyword = (.error e, after)) :
    e.isOfCall = false := by
  unfold keyword at h
  simp only at h
  split at h
  · cases h
  · split at h
    · cases h
    · cases h
      rfl

/-- A script is refused in its call if it has the keyword in front of one, and the call is refused. -/
lemma Statement.read_eq_error_iff (hcall : e.isOfCall = true) :
    read text = .error e ↔
      ∃ (lead : Blanks) (word : Letters) (after : Cursor),
        hash word.octets = hash Keyword.invoke.spelling ∧
        (Cursor.start text).Passes (lead.octets ++ word.octets) after ∧ Stops isWordByte after.rest ∧
        Place.opening.Halts after e := by
  constructor
  · intro h
    unfold read at h
    split at h
    · cases h
      cases hcall
    · split at h
      · next hkeyword =>
        cases h
        rw [Cursor.isOfCall_of_keyword hkeyword] at hcall
        cases hcall
      · cases h
        cases hcall
      · next after hkeyword =>
        obtain ⟨hstop, -⟩ | ⟨lead, word, hhash, hpass, hapart⟩ := Cursor.keyword_eq_ok_iff.1 hkeyword
        · cases hstop
        · exact ⟨lead, word, after, hhash, hpass, hapart, readInvocation_eq_error_iff.1 h⟩
  · rintro ⟨lead, word, after, hhash, hpass, hapart, hhalts⟩
    have hnonempty : text ≠ [] := by
      rintro rfl
      have hrest := hpass.1
      simp only [Cursor.start, List.nil_eq, List.append_eq_nil_iff] at hrest
      exact Letters.ne_nil hhash hrest.1.2
    unfold read
    rw [if_neg (by simpa using hnonempty),
      Cursor.keyword_eq_ok_iff.2 (.inr ⟨lead, word, hhash, hpass, hapart⟩)]
    exact readInvocation_eq_error_iff.2 hhalts

/-- An error that a call earns is that of the statement, whatever is registered. -/
lemma parse_eq_error_iff_read (hcall : e.isOfCall = true) :
    (parse text registry allowances).1 = .error e ↔ Statement.read text = .error e := by
  constructor
  · intro h
    rcases hread : Statement.read text with e' | ⟨asked, after⟩
    · rw [parse_of_read_error hread] at h
      rw [Except.error.inj h]
    · -- what is left are the errors of the lookup, of the copy and of the end
      exfalso
      unfold parse at h
      simp only [hread, invoke_eq] at h
      split at h
      · next hinvoke =>
        split at hinvoke
        · cases hinvoke
          cases h
          cases hcall
        · split at hinvoke
          · cases hinvoke
            cases h
            cases hcall
          · cases hinvoke
      · split at h
        · cases h
        · cases h
          cases hcall
  · intro h
    rw [parse_of_read_error h]

/-- Some octets are complete tokens, blanks in front of each, that a script can begin with, and bring it to
a place. -/
def Begins (octets : Bytes) (place : Place) : Prop :=
  ∃ (lead : Blanks) (word : Letters) (call : Bytes),
    hash word.octets = hash Keyword.invoke.spelling ∧ Place.opening.Reaches call place ∧
      octets = lead.octets ++ word.octets ++ call

/-- A script that is refused in its call has complete tokens in front of the place where it fails. -/
lemma exists_fails_of_parse (hcall : e.isOfCall = true)
    (h : (parse text registry allowances).1 = .error e) :
    ∃ tokens place after, Begins tokens place ∧ (Cursor.start text).Passes tokens after ∧
      place.Fails after e := by
  obtain ⟨lead, word, opened, hhash, hword, -, call, place, after, hreaches, hpass, hfails⟩ :=
    (Statement.read_eq_error_iff hcall).1 ((parse_eq_error_iff_read hcall).1 h)
  exact ⟨_, place, after, ⟨lead, word, call, hhash, hreaches, rfl⟩, hword.trans hpass, hfails⟩

/-- A place at which the script has ended goes on with the octet that is missed, up to the semicolon. -/
lemma Place.Fails.exists_reaches_finished {place : Place} {cursor : Cursor} {mark : UInt8}
    (h : place.Fails cursor e) (hlacks : e.lacks? = some mark) :
    ∃ more, place.Reaches (cursor.rest ++ mark :: more) .finished := by
  cases h with
  | ended hmark blanks hrest =>
    cases hlacks
    obtain ⟨more, next, hleads⟩ := exists_leads hmark blanks
    obtain ⟨behind, hreaches⟩ := next.exists_reaches_finished
    refine ⟨more ++ behind, ?_⟩
    simpa [hrest] using Reaches.token hleads hreaches
  | misplaced => cases hlacks
  | unclosed hmark blanks text hrest =>
    cases hlacks
    obtain ⟨next, hleads⟩ := exists_leads_of_text hmark blanks text
    obtain ⟨behind, hreaches⟩ := next.exists_reaches_finished
    refine ⟨behind, ?_⟩
    simpa [hrest, Quotation.octets] using Reaches.token hleads hreaches

/-- **A script that has merely ended can go on.**  With the octet that was missed, and some more, it is a
script of the grammar. -/
lemma exists_layout_of_lacks {mark : UInt8} (hlacks : e.lacks? = some mark)
    (h : (parse text registry allowances).1 = .error e) :
    ∃ (more : Bytes) (layout : Layout), layout.octets = text ++ mark :: more := by
  have hcall : e.isOfCall = true := by
    cases e <;> first | rfl | cases hlacks
  obtain ⟨tokens, place, after, ⟨lead, word, call, hhash, hreaches, rfl⟩, hpass, hfails⟩ :=
    exists_fails_of_parse hcall h
  obtain ⟨more, hmore⟩ := hfails.exists_reaches_finished hlacks
  obtain ⟨whole, hwhole⟩ := (hreaches.trans hmore).exists_call
  refine ⟨more, ⟨lead, word, hhash, whole, ⟨[], by simp⟩, none⟩, ?_⟩
  have htext : text = lead.octets ++ word.octets ++ call ++ after.rest := hpass.1
  simp [Layout.octets, Ending.octets, hwhole, htext]

/-- What stands behind tokens and blanks stands in the script at the place that errors speak of. -/
lemma Cursor.Passes.text_eq {tokens blanks tail : Bytes} {after : Cursor}
    (h : (Cursor.start text).Passes tokens after) (hrest : after.rest = blanks ++ tail) :
    text = (tokens ++ blanks) ++ tail ∧ after.offset + blanks.length = (tokens ++ blanks).length := by
  obtain ⟨htext, hoffset⟩ := h
  refine ⟨?_, ?_⟩
  · rw [List.append_assoc, ← hrest]
    exact htext
  · rw [hoffset, List.length_append]
    simp [Cursor.start]

/-- **Errors of a call point at the truth.**  Where another octet is reported, it is the one that stands at
that place, and is neither a blank nor the one that was expected.  Where a text is reported as unclosed, a
quote stands at that place, and none behind it.  Where the end of the script is reported, the script is
made of complete tokens, up to a place where the octet was expected, and of blanks behind them.

The end is not to blame for anything else: a script that is refused for it goes on, with the octet that was
missed, to a script of the grammar. -/
theorem errors_point_at_truth (text : Bytes) (registry : Registry) (allowances : Allowances) :
    (∀ expected found offset,
      (parse text registry allowances).1 = .error (.unexpectedByte expected found offset) →
        offset < text.length ∧ text[offset]? = some found ∧ isBlank found = false ∧ found ≠ expected) ∧
    (∀ offset, (parse text registry allowances).1 = .error (.unterminatedString offset) →
      text[offset]? = some Cursor.quoteMark ∧
      (∀ later, offset < later → text[later]? ≠ some Cursor.quoteMark) ∧
      ∃ (more : Bytes) (layout : Layout), layout.octets = text ++ Cursor.quoteMark :: more) ∧
    (∀ expected, (parse text registry allowances).1 = .error (.unexpectedEnd expected) →
      (∃ tokens place, ∃ blanks : Blanks, Begins tokens place ∧ place.mark? = some expected ∧
        text = tokens ++ blanks.octets) ∧
      ∃ (more : Bytes) (layout : Layout), layout.octets = text ++ expected :: more) := by
  refine ⟨?misplaced, ?unclosed, ?ended⟩
  case misplaced =>
    intro expected found offset h
    obtain ⟨tokens, place, after, -, hpass, hfails⟩ := exists_fails_of_parse rfl h
    cases hfails with
    | misplaced hmark blanks hrest hblank hfound hcomma =>
      obtain ⟨htext, hoffset⟩ := hpass.text_eq hrest
      rw [hoffset, htext]
      exact ⟨by simp, by simp, hblank, hfound⟩
  case unclosed =>
    intro offset h
    obtain ⟨tokens, place, after, -, hpass, hfails⟩ := exists_fails_of_parse rfl h
    cases hfails with
    | unclosed hmark blanks unquoted hrest =>
      refine ⟨?_, ?_, exists_layout_of_lacks rfl h⟩
      all_goals
        obtain ⟨htext, hoffset⟩ := hpass.text_eq hrest
        rw [hoffset, htext]
      · simp
      · intro later hlater hquote
        obtain ⟨n, rfl⟩ := Nat.exists_eq_add_of_lt hlater
        rw [List.getElem?_append_right (by omega), List.getElem?_cons, if_neg (by omega)] at hquote
        simpa using unquoted.all _ (List.mem_of_getElem? hquote)
  case ended =>
    intro expected h
    obtain ⟨tokens, place, after, hbegins, hpass, hfails⟩ := exists_fails_of_parse rfl h
    cases hfails with
    | ended hmark blanks hrest =>
      exact ⟨⟨tokens, place, blanks, hbegins, hmark, hrest ▸ hpass.1⟩, exists_layout_of_lacks rfl h⟩

/-- Two scripts that are refused in their call: behind the name of one stands another mark than the closing
one, and the second text of the other is not closed, but could have been. -/
theorem errors_point_at_truth_of_two :
    (parse (Bytes.ofString "INVOKE(\"ping\" ]") .empty {}).1 =
        .error (.unexpectedByte Statement.closeMark 0x5D 14) ∧
      (Bytes.ofString "INVOKE(\"ping\" ]")[14]? = some 0x5D ∧
      (parse (Bytes.ofString "INVOKE(\"ping\",\"abc);") .empty {}).1 = .error (.unterminatedString 14) ∧
      (Bytes.ofString "INVOKE(\"ping\",\"abc);")[14]? = some Cursor.quoteMark ∧
      ∃ (more : Bytes) (layout : Layout),
        layout.octets = Bytes.ofString "INVOKE(\"ping\",\"abc);" ++ Cursor.quoteMark :: more := by
  have hmisplaced : (parse (Bytes.ofString "INVOKE(\"ping\" ]") .empty {}).1 =
      .error (.unexpectedByte Statement.closeMark 0x5D 14) := rfl
  have hunclosed : (parse (Bytes.ofString "INVOKE(\"ping\",\"abc);") .empty {}).1 =
      .error (.unterminatedString 14) := rfl
  have htruth := errors_point_at_truth (Bytes.ofString "INVOKE(\"ping\" ]") .empty {}
  have htruth' := errors_point_at_truth (Bytes.ofString "INVOKE(\"ping\",\"abc);") .empty {}
  obtain ⟨-, hfound, -⟩ := htruth.1 _ _ _ hmisplaced
  obtain ⟨hquote, -, hcontinued⟩ := htruth'.2.1 _ hunclosed
  exact ⟨hmisplaced, hfound, hunclosed, hquote, hcontinued⟩

end FlightScript.Script
