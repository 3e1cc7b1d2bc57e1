import FlightScript.Proofs.Script.Parsing
/-!
# Where reading stops

A script that is refused in the middle of its call was read up to a place between two tokens, and there
the next token could not be had.  This module takes the two apart.  A `Place` is where reading a call
stands; `Place.Reaches` says by which octets, all of them complete tokens, a call comes from one place to
another, and `Place.Fails` says what can be in the way of the next token: the script ends, another octet
stands there, or a text is opened and not closed.

`Statement.readInvocation_eq_error_iff` is the whole of it: a call is refused with an error if and only if
it reaches a place that fails with that error.  It is proved from the back, one place at a time, since what
is left to be read at a place does not depend on how that place was reached.
-/

namespace FlightScript.Script

/-! ## Places -/

/-- Where reading a call stands between two of its tokens: in front of its opening mark, its name, what
follows the name, its second text, what follows that, and its semicolon, or behind all of them. -/
inductive Place where
  | opening
  | name
  | afterName
  | second
  | afterSecond
  | semicolon
  | finished
  deriving DecidableEq, Repr

namespace Place

/-- The octet that has to be there next, behind blanks.  After the name a comma will do as well. -/
def mark? : Place → Option UInt8
  | opening => some Statement.openMark
  | name | second => some Cursor.quoteMark
  | afterName | afterSecond => some Statement.closeMark
  | semicolon => some Statement.semicolon
  | finished => none

/-- One token, with the blanks in front of it, leads from a place to the next. -/
inductive Leads : Place → Bytes → Place → Prop where
  | opening (before : Blanks) : Leads .opening (before.octets ++ [Statement.openMark]) .name
  | name (quotation : Quotation) : Leads .name quotation.octets .afterName
  | comma (before : Blanks) : Leads .afterName (before.octets ++ [Statement.comma]) .second
  | closing (before : Blanks) : Leads .afterName (before.octets ++ [Statement.closeMark]) .semicolon
  | second (quotation : Quotation) : Leads .second quotation.octets .afterSecond
  | closingSecond (before : Blanks) :
    Leads .afterSecond (before.octets ++ [Statement.closeMark]) .semicolon
  | semicolon (before : Blanks) : Leads .semicolon (before.octets ++ [Statement.semicolon]) .finished

/-- Complete tokens, one after another, bring a call from a place to another. -/
inductive Reaches : Place → Bytes → Place → Prop where
  | here (place : Place) : Reaches place [] place
  | token {place next last : Place} {octets more : Bytes} (hleads : place.Leads octets next)
    (hrest : next.Reaches more last) : Reaches place (octets ++ more) last

variable {place next last : Place} {octets more : Bytes} {mark : UInt8}

lemma Reaches.trans (h : place.Reaches octets next) (h' : next.Reaches more last) :
    place.Reaches (octets ++ more) last := by
  induction h with
  | here => exact h'
  | token hleads _ ih =>
    rw [List.append_assoc]
    exact .token hleads (ih h')

/-- From its opening mark to its semicolon a call is a `Call`. -/
lemma Reaches.exists_call (h : Reaches .opening octets .finished) : ∃ call : Call, call.octets = octets := by
  obtain _ | ⟨hopen, h⟩ := h
  cases hopen with | opening beforeOpen
  obtain _ | ⟨hname, h⟩ := h
  cases hname with | name name
  obtain _ | ⟨hclose, h⟩ := h
  cases hclose with
  | closing afterName =>
    obtain _ | ⟨hend, h⟩ := h
    cases hend with | semicolon beforeSemicolon
    obtain _ | ⟨⟨⟩, -⟩ := h
    exact ⟨⟨beforeOpen, name, afterName, none, beforeSemicolon⟩,
      by simp [Call.octets, SecondText.octets]⟩
  | comma afterName =>
    obtain _ | ⟨hsecond, h⟩ := h
    cases hsecond with | second quotation
    obtain _ | ⟨hclose, h⟩ := h
    cases hclose with | closingSecond after
    obtain _ | ⟨hend, h⟩ := h
    cases hend with | semicolon beforeSemicolon
    obtain _ | ⟨⟨⟩, -⟩ := h
    exact ⟨⟨beforeOpen, name, afterName, some ⟨quotation, after⟩, beforeSemicolon⟩,
      by simp [Call.octets, SecondText.octets]⟩

/-- A text that was opened leads on from its place as soon as it is closed. -/
lemma exists_leads_of_text (hmark : place.mark? = some Cursor.quoteMark) (before : Blanks)
    (text : Unquoted) : ∃ next, place.Leads (Quotation.mk before text).octets next := by
  cases place <;> cases hmark
  case name => exact ⟨_, .name _⟩
  case second => exact ⟨_, .second _⟩

/-- Behind any blanks, some token that begins with the mark of a place leads on from there. -/
lemma exists_leads (hmark : place.mark? = some mark) (before : Blanks) :
    ∃ more next, place.Leads (before.octets ++ mark :: more) next := by
  let empty : Unquoted := ⟨[], by simp⟩
  cases place <;> cases hmark
  case opening => exact ⟨[], _, .opening before⟩
  case name => exact ⟨[Cursor.quoteMark], exists_leads_of_text rfl before empty⟩
  case afterName => exact ⟨[], _, .closing before⟩
  case second => exact ⟨[Cursor.quoteMark], exists_leads_of_text rfl before empty⟩
  case afterSecond => exact ⟨[], _, .closingSecond before⟩
  case semicolon => exact ⟨[], _, .semicolon before⟩

/-- **Every place can be brought to the end of a call.** -/
lemma exists_reaches_finished (place : Place) : ∃ octets, place.Reaches octets .finished := by
  let none : Blanks := ⟨[], by simp⟩
  let empty : Quotation := ⟨none, ⟨[], by simp⟩⟩
  have hsemicolon := Reaches.token (.semicolon none) (.here .finished)
  have hafterSecond := Reaches.token (.closingSecond none) hsemicolon
  have hafterName := Reaches.token (.closing none) hsemicolon
  have hname := Reaches.token (.name empty) hafterName
  cases place with
  | opening => exact ⟨_, .token (.opening none) hname⟩
  | name => exact ⟨_, hname⟩
  | afterName => exact ⟨_, hafterName⟩
  | second => exact ⟨_, .token (.second empty) hafterSecond⟩
  | afterSecond => exact ⟨_, hafterSecond⟩
  | semicolon => exact ⟨_, hsemicolon⟩
  | finished => exact ⟨_, .here .finished⟩

/-! ## Failing at a place -/

/-- What is in the way of the token that is needed at a place: nothing stands there, or another octet, or a
text is opened and not closed. -/
inductive Fails (place : Place) (cursor : Cursor) : Error → Prop where
  | ended {mark : UInt8} (hmark : place.mark? = some mark) (blanks : Blanks)
    (hrest : cursor.rest = blanks.octets) : Fails place cursor (.unexpectedEnd mark)
  | misplaced {mark : UInt8} (hmark : place.mark? = some mark) (blanks : Blanks) {found : UInt8}
    {more : Bytes} (hrest : cursor.rest = blanks.octets ++ found :: more)
    (hblank : isBlank found = false) (hfound : found ≠ mark)
    (hcomma : place = .afterName → found ≠ Statement.comma) :
    Fails place cursor (.unexpectedByte mark found (cursor.offset + blanks.octets.length))
  | unclosed (hmark : place.mark? = some Cursor.quoteMark) (blanks : Blanks) (text : Unquoted)
    (hrest : cursor.rest = blanks.octets ++ Cursor.quoteMark :: text.octets) :
    Fails place cursor (.unterminatedString (cursor.offset + blanks.octets.length))

/-- A call goes on from a place and is refused at a later one, or at this one. -/
def Halts (place : Place) (cursor : Cursor) (e : Error) : Prop :=
  ∃ octets last after, place.Reaches octets last ∧ cursor.Passes octets after ∧ last.Fails after e

variable {cursor after : Cursor} {e : Error}

lemma halts_iff : place.Halts cursor e ↔ place.Fails cursor e ∨
    ∃ octets next after, place.Leads octets next ∧ cursor.Passes octets after ∧ next.Halts after e := by
  constructor
  · rintro ⟨octets, last, after, hreaches, hpass, hfails⟩
    cases hreaches with
    | here =>
      rw [hpass.eq_advance] at hfails
      exact .inl (by simpa [Cursor.advance] using hfails)
    | token hleads hrest =>
      obtain ⟨middle, hpass, hpass'⟩ := Cursor.passes_append_iff.1 hpass
      exact .inr ⟨_, _, middle, hleads, hpass, _, last, after, hrest, hpass', hfails⟩
  · rintro (hfails | ⟨octets, next, middle, hleads, hpass, more, last, after, hrest, hpass', hfails⟩)
    · exact ⟨[], place, cursor, .here place, by simp [Cursor.Passes], hfails⟩
    · exact ⟨octets ++ more, last, after, .token hleads hrest, hpass.trans hpass', hfails⟩

end Place

/-! ## Tokens that cannot be had -/

namespace Cursor

variable {cursor after : Cursor} {mark : UInt8} {e : Error}

/-- A required octet cannot be had if nothing is left but blanks, or if another one stands behind them. -/
lemma required_expect_eq_error_iff :
    Statement.required (cursor.expect mark) = .error e ↔
      (∃ blanks : Blanks, cursor.rest = blanks.octets ∧ e = .unexpectedEnd mark) ∨
      ∃ (blanks : Blanks) (found : UInt8) (more : Bytes),
        cursor.rest = blanks.octets ++ found :: more ∧ isBlank found = false ∧ found ≠ mark ∧
          e = .unexpectedByte mark found (cursor.offset + blanks.octets.length) := by
  constructor
  · intro h
    obtain ⟨after, h⟩ := Statement.required_eq_error_iff.1 h
    obtain ⟨blanks, hpass, hstops⟩ := skipBlanks_eq_iff.1 (rfl : cursor.skipBlanks = _)
    unfold expect at h
    simp only at h
    split at h
    · next hend =>
      cases h
      exact .inl ⟨blanks, by rw [hpass.1, hend, List.append_nil], rfl⟩
    · next found more hrest =>
      split at h
      · cases h
      · next hfound =>
        cases h
        rw [hrest, stops_cons] at hstops
        exact .inr ⟨blanks, found, more, by rw [hpass.1, hrest], hstops, hfound, by rw [hpass.2]⟩
  · rintro (⟨blanks, hrest, rfl⟩ | ⟨blanks, found, more, hrest, hblank, hfound, rfl⟩)
    · rw [← List.append_nil blanks.octets] at hrest
      obtain ⟨after, hpass, hend⟩ := exists_passes hrest
      have hskip := skipBlanks_eq_iff.2 ⟨blanks, hpass, by simp [hend]⟩
      simp [expect, hskip, hend]
    · obtain ⟨after, hpass, hfront⟩ := exists_passes hrest
      have hskip := skipBlanks_eq_iff.2 ⟨blanks, hpass, by simpa [hfront] using hblank⟩
      simp [expect, hskip, hfront, hfound, hpass.2]

/-- A quoted text cannot be had if the mark that opens it cannot, or if nothing closes it. -/
lemma required_quoted_eq_error_iff :
    Statement.required cursor.quoted = .error e ↔
      Statement.required (cursor.expect quoteMark) = .error e ∨
      ∃ (blanks : Blanks) (text : Unquoted),
        cursor.rest = blanks.octets ++ quoteMark :: text.octets ∧
          e = .unterminatedString (cursor.offset + blanks.octets.length) := by
  constructor
  · intro h
    obtain ⟨after, h⟩ := Statement.required_eq_error_iff.1 h
    unfold quoted at h
    split at h
    · next hexpect =>
      cases h
      exact .inl (Statement.required_eq_error_iff.2 ⟨_, hexpect⟩)
    · next hexpect =>
      simp only at h
      split at h
      · next hopen =>
        cases h
        obtain ⟨blanks, hpass⟩ := (expect_eq_ok_iff (by decide)).1 hexpect
        have htext : after.rest.takeWhile (· != quoteMark) = after.rest :=
          (List.takeWhile_prefix _).eq_of_length hopen
        refine .inr ⟨blanks, Run.front _ after.rest, ?_, ?_⟩
        · simpa [Run.front, htext] using hpass.1
        · simp [hpass.2]
      · cases h
  · rintro (h | ⟨blanks, text, hrest, rfl⟩)
    · obtain ⟨after, h⟩ := Statement.required_eq_error_iff.1 h
      simp [quoted, h]
    · have hsplit : cursor.rest = (blanks.octets ++ [quoteMark]) ++ text.octets := by simpa using hrest
      obtain ⟨opened, hpass, htext⟩ := exists_passes hsplit
      have hall := text.takeWhile_append stops_nil
      rw [List.append_nil] at hall
      unfold quoted
      rw [(expect_eq_ok_iff (by decide)).2 ⟨blanks, hpass⟩]
      simp [htext, hall, hpass.2]

lemma fst_accept_of_rest {blanks : Blanks} {tail : Bytes} (hrest : cursor.rest = blanks.octets ++ tail)
    (hstops : Stops isBlank tail) (hhead : tail.head? ≠ some mark) :
    (cursor.accept mark).1 = false := by
  obtain ⟨after, hpass, htail⟩ := exists_passes hrest
  rw [← htail] at hstops hhead
  rw [accept_eq_false_iff.2 ⟨blanks, hpass, hstops, hhead⟩]

/-- Looking for a mark that is not there changes nothing for the token behind it. -/
lemma expect_of_accept_eq_false {wanted : UInt8} (h : cursor.accept wanted = (false, after))
    (mark : UInt8) : after.expect mark = cursor.expect mark := by
  obtain ⟨blanks, hpass, hstops, -⟩ := accept_eq_false_iff.1 h
  have hskip : cursor.skipBlanks = after := skipBlanks_eq_iff.2 ⟨blanks, hpass, hstops⟩
  have hagain : after.skipBlanks = after :=
    skipBlanks_eq_iff.2 ⟨⟨[], by simp⟩, by simp [Passes], hstops⟩
  unfold expect
  rw [hskip, hagain]

end Cursor

namespace Place

variable {place next : Place} {cursor after : Cursor} {mark : UInt8} {e : Error}

lemma fails_iff (hmark : place.mark? = some mark) :
    place.Fails cursor e ↔
      (∃ blanks : Blanks, cursor.rest = blanks.octets ∧ e = .unexpectedEnd mark) ∨
      (∃ (blanks : Blanks) (found : UInt8) (more : Bytes),
        cursor.rest = blanks.octets ++ found :: more ∧ isBlank found = false ∧ found ≠ mark ∧
          (place = .afterName → found ≠ Statement.comma) ∧
          e = .unexpectedByte mark found (cursor.offset + blanks.octets.length)) ∨
      (mark = Cursor.quoteMark ∧ ∃ (blanks : Blanks) (text : Unquoted),
        cursor.rest = blanks.octets ++ Cursor.quoteMark :: text.octets ∧
          e = .unterminatedString (cursor.offset + blanks.octets.length)) := by
  constructor
  · intro h
    cases h with
    | ended hmark' blanks hrest =>
      obtain rfl := Option.some.inj (hmark.symm.trans hmark')
      exact .inl ⟨blanks, hrest, rfl⟩
    | misplaced hmark' blanks hrest hblank hfound hcomma =>
      obtain rfl := Option.some.inj (hmark.symm.trans hmark')
      exact .inr (.inl ⟨blanks, _, _, hrest, hblank, hfound, hcomma, rfl⟩)
    | unclosed hmark' blanks text hrest =>
      exact .inr (.inr ⟨Option.some.inj (hmark.symm.trans hmark'), blanks, text, hrest, rfl⟩)
  · rintro (⟨blanks, hrest, rfl⟩ | ⟨blanks, found, more, hrest, hblank, hfound, hcomma, rfl⟩ |
      ⟨rfl, blanks, text, hrest, rfl⟩)
    · exact .ended hmark blanks hrest
    · exact .misplaced hmark blanks hrest hblank hfound hcomma
    · exact .unclosed hmark blanks text hrest

/-- Where a mark of one octet is required and nothing else will do, a place fails as the mark does. -/
lemma fails_iff_of_mark (hmark : place.mark? = some mark) (hquote : mark ≠ Cursor.quoteMark)
    (hplace : place ≠ .afterName) :
    place.Fails cursor e ↔ Statement.required (cursor.expect mark) = .error e := by
  rw [fails_iff hmark, Cursor.required_expect_eq_error_iff]
  simp [hquote, hplace]

/-- Where a text is required, a place fails as the text does. -/
lemma fails_iff_of_text (hmark : place.mark? = some Cursor.quoteMark) :
    place.Fails cursor e ↔ Statement.required cursor.quoted = .error e := by
  have hplace : place ≠ .afterName := by
    rintro rfl
    cases hmark
  rw [fails_iff hmark, Cursor.required_quoted_eq_error_iff, Cursor.required_expect_eq_error_iff]
  simp [hplace, or_assoc]

/-! ## From the semicolon back to the opening mark -/

section Stages

variable {β : Type}

/-- What is left to be read behind an octet fails as the place behind it does.  Then the octet and what is
left fail as the place in front of it does. -/
lemma bind_expect_eq_error_iff (rest : Cursor → Except Error β) (hmark : place.mark? = some mark)
    (hquote : mark ≠ Cursor.quoteMark) (hplace : place ≠ .afterName) (hblank : isBlank mark = false)
    (hleads : ∀ before : Blanks, place.Leads (before.octets ++ [mark]) next)
    (hinv : ∀ {octets last}, place.Leads octets last →
      last = next ∧ ∃ before : Blanks, octets = before.octets ++ [mark])
    (hrest : ∀ after, rest after = .error e ↔ next.Halts after e) :
    (Statement.required (cursor.expect mark) >>= fun token => rest token.2) = .error e ↔
      place.Halts cursor e := by
  rw [Statement.bind_eq_error_iff, halts_iff, fails_iff_of_mark hmark hquote hplace]
  refine or_congr Iff.rfl ?_
  constructor
  · rintro ⟨⟨_, after⟩, htoken, herror⟩
    obtain ⟨before, hpass⟩ :=
      (Cursor.expect_eq_ok_iff hblank).1 (Statement.required_eq_ok_iff.1 htoken)
    exact ⟨_, next, after, hleads before, hpass, (hrest after).1 herror⟩
  · rintro ⟨octets, last, after, hnext, hpass, hhalts⟩
    obtain ⟨rfl, before, rfl⟩ := hinv hnext
    exact ⟨((), after),
      Statement.required_eq_ok_iff.2 ((Cursor.expect_eq_ok_iff hblank).2 ⟨before, hpass⟩),
      (hrest after).2 hhalts⟩

/-- The same of a text. -/
lemma bind_quoted_eq_error_iff (rest : Bytes → Cursor → Except Error β)
    (hmark : place.mark? = some Cursor.quoteMark)
    (hleads : ∀ quotation : Quotation, place.Leads quotation.octets next)
    (hinv : ∀ {octets last}, place.Leads octets last →
      last = next ∧ ∃ quotation : Quotation, octets = quotation.octets)
    (hrest : ∀ text after, rest text after = .error e ↔ next.Halts after e) :
    (Statement.required cursor.quoted >>= fun token => rest token.1 token.2) = .error e ↔
      place.Halts cursor e := by
  rw [Statement.bind_eq_error_iff, halts_iff, fails_iff_of_text hmark]
  refine or_congr Iff.rfl ?_
  constructor
  · rintro ⟨⟨text, after⟩, htoken, herror⟩
    obtain ⟨quotation, -, hpass⟩ := Cursor.quoted_eq_ok_iff.1 (Statement.required_eq_ok_iff.1 htoken)
    exact ⟨_, next, after, hleads quotation, hpass, (hrest text after).1 herror⟩
  · rintro ⟨octets, last, after, hnext, hpass, hhalts⟩
    obtain ⟨rfl, quotation, rfl⟩ := hinv hnext
    exact ⟨(quotation.text.octets, after),
      Statement.required_eq_ok_iff.2 (Cursor.quoted_eq_ok_iff.2 ⟨quotation, rfl, hpass⟩),
      (hrest _ after).2 hhalts⟩

lemma readArgument_of_accept_eq_false (h : cursor.accept Statement.comma = (false, after)) :
    Statement.readArgument cursor = .ok (none, after) := by
  rw [Statement.readArgument, h]

lemma readArgument_bind_of_accept_eq_true (h : cursor.accept Statement.comma = (true, after))
    (rest : Option Bytes × Cursor → Except Error β) :
    Statement.readArgument cursor >>= rest =
      Statement.required after.quoted >>= fun text => rest (some text.1, text.2) := by
  rw [Statement.readArgument, h]
  simp only
  rcases after.quoted with ⟨e | text, behind⟩ <;> rfl

/-- Behind its semicolon a call is not refused any more. -/
lemma not_halts_finished (cursor : Cursor) (e : Error) : ¬ Place.finished.Halts cursor e := by
  rw [halts_iff]
  rintro (hfails | ⟨_, _, _, hleads, -⟩)
  · cases hfails <;> contradiction
  · cases hleads

/-- Behind the name, where no comma follows, the closing mark is read. -/
lemma bind_closing_eq_error_iff (rest : Cursor → Except Error β)
    (haccept : (cursor.accept Statement.comma).1 = false)
    (hrest : ∀ after, rest after = .error e ↔ Place.semicolon.Halts after e) :
    (Statement.required (cursor.expect Statement.closeMark) >>= fun token => rest token.2) = .error e ↔
      Place.afterName.Halts cursor e := by
  have hclose : isBlank Statement.closeMark = false := by decide
  have hno : ∀ (before : Blanks) after, ¬ cursor.Passes (before.octets ++ [Statement.comma]) after := by
    intro before after hpass
    rw [(Cursor.accept_eq_true_iff (by decide)).2 ⟨before, hpass⟩] at haccept
    cases haccept
  rw [Statement.bind_eq_error_iff, halts_iff, fails_iff rfl, Cursor.required_expect_eq_error_iff]
  refine or_congr ⟨?_, ?_⟩ ⟨?_, ?_⟩
  · rintro (hended | ⟨blanks, found, more, hrest, hblank, hfound, he⟩)
    · exact .inl hended
    · refine .inr (.inl ⟨blanks, found, more, hrest, hblank, hfound, ?_, he⟩)
      rintro - rfl
      obtain ⟨after, hpass, -⟩ := Cursor.exists_passes
        (show cursor.rest = (blanks.octets ++ [Statement.comma]) ++ more by simp [hrest])
      exact hno blanks after hpass
  · rintro (hended | ⟨blanks, found, more, hrest, hblank, hfound, -, he⟩ | ⟨hquote, -⟩)
    · exact .inl hended
    · exact .inr ⟨blanks, found, more, hrest, hblank, hfound, he⟩
    · exact absurd hquote (by decide)
  · rintro ⟨⟨_, after⟩, htoken, herror⟩
    obtain ⟨before, hpass⟩ := (Cursor.expect_eq_ok_iff hclose).1 (Statement.required_eq_ok_iff.1 htoken)
    exact ⟨_, .semicolon, after, .closing before, hpass, (hrest after).1 herror⟩
  · rintro ⟨octets, last, after, hleads, hpass, hhalts⟩
    cases hleads with
    | comma before => exact absurd hpass (hno before after)
    | closing before =>
      exact ⟨((), after),
        Statement.required_eq_ok_iff.2 ((Cursor.expect_eq_ok_iff hclose).2 ⟨before, hpass⟩),
        (hrest after).2 hhalts⟩

/-- Behind a comma there has to be a text, and nothing else can be in its way. -/
lemma halts_of_comma (haccept : cursor.accept Statement.comma = (true, after)) :
    Place.afterName.Halts cursor e ↔ Place.second.Halts after e := by
  have hno : ∀ (blanks : Blanks) (tail : Bytes), cursor.rest = blanks.octets ++ tail →
      Stops isBlank tail → ¬ tail.head? ≠ some Statement.comma := by
    intro blanks tail hrest hstops hhead
    have hfst := Cursor.fst_accept_of_rest hrest hstops hhead
    rw [haccept] at hfst
    cases hfst
  rw [halts_iff]
  constructor
  · rintro (hfails | ⟨octets, last, after', hleads, hpass, hhalts⟩)
    · exfalso
      cases hfails with
      | ended _ blanks hrest => exact hno blanks [] (by simpa using hrest) stops_nil (by simp)
      | misplaced _ blanks hrest hblank _ hcomma =>
        exact hno blanks _ hrest (stops_cons.2 hblank) (by simpa using hcomma rfl)
      | unclosed hmark => cases hmark
    · cases hleads with
      | comma before =>
        have hsame := (Cursor.accept_eq_true_iff (by decide)).2 ⟨before, hpass⟩
        rw [haccept] at hsame
        cases hsame
        exact hhalts
      | closing before =>
        exfalso
        exact hno before (Statement.closeMark :: after'.rest) (by simpa using hpass.1)
          (stops_cons.2 (by decide)) (by simp; decide)
  · intro hhalts
    obtain ⟨before, hpass⟩ := (Cursor.accept_eq_true_iff (by decide)).1 haccept
    exact .inr ⟨_, .second, after, .comma before, hpass, hhalts⟩

/-- So behind the name a second text is read if a comma announces it, and then the closing mark. -/
lemma bind_readArgument_eq_error_iff (rest : Option Bytes → Cursor → Except Error β)
    (hrest : ∀ argument after, rest argument after = .error e ↔ Place.semicolon.Halts after e) :
    (Statement.readArgument cursor >>= fun read =>
      Statement.required (read.2.expect Statement.closeMark) >>= fun token => rest read.1 token.2) =
        .error e ↔ Place.afterName.Halts cursor e := by
  rcases haccept : cursor.accept Statement.comma with ⟨_ | _, after⟩
  · rw [readArgument_of_accept_eq_false haccept,
      ← bind_closing_eq_error_iff (rest none) (by rw [haccept]) (hrest none),
      ← Cursor.expect_of_accept_eq_false haccept]
    rfl
  · rw [halts_of_comma haccept, readArgument_bind_of_accept_eq_true haccept]
    refine bind_quoted_eq_error_iff (fun text behind => Statement.required (behind.expect _) >>= fun token =>
      rest (some text) token.2) rfl .second ?_ fun text behind => ?_
    · intro _ _ hleads
      cases hleads with | second quotation => exact ⟨rfl, quotation, rfl⟩
    · refine bind_expect_eq_error_iff (rest (some text)) rfl (by decide) (by decide) (by decide)
        .closingSecond ?_ (hrest _)
      intro _ _ hleads
      cases hleads with | closingSecond before => exact ⟨rfl, before, rfl⟩

end Stages

end Place

/-- **A call is refused exactly as one of its places fails.** -/
lemma Statement.readInvocation_eq_error_iff {cursor : Cursor} {e : Error} :
    readInvocation cursor = .error e ↔ Place.opening.Halts cursor e := by
  refine Place.bind_expect_eq_error_iff (fun cursor => required cursor.quoted >>= fun name =>
    readArgument name.2 >>= fun argument => required (argument.2.expect closeMark) >>= fun closed =>
      required (closed.2.expect semicolon) >>= fun ended =>
        .ok ((⟨name.1, argument.1⟩ : Statement), ended.2)) rfl (by decide) (by decide) (by decide)
    .opening ?_ fun cursor => ?_
  · intro _ _ hleads
    cases hleads with | opening before => exact ⟨rfl, before, rfl⟩
  refine Place.bind_quoted_eq_error_iff (fun name cursor => readArgument cursor >>= fun argument =>
    required (argument.2.expect closeMark) >>= fun closed =>
      required (closed.2.expect semicolon) >>= fun ended =>
        .ok ((⟨name, argument.1⟩ : Statement), ended.2)) rfl .name ?_ fun name cursor => ?_
  · intro _ _ hleads
    cases hleads with | name quotation => exact ⟨rfl, quotation, rfl⟩
  refine Place.bind_readArgument_eq_error_iff (fun argument cursor =>
    required (cursor.expect semicolon) >>= fun ended =>
      .ok ((⟨name, argument⟩ : Statement), ended.2)) fun argument cursor => ?_
  refine Place.bind_expect_eq_error_iff (fun after => .ok ((⟨name, argument⟩ : Statement), after)) rfl
    (by decide) (by decide) (by decide) .semicolon ?_ fun cursor => ?_
  · intro _ _ hleads
    cases hleads with | semicolon before => exact ⟨rfl, before, rfl⟩
  · exact ⟨nofun, fun hhalts => absurd hhalts (Place.not_halts_finished cursor e)⟩

end FlightScript.Script
