import FlightScript.Proofs.Script.Layout
import FlightScript.Script
/-!
# Reading is taking apart

What the reader accepts is exactly what `Layout` describes.  Each reading function is characterised
by the octets it passes (`Cursor.Passes`): it succeeds with a value if and only if the cursor has a
token of that value in front, blanks first.  The characterisations compose the way the reader does,
and so those of the tokens give that of a call (`Statement.readInvocation_eq_ok_iff`), of a statement
(`Statement.read_eq_ok_iff`) and of a whole script (`Statement.ofScript_eq_ok_iff`).

Both directions are needed at every token.  A reader that refused everything would be sound, and one
that passed over what it does not know would be complete.

## Optional blanks

The reader skips blanks in front of a token, also in front of one that it then does not find.  So
when no comma follows the name, the blanks are passed in looking for it, and the closing mark is
found without any; `Stops.nil_of_append` says that a second helping of blanks is empty.
-/

namespace FlightScript.Script

variable {test : UInt8 → Bool} {mark : UInt8} {text text' : Bytes} {cursor after : Cursor}

namespace Cursor

/-! ## Passing octets -/

/-- From one cursor to another these octets are passed. -/
def Passes (cursor : Cursor) (text : Bytes) (after : Cursor) : Prop :=
  cursor.rest = text ++ after.rest ∧ after.offset = cursor.offset + text.length

lemma passes_advance (h : text <+: cursor.rest) : cursor.Passes text (cursor.advance text.length) := by
  obtain ⟨rest, hrest⟩ := h
  simp [Passes, advance, ← hrest]

lemma exists_passes {rest : Bytes} (h : cursor.rest = text ++ rest) :
    ∃ after, cursor.Passes text after ∧ after.rest = rest :=
  ⟨cursor.advance text.length, passes_advance ⟨rest, h.symm⟩, by simp [advance, h]⟩

lemma Passes.eq_advance (h : cursor.Passes text after) : after = cursor.advance text.length := by
  obtain ⟨offset, rest⟩ := after
  obtain ⟨hrest, hoffset⟩ := h
  simp only at hrest hoffset
  simp [advance, hrest, hoffset]

lemma Passes.trans {middle : Cursor} (h : cursor.Passes text middle) (h' : middle.Passes text' after) :
    cursor.Passes (text ++ text') after := by
  obtain ⟨hrest, hoffset⟩ := h
  obtain ⟨hrest', hoffset'⟩ := h'
  refine ⟨by rw [hrest, hrest', List.append_assoc], ?_⟩
  rw [hoffset', hoffset, List.length_append]
  omega

/-- Octets that are passed one after another are passed together, and the other way round. -/
lemma passes_append_iff :
    cursor.Passes (text ++ text') after ↔
      ∃ middle, cursor.Passes text middle ∧ middle.Passes text' after := by
  constructor
  · rintro ⟨hrest, hoffset⟩
    rw [List.length_append] at hoffset
    refine ⟨cursor.advance text.length, passes_advance ?_, ?_⟩
    · rw [hrest, List.append_assoc]
      exact List.prefix_append text _
    · refine ⟨?_, ?_⟩
      · simp [advance, hrest]
      · simp only [advance]
        omega
  · rintro ⟨middle, h, h'⟩
    exact h.trans h'

lemma passes_mark_iff : cursor.Passes [mark] after ↔
    cursor.rest.head? = some mark ∧ after = cursor.advance 1 := by
  constructor
  · intro h
    exact ⟨by simp [h.1], h.eq_advance⟩
  · rintro ⟨hhead, rfl⟩
    refine passes_advance ?_
    obtain ⟨more, hmore⟩ := List.head?_eq_some_iff.1 hhead
    simp [hmore]

/-! ## Runs -/

lemma rest_skipWhile (cursor : Cursor) (test : UInt8 → Bool) :
    (cursor.skipWhile test).rest = cursor.rest.dropWhile test := by
  have hsplit := List.takeWhile_append_dropWhile (p := test) (l := cursor.rest)
  simp only [skipWhile, advance]
  calc cursor.rest.drop (cursor.rest.takeWhile test).length
      = (cursor.rest.takeWhile test ++ cursor.rest.dropWhile test).drop
          (cursor.rest.takeWhile test).length := by rw [hsplit]
    _ = cursor.rest.dropWhile test := List.drop_left

lemma stops_skipWhile (cursor : Cursor) (test : UInt8 → Bool) :
    Stops test (cursor.skipWhile test).rest := by
  intro b hb
  have hhead := List.head?_dropWhile_not test cursor.rest
  rw [rest_skipWhile] at hb
  rw [Option.mem_def.1 hb] at hhead
  simpa using hhead

/-- Skipping a class passes a run of it, as long as it can be. -/
lemma skipWhile_eq_iff :
    cursor.skipWhile test = after ↔
      ∃ run : Run test, cursor.Passes run.octets after ∧ Stops test after.rest := by
  constructor
  · rintro rfl
    exact ⟨Run.front test cursor.rest, passes_advance (List.takeWhile_prefix test),
      stops_skipWhile cursor test⟩
  · rintro ⟨run, hpass, hstops⟩
    rw [hpass.eq_advance, skipWhile, hpass.1, run.takeWhile_append hstops]

lemma skipBlanks_eq_iff :
    cursor.skipBlanks = after ↔
      ∃ blanks : Blanks, cursor.Passes blanks.octets after ∧ Stops isBlank after.rest :=
  skipWhile_eq_iff

end Cursor

/-- Where a class has ended, no more of it follows. -/
lemma Stops.nil_of_append {run : Run test} {rest : Bytes} (h : Stops test (run.octets ++ rest)) :
    run.octets = [] := by
  cases hrun : run.octets with
  | nil => rfl
  | cons b more =>
    rw [hrun, List.cons_append, stops_cons, run.all b (by simp [hrun])] at h
    cases h

namespace Cursor

/-! ## Tokens -/

/-- Blanks and then a certain octet are passed exactly if the octet is there behind the blanks. -/
lemma passes_blanks_mark_iff (hmark : isBlank mark = false) :
    (∃ blanks : Blanks, cursor.Passes (blanks.octets ++ [mark]) after) ↔
      cursor.skipBlanks.rest.head? = some mark ∧ after = cursor.skipBlanks.advance 1 := by
  constructor
  · rintro ⟨blanks, h⟩
    obtain ⟨middle, hblanks, hpass⟩ := passes_append_iff.1 h
    have hstops : Stops isBlank middle.rest := by
      rw [hpass.1]
      exact stops_cons.2 hmark
    rw [skipBlanks_eq_iff.2 ⟨blanks, hblanks, hstops⟩]
    exact passes_mark_iff.1 hpass
  · intro h
    obtain ⟨blanks, hblanks, -⟩ := skipBlanks_eq_iff.1 (rfl : cursor.skipBlanks = _)
    exact ⟨blanks, hblanks.trans (passes_mark_iff.2 h)⟩

lemma expect_eq_ok_iff (hmark : isBlank mark = false) :
    cursor.expect mark = (.ok (), after) ↔
      ∃ blanks : Blanks, cursor.Passes (blanks.octets ++ [mark]) after := by
  rw [passes_blanks_mark_iff hmark]
  unfold expect
  simp only
  cases hrest : cursor.skipBlanks.rest with
  | nil => simp
  | cons found more =>
    by_cases hfound : found = mark
    · simp [hfound, eq_comm]
    · simp [hfound]

lemma accept_eq_true_iff (hmark : isBlank mark = false) :
    cursor.accept mark = (true, after) ↔
      ∃ blanks : Blanks, cursor.Passes (blanks.octets ++ [mark]) after := by
  rw [passes_blanks_mark_iff hmark]
  unfold accept
  simp only
  split
  · next hhead => simp [hhead, eq_comm]
  · next hhead => simp [hhead]

lemma accept_eq_false_iff :
    cursor.accept mark = (false, after) ↔
      ∃ blanks : Blanks, cursor.Passes blanks.octets after ∧ Stops isBlank after.rest ∧
        after.rest.head? ≠ some mark := by
  unfold accept
  simp only
  constructor
  · intro h
    split at h
    · cases h
    · next hhead =>
      obtain rfl := (Prod.mk.inj h).2
      obtain ⟨blanks, hpass, hstops⟩ := skipBlanks_eq_iff.1 (rfl : cursor.skipBlanks = _)
      exact ⟨blanks, hpass, hstops, hhead⟩
  · rintro ⟨blanks, hpass, hstops, hhead⟩
    rw [skipBlanks_eq_iff.2 ⟨blanks, hpass, hstops⟩, if_neg hhead]

/-- A quoted text is read exactly if one is in front. -/
lemma quoted_eq_ok_iff :
    cursor.quoted = (.ok text, after) ↔
      ∃ quotation : Quotation,
        quotation.text.octets = text ∧ cursor.Passes quotation.octets after := by
  constructor
  · intro h
    unfold quoted at h
    split at h
    · cases h
    · next opened hopened =>
      obtain ⟨blanks, hblanks⟩ := (expect_eq_ok_iff (by decide)).1 hopened
      simp only at h
      split at h
      · cases h
      · next hclosed =>
        obtain ⟨htext, hafter⟩ := Prod.mk.inj h
        obtain rfl := Except.ok.inj htext
        -- what ends the text before the script does is the closing mark
        obtain ⟨b, more, hstop, hrest⟩ := Run.exists_stop hclosed
        obtain rfl : b = quoteMark := by simpa using hstop
        refine ⟨⟨blanks, Run.front _ opened.rest⟩, rfl, ?_⟩
        have hpass : opened.Passes (opened.rest.takeWhile (· != quoteMark) ++ [quoteMark]) after := by
          rw [← hafter, ← List.length_singleton, ← List.length_append]
          exact passes_advance ⟨more, by simpa using hrest.symm⟩
        simpa [Quotation.octets, Run.front] using hblanks.trans hpass
  · rintro ⟨⟨blanks, text⟩, rfl, hpass⟩
    simp only [Quotation.octets] at hpass
    rw [← List.singleton_append, ← List.append_assoc] at hpass
    obtain ⟨opened, hopened, hpass⟩ := passes_append_iff.1 hpass
    have hexpect := (expect_eq_ok_iff (by decide)).2 ⟨blanks, hopened⟩
    have hrest : opened.rest = text.octets ++ quoteMark :: after.rest := by
      simpa using hpass.1
    have htake : opened.rest.takeWhile (· != quoteMark) = text.octets := by
      rw [hrest]
      exact text.takeWhile_append (stops_cons.2 (by decide))
    unfold quoted
    rw [hexpect]
    simp only [htake]
    rw [if_neg (by simp [hrest]), hpass.eq_advance, List.length_append, List.length_singleton]

end Cursor

lemma Keyword.ofWord?_eq_some_iff {word : Bytes} {keyword : Keyword} :
    Keyword.ofWord? word = some keyword ↔ hash word = hash keyword.spelling := by
  have hdiffer : hash invoke.spelling ≠ hash stop.spelling := by decide
  unfold ofWord?
  split
  · next hword => cases keyword <;> simp [hword, hdiffer]
  · next hword =>
    split
    · next hword' => cases keyword <;> simp [hword', hdiffer.symm]
    · next hword' => cases keyword <;> simp [hword, hword']

/-- A keyword is read off a word of its hash, as long as the word can be; the end of the script is
read as the keyword that ends it. -/
lemma Cursor.keyword_eq_ok_iff {keyword : Keyword} :
    cursor.keyword = (.ok keyword, after) ↔
      (keyword = .stop ∧ after.rest = [] ∧
        ∃ blanks : Blanks, cursor.Passes blanks.octets after) ∨
      ∃ (blanks : Blanks) (word : Letters), hash word.octets = hash keyword.spelling ∧
        cursor.Passes (blanks.octets ++ word.octets) after ∧ Stops isWordByte after.rest := by
  obtain ⟨blanks, hblanks, hstops⟩ := skipBlanks_eq_iff.1 (rfl : cursor.skipBlanks = _)
  constructor
  · intro h
    unfold Cursor.keyword at h
    simp only at h
    split at h
    · next hend =>
      obtain ⟨hkeyword, rfl⟩ := Prod.mk.inj h
      exact .inl ⟨(Except.ok.inj hkeyword).symm, List.isEmpty_iff.1 hend, blanks, hblanks⟩
    · split at h
      · next hword =>
        obtain ⟨hkeyword, hafter⟩ := Prod.mk.inj h
        obtain rfl := Except.ok.inj hkeyword
        obtain ⟨word, hpass, hapart⟩ := skipWhile_eq_iff.1 hafter
        refine .inr ⟨blanks, word, ?_, hblanks.trans hpass, hapart⟩
        rw [hpass.1, word.takeWhile_append hapart] at hword
        exact Keyword.ofWord?_eq_some_iff.1 hword
      · cases h
  · rintro (⟨rfl, hend, blanks', hpass⟩ | ⟨blanks', word, hhash, hpass, hapart⟩)
    · have hskip : cursor.skipBlanks = after :=
        skipBlanks_eq_iff.2 ⟨blanks', hpass, by simp [hend]⟩
      unfold Cursor.keyword
      simp [hskip, hend]
    · obtain ⟨middle, hpass', hword⟩ := passes_append_iff.1 hpass
      have hletter : Stops isBlank middle.rest := by
        rw [hword.1]
        exact Letters.stops_append hhash after.rest
      have hskip : cursor.skipBlanks = middle := skipBlanks_eq_iff.2 ⟨blanks', hpass', hletter⟩
      have hnonempty : ¬ middle.rest.isEmpty := by
        intro hnil
        rw [hword.1, List.isEmpty_iff, List.append_eq_nil_iff] at hnil
        exact Letters.ne_nil hhash hnil.1
      unfold Cursor.keyword
      simp only [hskip]
      rw [if_neg hnonempty, hword.1, word.takeWhile_append hapart,
        Keyword.ofWord?_eq_some_iff.2 hhash, skipWhile_eq_iff.2 ⟨word, hword, hapart⟩]

namespace Statement

/-! ## A call -/

lemma bind_eq_ok_iff {α β : Type} {first : Except Error α} {next : α → Except Error β} {b : β} :
    first >>= next = .ok b ↔ ∃ a, first = .ok a ∧ next a = .ok b := by
  cases first with
  | error e => simp [bind, Except.bind]
  | ok a => simp [bind, Except.bind]

lemma required_eq_ok_iff {α : Type} {token : Except Error α × Cursor} {a : α} :
    required token = .ok (a, after) ↔ token = (.ok a, after) := by
  obtain ⟨result, place⟩ := token
  cases result with
  | error e => simp [required]
  | ok a' => simp [required]

/-- Either no comma follows the blanks, or it is followed by a quoted text. -/
lemma readArgument_eq_ok_iff {argument : Option Bytes} :
    readArgument cursor = .ok (argument, after) ↔
      (argument = none ∧ ∃ blanks : Blanks, cursor.Passes blanks.octets after ∧
        Stops isBlank after.rest ∧ after.rest.head? ≠ some comma) ∨
      ∃ (blanks : Blanks) (quotation : Quotation), argument = some quotation.text.octets ∧
        cursor.Passes (blanks.octets ++ comma :: quotation.octets) after := by
  have hcomma : isBlank comma = false := by decide
  constructor
  · intro h
    unfold readArgument at h
    split at h
    · next place haccept =>
      obtain ⟨rfl, rfl⟩ := Prod.mk.inj (Except.ok.inj h)
      exact .inl ⟨rfl, Cursor.accept_eq_false_iff.1 haccept⟩
    · next place haccept =>
      split at h
      · cases h
      · next text place' hquoted =>
        obtain ⟨rfl, rfl⟩ := Prod.mk.inj (Except.ok.inj h)
        obtain ⟨blanks, hblanks⟩ := (Cursor.accept_eq_true_iff hcomma).1 haccept
        obtain ⟨quotation, rfl, hpass⟩ := Cursor.quoted_eq_ok_iff.1 hquoted
        refine .inr ⟨blanks, quotation, rfl, ?_⟩
        simpa using hblanks.trans hpass
  · rintro (⟨rfl, hblanks⟩ | ⟨blanks, quotation, rfl, hpass⟩)
    · unfold readArgument
      rw [Cursor.accept_eq_false_iff.2 hblanks]
    · rw [← List.singleton_append, ← List.append_assoc, Cursor.passes_append_iff] at hpass
      obtain ⟨place, hblanks, hpass⟩ := hpass
      unfold readArgument
      rw [(Cursor.accept_eq_true_iff hcomma).2 ⟨blanks, hblanks⟩]
      simp only
      rw [Cursor.quoted_eq_ok_iff.2 ⟨quotation, rfl, hpass⟩]

/-- What stands between the name and the semicolon: the blanks, a second text if there is one, and
the closing mark. -/
lemma readArgument_expect_iff {argument : Option Bytes} :
    (∃ place, readArgument cursor = .ok (argument, place) ∧
        place.expect closeMark = (.ok (), after)) ↔
      ∃ (blanks : Blanks) (second : Option SecondText),
        argument = second.map (fun second => second.quotation.text.octets) ∧
          cursor.Passes (blanks.octets ++ (SecondText.octets second ++ [closeMark])) after := by
  have hclose : isBlank closeMark = false := by decide
  constructor
  · rintro ⟨place, hread, hexpect⟩
    obtain ⟨gap, hgap⟩ := (Cursor.expect_eq_ok_iff hclose).1 hexpect
    obtain ⟨rfl, blanks, hblanks, hstops, -⟩ | ⟨blanks, quotation, rfl, hpass⟩ :=
      readArgument_eq_ok_iff.1 hread
    · refine ⟨blanks, none, rfl, ?_⟩
      -- the blanks were passed in looking for the comma
      rw [hgap.1, List.append_assoc] at hstops
      rw [hstops.nil_of_append] at hgap
      simpa [SecondText.octets] using hblanks.trans hgap
    · refine ⟨blanks, some ⟨quotation, gap⟩, rfl, ?_⟩
      simpa [SecondText.octets] using hpass.trans hgap
  · rintro ⟨blanks, second, rfl, hpass⟩
    cases second with
    | none =>
      obtain ⟨place, hblanks, hmark⟩ := Cursor.passes_append_iff.1 hpass
      rw [SecondText.octets, List.nil_append] at hmark
      have hrest : place.rest = closeMark :: after.rest := hmark.1
      refine ⟨place, readArgument_eq_ok_iff.2 (.inl ⟨rfl, blanks, hblanks, ?_, ?_⟩), ?_⟩
      · rw [hrest]
        exact stops_cons.2 hclose
      · rw [hrest, List.head?_cons]
        decide
      · exact (Cursor.expect_eq_ok_iff hclose).2 ⟨⟨[], by simp⟩, hmark⟩
    | some second =>
      have hsplit : blanks.octets ++ (SecondText.octets (some second) ++ [closeMark]) =
          (blanks.octets ++ comma :: second.quotation.octets) ++
            (second.after.octets ++ [closeMark]) := by
        simp [SecondText.octets]
      rw [hsplit] at hpass
      obtain ⟨place, hsecond, hmark⟩ := Cursor.passes_append_iff.1 hpass
      exact ⟨place, readArgument_eq_ok_iff.2 (.inr ⟨blanks, second.quotation, rfl, hsecond⟩),
        (Cursor.expect_eq_ok_iff hclose).2 ⟨second.after, hmark⟩⟩

/-- **All of an invocation but its keyword is read exactly if it is a call.** -/
lemma readInvocation_eq_ok_iff {statement : Statement} :
    readInvocation cursor = .ok (statement, after) ↔
      ∃ call : Call, call.statement = statement ∧ cursor.Passes call.octets after := by
  have hopen : isBlank openMark = false := by decide
  have hsemicolon : isBlank semicolon = false := by decide
  constructor
  · intro h
    unfold readInvocation at h
    obtain ⟨⟨_, opened⟩, h₁, h⟩ := bind_eq_ok_iff.1 h
    obtain ⟨⟨name, named⟩, h₂, h⟩ := bind_eq_ok_iff.1 h
    obtain ⟨⟨argument, argued⟩, h₃, h⟩ := bind_eq_ok_iff.1 h
    obtain ⟨⟨_, closed⟩, h₄, h⟩ := bind_eq_ok_iff.1 h
    obtain ⟨⟨_, ended⟩, h₅, h⟩ := bind_eq_ok_iff.1 h
    obtain ⟨rfl, rfl⟩ := Prod.mk.inj (Except.ok.inj h)
    obtain ⟨beforeOpen, hpass₁⟩ := (Cursor.expect_eq_ok_iff hopen).1 (required_eq_ok_iff.1 h₁)
    obtain ⟨name, rfl, hpass₂⟩ := Cursor.quoted_eq_ok_iff.1 (required_eq_ok_iff.1 h₂)
    obtain ⟨afterName, second, rfl, hpass₃⟩ :=
      readArgument_expect_iff.1 ⟨argued, h₃, required_eq_ok_iff.1 h₄⟩
    obtain ⟨beforeSemicolon, hpass₄⟩ :=
      (Cursor.expect_eq_ok_iff hsemicolon).1 (required_eq_ok_iff.1 h₅)
    refine ⟨⟨beforeOpen, name, afterName, second, beforeSemicolon⟩, rfl, ?_⟩
    simpa [Call.octets] using ((hpass₁.trans hpass₂).trans hpass₃).trans hpass₄
  · rintro ⟨call, rfl, hpass⟩
    have hsplit : call.octets = (call.beforeOpen.octets ++ [openMark]) ++ (call.name.octets ++
        ((call.afterName.octets ++ (SecondText.octets call.second ++ [closeMark])) ++
          (call.beforeSemicolon.octets ++ [semicolon]))) := by
      simp [Call.octets]
    rw [hsplit] at hpass
    obtain ⟨opened, hpass₁, hpass⟩ := Cursor.passes_append_iff.1 hpass
    obtain ⟨named, hpass₂, hpass⟩ := Cursor.passes_append_iff.1 hpass
    obtain ⟨closed, hpass₃, hpass₄⟩ := Cursor.passes_append_iff.1 hpass
    obtain ⟨argued, hread, hclosed⟩ :=
      readArgument_expect_iff.2 ⟨call.afterName, call.second, rfl, hpass₃⟩
    unfold readInvocation
    rw [(Cursor.expect_eq_ok_iff hopen).2 ⟨_, hpass₁⟩, required_ok]
    simp only [bind, Except.bind]
    rw [Cursor.quoted_eq_ok_iff.2 ⟨_, rfl, hpass₂⟩, required_ok]
    simp only
    rw [hread]
    simp only
    rw [hclosed, required_ok]
    simp only
    rw [(Cursor.expect_eq_ok_iff hsemicolon).2 ⟨_, hpass₄⟩, required_ok]
    rfl

/-! ## A statement, and its script -/

/-- A statement is a keyword and a call. -/
lemma read_eq_ok_iff {script : Bytes} {statement : Statement} :
    read script = .ok (statement, after) ↔
      ∃ (lead : Blanks) (word : Letters) (call : Call),
        hash word.octets = hash Keyword.invoke.spelling ∧ call.statement = statement ∧
          (Cursor.start script).Passes (lead.octets ++ word.octets ++ call.octets) after := by
  constructor
  · intro h
    unfold read at h
    split at h
    · cases h
    · split at h
      · cases h
      · cases h
      · next place hkeyword =>
        obtain ⟨hstop, -⟩ | ⟨lead, word, hhash, hpass, -⟩ := Cursor.keyword_eq_ok_iff.1 hkeyword
        · cases hstop
        · obtain ⟨call, hcall, hpass'⟩ := readInvocation_eq_ok_iff.1 h
          exact ⟨lead, word, call, hhash, hcall, hpass.trans hpass'⟩
  · rintro ⟨lead, word, call, hhash, hcall, hpass⟩
    have hnonempty : script ≠ [] := by
      rintro rfl
      have hrest := hpass.1
      simp only [Cursor.start, List.nil_eq, List.append_eq_nil_iff] at hrest
      exact Letters.ne_nil hhash hrest.1.1.2
    obtain ⟨place, hword, hpass⟩ := Cursor.passes_append_iff.1 hpass
    have hapart : Stops isWordByte place.rest := by
      rw [hpass.1]
      exact call.stops_octets_append after.rest
    unfold read
    rw [if_neg (by simpa using hnonempty),
      Cursor.keyword_eq_ok_iff.2 (.inr ⟨lead, word, hhash, hword, hapart⟩)]
    exact readInvocation_eq_ok_iff.2 ⟨call, hcall, hpass⟩

/-- A script may end where only blanks are left, or where blanks and the word that ends it are. -/
lemma closes_iff :
    closes cursor = true ↔
      ∃ (blanks : Blanks) (ending : Option Ending),
        cursor.rest = blanks.octets ++ Ending.octets ending := by
  constructor
  · intro h
    unfold closes at h
    split at h
    · next hstop =>
      obtain ⟨-, hend, blanks, hpass⟩ | ⟨blanks, word, hhash, hpass, hapart⟩ :=
        Cursor.keyword_eq_ok_iff.1 (Prod.ext hstop rfl)
      · exact ⟨blanks, none, by rw [hpass.1, hend, Ending.octets]⟩
      · refine ⟨blanks, some ⟨word, hhash, cursor.keyword.2.rest, hapart⟩, ?_⟩
        rw [Ending.octets, ← List.append_assoc]
        exact hpass.1
    · cases h
  · rintro ⟨blanks, ending, hrest⟩
    suffices hstop : ∃ after, cursor.keyword = (.ok .stop, after) by
      obtain ⟨after, hstop⟩ := hstop
      unfold closes
      rw [hstop]
    cases ending with
    | none =>
      obtain ⟨after, hpass, hend⟩ := Cursor.exists_passes hrest
      exact ⟨after, Cursor.keyword_eq_ok_iff.2 (.inl ⟨rfl, hend, blanks, hpass⟩)⟩
    | some ending =>
      rw [Ending.octets, ← List.append_assoc] at hrest
      obtain ⟨after, hpass, hignored⟩ := Cursor.exists_passes hrest
      exact ⟨after, Cursor.keyword_eq_ok_iff.2
        (.inr ⟨blanks, ending.word, ending.hash_word, hpass, hignored ▸ ending.apart⟩)⟩

lemma ofScript_eq_ok_iff_closes {script : Bytes} {statement : Statement} :
    ofScript script = .ok statement ↔
      ∃ after, read script = .ok (statement, after) ∧ closes after = true := by
  unfold ofScript
  cases hread : read script with
  | error e => simp
  | ok found =>
    obtain ⟨asked, place⟩ := found
    simp only
    by_cases hcloses : closes place = true
    · rw [if_pos hcloses]
      constructor
      · rintro ⟨rfl⟩
        exact ⟨place, rfl, hcloses⟩
      · rintro ⟨after, ⟨rfl⟩, -⟩
        rfl
    · rw [if_neg hcloses]
      constructor
      · rintro ⟨⟩
      · rintro ⟨after, ⟨rfl⟩, hafter⟩
        exact absurd hafter hcloses

/-- **A script is well-formed exactly if it is made up by a layout**, and the layout says what it
asks for. -/
lemma ofScript_eq_ok_iff {script : Bytes} {statement : Statement} :
    ofScript script = .ok statement ↔
      ∃ layout : Layout, layout.octets = script ∧ layout.call.statement = statement := by
  rw [ofScript_eq_ok_iff_closes]
  constructor
  · rintro ⟨after, hread, hcloses⟩
    obtain ⟨lead, word, call, hhash, hcall, hpass⟩ := read_eq_ok_iff.1 hread
    obtain ⟨blanks, ending, hrest⟩ := closes_iff.1 hcloses
    refine ⟨⟨lead, word, hhash, call, blanks, ending⟩, ?_, hcall⟩
    have hscript : script = lead.octets ++ word.octets ++ call.octets ++ after.rest := hpass.1
    simp [Layout.octets, hscript, hrest]
  · rintro ⟨layout, rfl, hcall⟩
    have hscript : (Cursor.start layout.octets).rest =
        layout.lead.octets ++ layout.word.octets ++ layout.call.octets ++
          (layout.after.octets ++ Ending.octets layout.ending) := by
      simp [Cursor.start, Layout.octets]
    obtain ⟨after, hpass, hrest⟩ := Cursor.exists_passes hscript
    exact ⟨after,
      read_eq_ok_iff.2 ⟨layout.lead, layout.word, layout.call, layout.hash_word, hcall, hpass⟩,
      closes_iff.2 ⟨layout.after, layout.ending, hrest⟩⟩

end Statement

end FlightScript.Script
