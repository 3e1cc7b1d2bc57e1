import FlightScript.Script
import Mathlib.Tactic.Lemma
/-!
# Which behaviours were entered

The journal says of every behaviour that was entered with what context.  Here its entries are
followed through whatever the software does.  `Spacecraft.Enters` relates two moments aboard by the
contexts that were entered between them; it composes (`Spacecraft.Enters.trans`), and there is one
lemma for every operation.

Only `Command.execute` enters a behaviour, and it enters one.  An activity leaves notes but cannot
enter a further behaviour (`Activity.enters_run`), and neither can one that goes on after a wait.
-/

namespace FlightScript

/-- The context of an entry into a behaviour.  A note has none. -/
def JournalEntry.context? : JournalEntry → Option Context
  | .entered context => some context
  | .note _ => none

namespace Spacecraft

variable {before middle after : Spacecraft} {contexts contexts' : List Context}

/-- Between two moments, behaviours were entered with these contexts, in this order. -/
def Enters (before after : Spacecraft) (contexts : List Context) : Prop :=
  ∃ added, after.journal = before.journal ++ added ∧
    added.filterMap JournalEntry.context? = contexts

/-- The contexts that behaviours were entered with between two moments. -/
def enteredSince (before after : Spacecraft) : List Context :=
  (after.journal.drop before.journal.length).filterMap JournalEntry.context?

lemma Enters.enteredSince_eq (h : before.Enters after contexts) :
    before.enteredSince after = contexts := by
  obtain ⟨added, hjournal, hcontexts⟩ := h
  rw [enteredSince, hjournal, List.drop_left, hcontexts]

/-- What leaves the journal alone enters nothing. -/
lemma enters_nil_of_journal (h : after.journal = before.journal) : before.Enters after [] :=
  ⟨[], by simp [h], rfl⟩

lemma Enters.trans (h : before.Enters middle contexts) (h' : middle.Enters after contexts') :
    before.Enters after (contexts ++ contexts') := by
  obtain ⟨added, hjournal, rfl⟩ := h
  obtain ⟨added', hjournal', rfl⟩ := h'
  exact ⟨added ++ added', by rw [hjournal', hjournal, List.append_assoc], List.filterMap_append⟩

lemma enters_enter (craft : Spacecraft) (context : Context) :
    craft.Enters (craft.enter (.entered context)) [context] :=
  ⟨[.entered context], rfl, rfl⟩

lemma enters_note (craft : Spacecraft) (text : String) : craft.Enters (craft.enter (.note text)) [] :=
  ⟨[.note text], rfl, rfl⟩

@[simp] lemma journal_say (craft : Spacecraft) (line : Log.Line) :
    (craft.say line).journal = craft.journal := rfl

@[simp] lemma journal_recordStatus (craft : Spacecraft) (kind : UInt16) (status : Status) :
    (craft.recordStatus kind status).journal = craft.journal := rfl

end Spacecraft

@[simp] lemma Command.journal_recordStatus (command : Command) (craft : Spacecraft) :
    (command.recordStatus craft).journal = craft.journal := by
  unfold recordStatus
  split <;> rfl

@[simp] lemma Command.journal_conclude (command : Command) (ending : Ending) (craft : Spacecraft) :
    (command.conclude ending craft).2.journal = craft.journal := by
  simp [conclude]

@[simp] lemma Wait.journal_drop (wait : Wait) (craft : Spacecraft) :
    (wait.drop craft).journal = craft.journal := by
  unfold drop
  split <;> rfl

/-- An activity enters no behaviour. -/
lemma Activity.enters_run (activity : Activity) (craft : Spacecraft) :
    craft.Enters (activity.run craft).2 [] := by
  induction activity generalizing craft with
  | finish ending => exact Spacecraft.enters_nil_of_journal rfl
  | log line next ih => exact ih (craft.say line)
  | note text next ih => exact (craft.enters_note text).trans (ih _)
  | count next ih => exact ih craft.counter { craft with counter := craft.counter + 1 }
  | observe next ih => exact ih craft.readings craft
  | write payload port timeout next ih =>
    unfold run
    split
    · next written link _ => exact ih written { craft with link }
    · exact Spacecraft.enters_nil_of_journal rfl
  | pause milliseconds next ih =>
    unfold run
    split
    · exact ih craft
    · exact Spacecraft.enters_nil_of_journal rfl
  | never => exact Spacecraft.enters_nil_of_journal rfl
  | crash => exact Spacecraft.enters_nil_of_journal rfl

/-- Neither does one that goes on after a wait. -/
lemma Wait.enters_resume (wait : Wait) (craft : Spacecraft) :
    craft.Enters (wait.resume craft).2 [] := by
  unfold resume
  split
  · split
    · exact Activity.enters_run _ craft
    · exact Spacecraft.enters_nil_of_journal rfl
  · split
    · next next _ written link _ => exact Activity.enters_run (next written) { craft with link }
    · exact Spacecraft.enters_nil_of_journal rfl
  · exact Spacecraft.enters_nil_of_journal rfl

/-- What becomes of an execution after a turn is logged and recorded, but not in the journal. -/
@[simp] lemma Execution.journal_settle (command : Command) (deadline : Option Deadline)
    (turn : Progress Wait Stop × Spacecraft) :
    (settle command deadline turn).2.journal = turn.2.journal := by
  unfold settle
  split
  · simp
  · rfl
  · split
    · rfl
    · split
      · simp
      · rfl

@[simp] lemma Script.journal_around (script : Script)
    (turn : Progress Execution Executed × Spacecraft) :
    (script.around turn).2.journal = turn.2.journal := by
  unfold around
  split <;> rfl

end FlightScript
