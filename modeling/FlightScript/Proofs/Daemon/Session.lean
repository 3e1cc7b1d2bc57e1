import FlightScript.Proofs.Daemon.Exactness
import Mathlib.Data.List.Induction
/-!
# Many calls on one daemon

`handling_exact` says what comes of one script.  Here one daemon is given one script after another.
A `Call` is a script with all that happens aboard on the way: before it is handed over, and between
any two turns of its command.  A call may be over before its command is.  Then the command is given
up with it, and the next call finds the daemon with its books as they were kept so far.

`Session.run` is a daemon and a spacecraft through a list of calls.  What holds after every run is
shown by one more call, and for one call there are four cases (`Handles`): nothing was received, the
script was dropped, its command was executed, or its command was entered and has no end.  Each says
all that the call does to the daemon and to the spacecraft, so nothing behind this file has to look
into the handling of a script again.  Which error and which command it was is left open here, since
`handling_exact` says it.
-/

namespace FlightScript

/-- The spacecraft when a turn was the last one: a behaviour that still waits is dropped. -/
def Activity.Turn.released : Activity.Turn → Spacecraft
  | (.ready _, craft) => craft
  | (.waiting wait, craft) => wait.drop craft

/-! ## How a command ends -/

namespace Execution

variable {turn : Activity.Turn} {deadline : Option Deadline}

/-- An execution that comes to a status is concluded with an ending of that status. -/
lemma exists_settle_eq (command : Command) {status : Status}
    (h : turn.verdict? (deadline.map (·.expiry)) = some status) :
    ∃ ending : Ending, ending.status = status ∧
      settle command deadline turn =
        (.ready (.returned (command.conclude ending turn.released).1),
          (command.conclude ending turn.released).2) := by
  obtain ⟨_ | wait, craft⟩ := turn
  · next stop =>
    cases stop with
    | ended ending => exact ⟨ending, Option.some.inj h, rfl⟩
    | crashed => cases h
  · rw [Activity.Turn.verdict?_waiting] at h
    by_cases hexpired : expired craft.now (deadline.map (·.expiry)) = true
    · rw [if_pos hexpired] at h
      obtain ⟨ending, hstatus, hsettle⟩ := settle_overdue command wait hexpired
      exact ⟨ending, hstatus.trans (Option.some.inj h), hsettle⟩
    · rw [if_neg hexpired] at h
      cases h

/-- One that comes to none has taken its task down, or waits. -/
lemma settle_of_verdict?_eq_none (command : Command)
    (h : turn.verdict? (deadline.map (·.expiry)) = none) :
    (∃ craft, turn = (.ready .crashed, craft) ∧
      settle command deadline turn = (.ready .crashed, craft)) ∨
    ∃ wait craft, turn = (.waiting wait, craft) ∧
      settle command deadline turn = (.waiting ⟨command, wait, deadline⟩, craft) := by
  obtain ⟨_ | wait, craft⟩ := turn
  · next stop =>
    cases stop with
    | ended ending => cases h
    | crashed => exact .inl ⟨craft, rfl, rfl⟩
  · rw [Activity.Turn.verdict?_waiting] at h
    by_cases hexpired : expired craft.now (deadline.map (·.expiry)) = true
    · rw [if_pos hexpired] at h
      cases h
    · exact .inr ⟨wait, craft, rfl, settle_waiting (Bool.eq_false_iff.2 hexpired)⟩

end Execution

namespace Daemon

namespace Started

variable (started : Started)

/-- The spacecraft when a command has ended and its script was released. -/
def closed (ending : Ending) (craft : Spacecraft) : Spacecraft :=
  let (command, craft) := started.command.conclude ending craft
  craft.sayAll (started.script.withCommand command).releaseLines

/-- The daemon with the command counted as executed. -/
def counted : Daemon :=
  { started.daemon with
    stats := { started.daemon.stats with executed := started.daemon.stats.executed + 1 } }

/-- A concluded execution is counted, and its script is released. -/
lemma frame_of_settle {turn : Activity.Turn} {ending : Ending} {craft : Spacecraft}
    (h : Execution.settle started.command started.deadline turn =
      (.ready (.returned (started.command.conclude ending craft).1),
        (started.command.conclude ending craft).2)) :
    started.frame turn =
      (.ready (.done (.executed started.command.id started.command.kind ending.status)),
        started.counted, started.closed ending craft) :=
  Prod.ext (started.frame_concluded h) (by rw [frame, h]; rfl)

/-- A command that comes to a status is concluded with an ending of that status. -/
lemma exists_frame_eq {turn : Activity.Turn} {status : Status}
    (h : turn.verdict? started.expiry = some status) :
    ∃ ending : Ending, ending.status = status ∧
      started.frame turn =
        (.ready (.done (.executed started.command.id started.command.kind ending.status)),
          started.counted, started.closed ending turn.released) := by
  obtain ⟨ending, hstatus, hsettle⟩ := Execution.exists_settle_eq started.command h
  exact ⟨ending, hstatus, started.frame_of_settle hsettle⟩

/-- A command that comes to no status is not reported, and leaves the books as they were kept when it
was entered. -/
lemma frame_of_verdict?_eq_none {turn : Activity.Turn} (h : turn.verdict? started.expiry = none) :
    (∀ outcome, (started.frame turn).1 ≠ .ready (.done outcome)) ∧
      (started.frame turn).2 = (started.daemon, turn.2) := by
  rcases Execution.settle_of_verdict?_eq_none started.command h with
    ⟨craft, rfl, -⟩ | ⟨wait, craft, rfl, hsettle⟩
  · refine ⟨?_, rfl⟩
    intro outcome hdone
    cases hdone
  · rw [frame, hsettle]
    refine ⟨?_, rfl⟩
    intro outcome hdone
    cases hdone

end Started

/-! ## What one call does -/

/-- How far the behaviour of an accepted script has come. -/
def courseOf (daemon : Daemon) (craft : Spacecraft) (interludes : List Interlude) (command : Command)
    (left : Allowances) : Activity.Turn :=
  let context := (command.withId daemon.nextId).context
  (command.behavior.start context).course (daemon.settings.deadline.map (craft.now + ·))
    ({ craft with allowances := left }.atEntry context) interludes

/-- The four ways that the handling of a script goes, each with all that it leaves behind. -/
inductive Handles (daemon : Daemon) (script : Bytes) (craft : Spacecraft)
    (interludes : List Interlude) : Handling → Prop where
  | empty (hscript : script = []) :
    Handles daemon script craft interludes {
      progress := .ready (.done .empty)
      daemon := { daemon with buffer := daemon.buffer.receive script }
      craft
      entered := [] }
  | dropped (hscript : script ≠ []) (e : Script.Error) (left : Allowances) :
    Handles daemon script craft interludes {
      progress := .ready (.done (.dropped e))
      daemon := { daemon with
        buffer := daemon.buffer.receive script
        stats :=
          { daemon.stats with
            received := daemon.stats.received + 1, dropped := daemon.stats.dropped + 1 } }
      craft := { craft with allowances := left }.say (.debug s!"Dropping script: {e.message}")
      entered := [] }
  | executed (hscript : script ≠ []) (command : Command) (left : Allowances) (ending : Ending) :
    Handles daemon script craft interludes {
      progress := .ready (.done (.executed daemon.nextId command.kind ending.status))
      daemon := { daemon with
        buffer := daemon.buffer.receive script
        stats :=
          { daemon.stats with
            received := daemon.stats.received + 1, executed := daemon.stats.executed + 1 }
        nextId := daemon.nextId + 1 }
      craft := (daemon.started script craft command).closed ending
        (daemon.courseOf craft interludes command left).released
      entered := [(command.withId daemon.nextId).context] }
  /-- Its command waits, or has taken its task down. -/
  | unfinished (hscript : script ≠ []) (command : Command) (left : Allowances)
      (progress : Progress Script.Interpretation Handled)
      (hprogress : ∀ outcome, progress ≠ .ready (.done outcome)) :
    Handles daemon script craft interludes {
      progress
      daemon := { daemon with
        buffer := daemon.buffer.receive script
        stats := { daemon.stats with received := daemon.stats.received + 1 }
        nextId := daemon.nextId + 1 }
      craft := (daemon.courseOf craft interludes command left).2
      entered := [(command.withId daemon.nextId).context] }

lemma take_scriptLength_eq_nil_iff {script : Bytes} :
    script.take Limits.scriptLength = [] ↔ script = [] := by
  simp [List.take_eq_nil_iff, Limits.scriptLength]

/-- What a script is read as is a command that has not been run. -/
lemma exists_pending_of_parse {text : Bytes} {registry : Registry} {allowances left : Allowances}
    {tree : Script} (h : Script.parse text registry allowances = (.ok tree, left)) :
    ∃ command : Command, command.status = .pending ∧ tree = .statement (.invocation command) := by
  obtain ⟨layout, prototype, clone, -, -, hcopy, rfl⟩ := Script.parse_eq_ok_iff_exists_layout.1 h
  obtain ⟨-, rfl⟩ := Script.copy?_eq_some_iff.1 hcopy
  exact ⟨_, rfl, rfl⟩

/-- A handling that follows a behaviour leaves what is made of the last turn of it. -/
lemma Follows.eq {started : Started} {context : Context} {handling : Handling} {turn : Activity.Turn}
    (h : Follows started context handling turn) :
    handling = ⟨(started.frame turn).1, (started.frame turn).2.1, (started.frame turn).2.2,
      [context]⟩ := by
  obtain ⟨progress, daemon, craft, entered⟩ := handling
  obtain ⟨hframe, rfl⟩ := h
  rw [← hframe]

/-- **Every handling goes one of these ways**, whatever happens aboard meanwhile. -/
lemma handles_handling (daemon : Daemon) (script : Bytes) (craft : Spacecraft)
    (interludes : List Interlude) :
    Handles daemon script craft interludes (daemon.handling script craft interludes) := by
  by_cases hscript : script = []
  · have hturn : daemon.handleScript script craft = _ :=
      handleScript_of_nil (take_scriptLength_eq_nil_iff.2 hscript)
    rw [handling_of_ready hturn (Spacecraft.enters_nil_of_journal rfl) interludes]
    exact .empty hscript
  have htext : script.take Limits.scriptLength ≠ [] := mt take_scriptLength_eq_nil_iff.1 hscript
  rcases hparse : Script.parse (script.take Limits.scriptLength) daemon.registry craft.allowances
    with ⟨e | tree, left⟩
  · have hturn := handleScript_eq daemon script craft htext
    rw [hparse] at hturn
    rw [handling_of_ready hturn (Spacecraft.enters_nil_of_journal rfl) interludes]
    exact .dropped hscript e left
  obtain ⟨command, hpending, rfl⟩ := exists_pending_of_parse hparse
  have hfollows : Follows (daemon.started script craft command)
      (command.withId daemon.nextId).context (daemon.handling script craft interludes)
      (daemon.courseOf craft interludes command left) :=
    follows_of_ok hparse hpending interludes
  rw [hfollows.eq]
  cases hverdict : (daemon.courseOf craft interludes command left).verdict?
      (daemon.started script craft command).expiry with
  | none =>
    obtain ⟨hprogress, hframe⟩ := Started.frame_of_verdict?_eq_none _ hverdict
    rw [hframe]
    exact .unfinished hscript command left _ hprogress
  | some status =>
    obtain ⟨ending, -, hframe⟩ := Started.exists_frame_eq _ hverdict
    rw [hframe]
    exact .executed hscript command left ending

/-! ## Runs of calls -/

/-- A script that is handed to a daemon, with what happens aboard before that and on the way. -/
structure Call where
  script : Bytes
  lead : Interlude := id
  interludes : List Interlude := []

/-- The spacecraft when a call is over.  If its command still waits, it is given up. -/
def Handling.released (handling : Handling) : Spacecraft :=
  match handling.progress with
  | .ready _ => handling.craft
  | .waiting run => (run.drop handling.craft).2

lemma Handling.outcome?_eq_none {handling : Handling}
    (h : ∀ outcome, handling.progress ≠ .ready (.done outcome)) : handling.outcome? = none := by
  unfold Handling.outcome?
  split
  · next outcome hprogress => exact absurd hprogress (h outcome)
  · rfl

/-- A daemon and its spacecraft between two calls, with what came of the calls so far. -/
structure Session where
  daemon : Daemon
  craft : Spacecraft
  handled : List Handling := []

namespace Session

/-- The session when one more call is over. -/
def after (session : Session) (handling : Handling) : Session where
  daemon := handling.daemon
  craft := handling.released
  handled := session.handled ++ [handling]

/-- The session after one more call. -/
def call (session : Session) (call : Call) : Session :=
  session.after (session.daemon.handling call.script (call.lead session.craft) call.interludes)

def run (session : Session) (calls : List Call) : Session :=
  calls.foldl Session.call session

/-- What was reported of the calls. -/
def outcomes (session : Session) : List Outcome :=
  session.handled.filterMap Handling.outcome?

/-- How many calls were over while their command was executing: given up with it, or taken down by
it. -/
def abandoned (session : Session) : Nat :=
  session.handled.countP (·.outcome?.isNone)

lemma run_concat (session : Session) (calls : List Call) (call : Call) :
    session.run (calls ++ [call]) = (session.run calls).call call := by
  simp [run]

@[simp] lemma daemon_after (session : Session) (handling : Handling) :
    (session.after handling).daemon = handling.daemon := rfl

@[simp] lemma outcomes_after (session : Session) (handling : Handling) :
    (session.after handling).outcomes = session.outcomes ++ handling.outcome?.toList := by
  cases h : handling.outcome? <;> simp [outcomes, after, h]

@[simp] lemma abandoned_after (session : Session) (handling : Handling) :
    (session.after handling).abandoned =
      session.abandoned + if handling.outcome?.isNone then 1 else 0 := by
  simp [abandoned, after, List.countP_append, List.countP_singleton]

end Session

end Daemon

end FlightScript
