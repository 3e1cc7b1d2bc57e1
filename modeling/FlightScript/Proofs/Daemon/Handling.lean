import FlightScript.Daemon
import FlightScript.Proofs.Journal
import FlightScript.Proofs.Script.Parsing
/-!
# Handling one script, from its receipt to its end

A command may wait, and while it does anything may happen aboard.  So the daemon handles a script in
turns: a first one when the script is received, and another each time the command goes on.  What
happens between two turns is an `Interlude`, any change to the spacecraft, and
`Daemon.handling` is the handling of a script through a given list of them.

## In lockstep with the behaviour

A behaviour can be followed on its own in the same way: `Activity.course` gives it one turn after
another, until it has stopped or has missed its time limit, and `Turn.verdict?` says which status
that comes to.  `Daemon.Follows` relates the two, a handling and the course of the behaviour that it
runs; a turn of one is a turn of the other (`Follows.next`), whatever the interlude.  What a script
comes to is therefore read off the behaviour alone (`handling_exact`).
-/

namespace FlightScript

/-- What happens aboard before a command that waits has its next turn. -/
abbrev Interlude := Spacecraft → Spacecraft

/-! ## The course of a behaviour -/

namespace Activity

/-- Where an activity stands after a turn. -/
abbrev Turn := Progress Wait Stop × Spacecraft

namespace Turn

/-- The next turn, after an interlude.  An activity that has stopped has none, nor has one that waits
past its time limit. -/
def next (expiry : Option Nat) (turn : Turn) (interlude : Interlude) : Turn :=
  match turn with
  | (.ready stop, craft) => (.ready stop, craft)
  | (.waiting wait, craft) =>
    if expired craft.now expiry then (.waiting wait, craft) else wait.resume (interlude craft)

/-- The status that a command comes to by this turn of its behaviour: that of its ending, and failure
where it waits past its time limit.  A behaviour that takes its task down comes to none. -/
def verdict? (expiry : Option Nat) : Turn → Option Status
  | (.ready (.ended ending), _) => some ending.status
  | (.ready .crashed, _) => none
  | (.waiting _, craft) => if expired craft.now expiry then some (.ended .failed) else none

lemma verdict?_waiting (expiry : Option Nat) (wait : Wait) (craft : Spacecraft) :
    verdict? expiry (.waiting wait, craft) =
      if expired craft.now expiry then some (.ended .failed) else none := rfl

lemma isTerminal_of_verdict? {expiry : Option Nat} {turn : Turn} {status : Status}
    (h : turn.verdict? expiry = some status) : status.IsTerminal := by
  unfold verdict? at h
  split at h
  · next ending craft =>
    cases h
    cases ending <;> exact ⟨nofun, nofun⟩
  · cases h
  · split at h
    · cases h
      exact ⟨nofun, nofun⟩
    · cases h

end Turn

/-- An activity through some interludes, under a time limit. -/
def course (activity : Activity) (expiry : Option Nat) (craft : Spacecraft)
    (interludes : List Interlude) : Turn :=
  interludes.foldl (Turn.next expiry) (activity.run craft)

end Activity

/-! ## The end of an execution -/

/-- A command that is concluded is in the status of its ending. -/
lemma Command.fst_conclude {command : Command} (hexecuting : command.status = .executing)
    (ending : Ending) (craft : Spacecraft) :
    (command.conclude ending craft).1 = command.withStatus ending.status := by
  simp [conclude, withStatus, Status.process, hexecuting]

namespace Execution

variable {command : Command} {deadline : Option Deadline} {wait : Wait} {craft : Spacecraft}

/-- Where the behaviour waits and has time left, the execution waits with it. -/
lemma settle_waiting (h : expired craft.now (deadline.map (·.expiry)) = false) :
    settle command deadline (.waiting wait, craft) =
      (.waiting ⟨command, wait, deadline⟩, craft) := by
  cases deadline with
  | none => rfl
  | some limit =>
    have hintime : ¬ limit.expiry ≤ craft.now := by simpa [expired] using h
    simp only [settle]
    rw [if_neg hintime]

/-- A behaviour that waits past its time limit is dropped, and its command concluded as failed. -/
lemma settle_overdue (command : Command) (wait : Wait)
    (h : expired craft.now (deadline.map (·.expiry)) = true) :
    ∃ ending : Ending, ending.status = .ended .failed ∧
      settle command deadline (.waiting wait, craft) =
        (.ready (.returned (command.conclude ending (wait.drop craft)).1),
          (command.conclude ending (wait.drop craft)).2) := by
  cases deadline with
  | none => simp [expired] at h
  | some limit =>
    have hlate : limit.expiry ≤ craft.now := by simpa [expired] using h
    refine ⟨overdue limit, rfl, ?_⟩
    simp only [settle]
    rw [if_pos hlate]

end Execution

/-! ## The handling of a script -/

namespace Daemon

/-- How far the handling of a script has come, and which behaviours its turns have entered. -/
structure Handling where
  progress : Progress Script.Interpretation Handled
  daemon : Daemon
  craft : Spacecraft
  entered : List Context

namespace Handling

/-- The handling after one more turn, which began in `before`. -/
def ofTurn (before : Spacecraft) (entered : List Context)
    (turn : Progress Script.Interpretation Handled × Daemon × Spacecraft) : Handling where
  progress := turn.1
  daemon := turn.2.1
  craft := turn.2.2
  entered := entered ++ before.enteredSince turn.2.2

/-- The next turn, after an interlude, if the command still waits. -/
def next (handling : Handling) (interlude : Interlude) : Handling :=
  match handling.progress with
  | .ready _ => handling
  | .waiting run =>
    let craft := interlude handling.craft
    ofTurn craft handling.entered (handling.daemon.resume run craft)

/-- What has become of the script, if its handling has come to an end. -/
def outcome? (handling : Handling) : Option Outcome :=
  match handling.progress with
  | .ready (.done outcome) => some outcome
  | _ => none

lemma next_of_ready {handling : Handling} {handled : Handled}
    (h : handling.progress = .ready handled) (interlude : Interlude) :
    handling.next interlude = handling := by
  rw [next, h]

lemma foldl_next_of_ready {handling : Handling} {handled : Handled}
    (h : handling.progress = .ready handled) (interludes : List Interlude) :
    interludes.foldl next handling = handling := by
  induction interludes with
  | nil => rfl
  | cons interlude interludes ih => rw [List.foldl_cons, next_of_ready h, ih]

end Handling

/-- The handling of a script through some interludes. -/
def handling (daemon : Daemon) (script : Bytes) (craft : Spacecraft)
    (interludes : List Interlude) : Handling :=
  interludes.foldl Handling.next (.ofTurn craft [] (daemon.handleScript script craft))

/-! ## A command on its way -/

/-- A script whose command has been entered: the daemon with its books kept so far, the script, the
command and its deadline. -/
structure Started where
  daemon : Daemon
  script : Script
  command : Command
  deadline : Option Deadline
  executing : command.status = .executing

namespace Started

/-- When the command has had its time. -/
def expiry (started : Started) : Option Nat :=
  started.deadline.map (·.expiry)

/-- A turn of the daemon, made of a turn of the behaviour. -/
def frame (started : Started) (turn : Activity.Turn) :
    Progress Script.Interpretation Handled × Daemon × Spacecraft :=
  started.daemon.settle
    (started.script.around (Execution.settle started.command started.deadline turn))

variable (started : Started)

/-- Where the behaviour waits and has time left, the daemon waits with it. -/
lemma frame_waiting {wait : Wait} {craft : Spacecraft}
    (h : expired craft.now started.expiry = false) :
    started.frame (.waiting wait, craft) =
      (.waiting ⟨started.script, started.command, wait, started.deadline⟩, started.daemon, craft) := by
  rw [frame, Execution.settle_waiting h]
  rfl

/-- Where the execution is concluded, the script is done, and is reported with that ending. -/
lemma frame_concluded {turn : Activity.Turn} {ending : Ending} {craft : Spacecraft}
    (h : Execution.settle started.command started.deadline turn =
      (.ready (.returned (started.command.conclude ending craft).1),
        (started.command.conclude ending craft).2)) :
    (started.frame turn).1 =
      .ready (.done (.executed started.command.id started.command.kind ending.status)) := by
  rw [frame, h, Command.fst_conclude started.executing]
  simp [Script.around, Daemon.settle, Command.withStatus]

/-- A behaviour that has ended gives its command back in the status of its ending. -/
lemma frame_ended (ending : Ending) (craft : Spacecraft) :
    (started.frame (.ready (.ended ending), craft)).1 =
      .ready (.done (.executed started.command.id started.command.kind ending.status)) :=
  started.frame_concluded rfl

/-- A behaviour that waits past its time limit is dropped, and its command concluded as failed. -/
lemma settle_overdue {wait : Wait} {craft : Spacecraft}
    (h : expired craft.now started.expiry = true) :
    ∃ ending : Ending, ending.status = .ended .failed ∧
      Execution.settle started.command started.deadline (.waiting wait, craft) =
        (.ready (.returned (started.command.conclude ending (wait.drop craft)).1),
          (started.command.conclude ending (wait.drop craft)).2) :=
  Execution.settle_overdue started.command wait h

/-- A behaviour that waits past its time limit gives its command back as failed. -/
lemma frame_overdue {wait : Wait} {craft : Spacecraft}
    (h : expired craft.now started.expiry = true) :
    (started.frame (.waiting wait, craft)).1 =
      .ready (.done (.executed started.command.id started.command.kind (.ended .failed))) := by
  obtain ⟨ending, hstatus, hsettle⟩ := started.settle_overdue h
  rw [← hstatus]
  exact started.frame_concluded hsettle

/-- **What the daemon reports is the verdict on the behaviour.** -/
lemma outcome?_frame (before : Spacecraft) (entered : List Context) (turn : Activity.Turn) :
    (Handling.ofTurn before entered (started.frame turn)).outcome? =
      (turn.verdict? started.expiry).map
        (.executed started.command.id started.command.kind) := by
  unfold Handling.outcome? Handling.ofTurn
  simp only
  obtain ⟨_ | wait, craft⟩ := turn
  · next stop =>
    cases stop with
    | ended ending =>
      rw [frame_ended]
      rfl
    | crashed => rfl
  · unfold Activity.Turn.verdict?
    cases h : expired craft.now started.expiry with
    | false =>
      rw [frame_waiting started h]
      simp [h]
    | true =>
      rw [frame_overdue started h]
      simp [h]

/-- Nothing that the daemon adds to a turn of the behaviour is in the journal. -/
lemma journal_frame (turn : Activity.Turn) :
    (started.frame turn).2.2.journal = turn.2.journal := by
  have hsettle : ∀ progress, (started.daemon.settle progress).2.2.journal = progress.2.journal := by
    intro progress
    unfold Daemon.settle
    split <;> rfl
  rw [frame, hsettle, Script.journal_around, Execution.journal_settle]

/-- So a turn of the daemon enters what the turn of the behaviour does. -/
lemma enters_frame {before : Spacecraft} {turn : Activity.Turn} {contexts : List Context}
    (h : before.Enters turn.2 contexts) : before.Enters (started.frame turn).2.2 contexts := by
  have hframe := h.trans (Spacecraft.enters_nil_of_journal (started.journal_frame turn))
  rwa [List.append_nil] at hframe

end Started

/-! ## Lockstep -/

/-- A handling stands where the course of its behaviour does, and has entered that behaviour only. -/
def Follows (started : Started) (context : Context) (handling : Handling) (turn : Activity.Turn) :
    Prop :=
  (handling.progress, handling.daemon, handling.craft) = started.frame turn ∧
    handling.entered = [context]

variable {started : Started} {context : Context} {handling : Handling} {turn : Activity.Turn}

/-- A handling that has come to its end follows a behaviour that has. -/
lemma Follows.next_of_ready (h : Follows started context handling turn) {handled : Handled}
    (hready : (started.frame turn).1 = .ready handled) (interlude : Interlude) :
    Follows started context (handling.next interlude) turn := by
  have hprogress : handling.progress = .ready handled := by
    rw [← hready, ← h.1]
  rw [Handling.next_of_ready hprogress]
  exact h

/-- **One turn of the daemon is one turn of the behaviour**, whatever has happened since the last. -/
lemma Follows.next (h : Follows started context handling turn) (interlude : Interlude) :
    Follows started context (handling.next interlude) (turn.next started.expiry interlude) := by
  obtain ⟨_ | wait, craft⟩ := turn
  · next stop =>
    cases stop with
    | ended ending => exact h.next_of_ready (started.frame_ended ending craft) interlude
    | crashed => exact h.next_of_ready rfl interlude
  · unfold Activity.Turn.next
    cases hexpired : expired craft.now started.expiry with
    | true =>
      simp only [hexpired, if_true]
      exact h.next_of_ready (started.frame_overdue hexpired) interlude
    | false =>
      simp only [hexpired]
      obtain ⟨hframe, hentered⟩ := h
      rw [started.frame_waiting hexpired] at hframe
      obtain ⟨hprogress, hdaemon, hcraft⟩ : handling.progress = _ ∧ handling.daemon = _ ∧
          handling.craft = _ := by simpa using hframe
      unfold Handling.next
      rw [hprogress, hdaemon, hcraft]
      refine ⟨rfl, ?_⟩
      have henters := started.enters_frame (wait.enters_resume (interlude craft))
      simp only [Handling.ofTurn]
      rw [hentered]
      exact congrArg (context :: ·) henters.enteredSince_eq

lemma Follows.foldl (h : Follows started context handling turn) (interludes : List Interlude) :
    Follows started context (interludes.foldl Handling.next handling)
      (interludes.foldl (Activity.Turn.next started.expiry) turn) := by
  induction interludes generalizing handling turn with
  | nil => exact h
  | cons interlude interludes ih => exact ih (h.next interlude)

/-- So what has become of a script is the verdict on the behaviour that its handling follows. -/
lemma Follows.outcome?_eq (h : Follows started context handling turn) :
    handling.outcome? =
      (turn.verdict? started.expiry).map
        (.executed started.command.id started.command.kind) := by
  obtain ⟨hframe, -⟩ := h
  rw [← started.outcome?_frame handling.craft [] turn, ← hframe]
  rfl

end Daemon

end FlightScript
