import FlightScript.Activity
import FlightScript.Command
/-!
# Executing a command

`Command.execute` enters the behaviour of a pending command; any other command is left as it is. The
start and the end of the execution are written to the audit log, except for the kind that is kept
out of it.

An execution may have a deadline. The behaviour always goes first: whatever it can do at once, or at
the very moment of the deadline, it does. Only if it still waits then is it dropped, and the command
fails.
-/

namespace FlightScript

structure Deadline where
  /-- How long the execution may take, in milliseconds. -/
  allowed : Nat
  /-- When that is over. -/
  expiry : Nat
  deriving DecidableEq, Repr

/-- A command that is being executed and waits. -/
structure Execution where
  command : Command
  wait : Wait
  deadline : Option Deadline

/-- How an execution leaves the task it runs on. -/
inductive Executed where
  | returned (command : Command)
  | crashed

namespace Command

def endingLine (command : Command) : Ending → Log.Line
  | .completed message => .debug s!"Command id={command.id} type={command.kind} completed: {message}"
  | .failed _ message => .warn s!"Command id={command.id} type={command.kind} failed: {message}"

/-- What is logged when a command is to be executed that is not pending. -/
def refusalLine (command : Command) : Log.Line :=
  let status := command.status.label
  .warn s!"Command id={command.id} type={command.kind} already ran (status {status}), not executing again"

/-- Writes the status of a command to the audit log, if its kind is audited. -/
def recordStatus (command : Command) (craft : Spacecraft) : Spacecraft :=
  if command.isAudited then craft.recordStatus command.kind command.status else craft

def conclude (command : Command) (ending : Ending) (craft : Spacecraft) : Command × Spacecraft :=
  let craft := craft.say (command.endingLine ending)
  let command := command.withStatus (command.status.process ending.event).2
  (command, command.recordStatus craft)

end Command

namespace Execution

/-- How an execution ends that misses its deadline. -/
def overdue (deadline : Deadline) : Ending :=
  .failed .failed s!"Execution exceeded {deadline.allowed}ms deadline"

/-- What becomes of an execution after its behaviour has had a turn. -/
def settle (command : Command) (deadline : Option Deadline) :
    Progress Wait Stop × Spacecraft → Progress Execution Executed × Spacecraft
  | (.ready (.ended ending), craft) =>
    let (command, craft) := command.conclude ending craft
    (.ready (.returned command), craft)
  | (.ready .crashed, craft) => (.ready .crashed, craft)
  | (.waiting wait, craft) =>
    match deadline with
    | none => (.waiting ⟨command, wait, none⟩, craft)
    | some limit =>
      if limit.expiry ≤ craft.now then
        let (command, craft) := command.conclude (overdue limit) (wait.drop craft)
        (.ready (.returned command), craft)
      else (.waiting ⟨command, wait, some limit⟩, craft)

def resume (execution : Execution) (craft : Spacecraft) : Progress Execution Executed × Spacecraft :=
  settle execution.command execution.deadline (execution.wait.resume craft)

def ready (execution : Execution) (craft : Spacecraft) : Bool :=
  execution.wait.ready craft || expired craft.now (execution.deadline.map (·.expiry))

/-- When an execution goes on, if nothing else happens. -/
def timer (execution : Execution) : Option Nat :=
  match execution.wait.timer, execution.deadline with
  | some t, some deadline => some (min t deadline.expiry)
  | some t, none => some t
  | none, some deadline => some deadline.expiry
  | none, none => none

/-- The command of an execution that is given up, which stays as far as it has come, and the
spacecraft without the execution. -/
def drop (execution : Execution) (craft : Spacecraft) : Command × Spacecraft :=
  (execution.command, execution.wait.drop craft)

end Execution

namespace Command

/-- Executes a command, for at most `allowed` milliseconds if that is given. -/
def execute (command : Command) (allowed : Option Nat) (craft : Spacecraft) :
    Progress Execution Executed × Spacecraft :=
  match command.status.next? .started with
  | none => (.ready (.returned command), craft.say command.refusalLine)
  | some status =>
    let command := command.withStatus status
    let craft := (command.recordStatus craft).enter (.entered command.context)
    Execution.settle command (allowed.map fun ms => ⟨ms, craft.now + ms⟩)
      ((command.behavior.start command.context).run craft)

end Command

end FlightScript
