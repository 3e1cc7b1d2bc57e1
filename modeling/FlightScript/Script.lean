import FlightScript.Command.Execution
import FlightScript.Registry
import FlightScript.Script.Statement
/-!
# Scripts, read and ready to run

A script that was read is a small tree: a statement around an invocation, and in the invocation the
copy of the command that it runs. Statements may be nested to any depth; they pass everything on to
what they hold.

`Script.parse` reads a script against a registry. The command is looked up and copied as soon as the
statement is complete, and only then is the end of the script judged. So a script with something
after its statement has used up a copy, and a script that is wrong in both ways is rejected for its
command.
-/

namespace FlightScript

inductive Script where
  | statement (body : Script)
  | invocation (command : Command)

namespace Script

def command : Script → Command
  | statement body => body.command
  | invocation command => command

def withCommand : Script → Command → Script
  | statement body, command => statement (body.withCommand command)
  | invocation _, command => invocation command

/-- How many statements are around the invocation. -/
def depth : Script → Nat
  | statement body => body.depth + 1
  | invocation _ => 0

/-- A command inside so many statements. -/
def nest : Nat → Command → Script
  | 0, command => invocation command
  | n + 1, command => statement (nest n command)

def shown : Script → String
  | statement body => s!"Statement({body.shown})"
  | invocation command => s!"Invocation(Invocation \x7b command: {command.shown} \x7d)"

/-- What is logged when a script is released, innermost first. -/
def releaseLines : Script → List Log.Line
  | statement body => body.releaseLines ++ [.trace "Statement destroyed"]
  | invocation command => [command.releaseLine]

@[simp] theorem command_withCommand (script : Script) (command : Command) :
    (script.withCommand command).command = command := by
  induction script with
  | statement body ih => exact ih
  | invocation => rfl

@[simp] theorem depth_withCommand (script : Script) (command : Command) :
    (script.withCommand command).depth = script.depth := by
  induction script with
  | statement body ih => simpa [withCommand, depth] using ih
  | invocation => rfl

theorem nest_depth_command (script : Script) : nest script.depth script.command = script := by
  induction script with
  | statement body ih => simpa [nest, depth, command] using ih
  | invocation => rfl

/-! ## Reading -/

/-- A copy of the command that a statement names, with the argument it gives. -/
def invoke (asked : Statement) (registry : Registry) (allowances : Allowances) :
    Except Error (Command × Allowances) :=
  match registry.resolve asked.name with
  | none => .error (.unknownCommand asked.name)
  | some prototype =>
    match prototype.copy? allowances with
    | none => .error (.notCloneable asked.name)
    | some (command, allowances) =>
      match asked.givenArgument with
      | none => .ok (command, allowances)
      | some argument => .ok (command.withArgument argument, allowances)

/-- Reads a script against a registry, and tells which copies are left. -/
def parse (text : Bytes) (registry : Registry) (allowances : Allowances) :
    Except Error Script × Allowances :=
  match Statement.read text with
  | .error e => (.error e, allowances)
  | .ok (asked, cursor) =>
    match invoke asked registry allowances with
    | .error e => (.error e, allowances)
    | .ok (command, allowances) =>
      if Statement.closes cursor then (.ok (Script.statement (invocation command)), allowances)
      else (.error .expectedEnd, allowances)

/-- Reads a script aboard, where the copies left are kept. -/
def parseAboard (text : Bytes) (registry : Registry) (craft : Spacecraft) :
    Except Error Script × Spacecraft :=
  let (result, allowances) := parse text registry craft.allowances
  (result, { craft with allowances })

/-- Reads a script aboard and asks no reason: a script that is rejected is logged, and is nothing. -/
def parseOrLog (text : Bytes) (registry : Registry) (craft : Spacecraft) :
    Option Script × Spacecraft :=
  match parseAboard text registry craft with
  | (.ok script, craft) => (some script, craft)
  | (.error e, craft) => (none, craft.say (.debug s!"Script dropped: {e.message}"))

/-! ## Running -/

/-- A script whose command is being executed and waits. -/
structure Interpretation where
  script : Script
  execution : Execution

/-- How running a script leaves the task it runs on. -/
inductive Interpreted where
  | returned (script : Script)
  | crashed

/-- The script around what has become of its command. -/
def around (script : Script) :
    Progress Execution Executed × Spacecraft → Progress Interpretation Interpreted × Spacecraft
  | (.ready (.returned command), craft) => (.ready (.returned (script.withCommand command)), craft)
  | (.ready .crashed, craft) => (.ready .crashed, craft)
  | (.waiting execution, craft) => (.waiting ⟨script, execution⟩, craft)

def interpret (script : Script) (allowed : Option Nat) (craft : Spacecraft) :
    Progress Interpretation Interpreted × Spacecraft :=
  script.around (script.command.execute allowed craft)

/-- Goes on with a script that waits. -/
def Interpretation.resume (run : Interpretation) (craft : Spacecraft) :
    Progress Interpretation Interpreted × Spacecraft :=
  run.script.around (run.execution.resume craft)

/-- The script of a run that is given up, and the spacecraft without the run. -/
def Interpretation.drop (run : Interpretation) (craft : Spacecraft) : Script × Spacecraft :=
  let (command, craft) := run.execution.drop craft
  (run.script.withCommand command, craft)

end Script

end FlightScript
