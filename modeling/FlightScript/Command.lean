import FlightScript.Behavior
import FlightScript.Limits
import FlightScript.Text.Lossy
import FlightScript.Text.Quoted
/-!
# Commands

A command is a kind, an id, an argument and the behaviour bound to it, together with its status. A
prototype waits in the registry and is never run; what runs is a copy, which starts out pending with
the prototype's id, kind and argument.
-/

namespace FlightScript

/-- An argument as a command keeps it: never longer than `Limits.argumentLength`. -/
structure Argument where
  bytes : Bytes
  length_le : bytes.length ≤ Limits.argumentLength := by decide
  deriving DecidableEq, Repr

namespace Argument

def none : Argument := ⟨[], by decide⟩

/-- The front of a text, as much as a command keeps. What is longer is cut, never refused. -/
def ofBytes (text : Bytes) : Argument :=
  ⟨text.take Limits.argumentLength, List.length_take_le ..⟩

def shown (argument : Argument) : String :=
  Text.Quoted.quote (Text.Lossy.decode argument.bytes)

@[simp] theorem bytes_ofBytes (text : Bytes) :
    (ofBytes text).bytes = text.take Limits.argumentLength := rfl

@[simp] theorem ofBytes_bytes (argument : Argument) : ofBytes argument.bytes = argument := by
  obtain ⟨bytes, short⟩ := argument
  simp [ofBytes, List.take_of_length_le short]

end Argument

structure Command where
  id : UInt32 := 0
  /-- The tag that tells commands apart in the audit log. -/
  kind : UInt16
  status : Status := .pending
  argument : Argument := .none
  behavior : Behavior

namespace Command

/-- The kind that is kept out of the audit log. -/
def unauditedKind : UInt16 := 0

/-- Whether executions of a command are written to the audit log. -/
def isAudited (command : Command) : Bool :=
  command.kind ≠ unauditedKind

/-- A behaviour that is bound to nothing: it fails, and gives no copies. -/
def unboundBehavior : Behavior where
  start _ := .finish (.failed .failed "No behavior bound to command")

/-- A command that nothing is bound to. -/
def unbound : Command where
  kind := unauditedKind
  behavior := unboundBehavior

def withId (command : Command) (id : UInt32) : Command :=
  { command with id }

/-- The command with another argument, of which it keeps the front. -/
def withArgument (command : Command) (text : Bytes) : Command :=
  { command with argument := .ofBytes text }

def withStatus (command : Command) (status : Status) : Command :=
  { command with status }

/-- What the behaviour is told when it is entered. -/
def context (command : Command) : Context :=
  ⟨command.id, command.kind, command.argument.bytes⟩

/-- A copy for a single execution, if the behaviour gives one. It is pending, whatever the status of
the command it was taken from. -/
def copy? (command : Command) (allowances : Allowances) : Option (Command × Allowances) :=
  (allowances.grant? command.behavior.copying).map fun allowances =>
    (command.withStatus .pending, allowances)

def shown (command : Command) : String :=
  let kind := command.kind
  let status := command.status.name
  let argument := command.argument.shown
  s!"Command \x7b id: {command.id}, kind: CommandType({kind}), status: {status}, argument: {argument} \x7d"

/-- What is logged when a command is released. -/
def releaseLine (command : Command) : Log.Line :=
  .trace s!"Destroying command id={command.id} type={command.kind} ({command.status.label})"

end Command

end FlightScript
