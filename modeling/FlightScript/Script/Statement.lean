import FlightScript.Script.Cursor
/-!
# The one statement of a script

```text
statement := INVOKE "(" STRING ("," STRING)? ")" ";"
script    := statement (SCRIPT_END | end of script)
```

Blanks may stand in front of every token. `Statement.read` reads as far as the semicolon and
`Statement.closes` judges what follows it. They are two functions because the command is looked up
between them: a script that is wrong only after its semicolon is first rejected for its command, if
that is wrong too, and has used up a copy of it otherwise.

`Statement.ofScript` is the form of a script on its own, with nothing looked up.
-/

namespace FlightScript.Script

/-- What a script asks for: a command by its name, with an argument or without. -/
structure Statement where
  name : Bytes
  argument : Option Bytes
  deriving DecidableEq, Repr

namespace Statement

def openMark : UInt8 := 0x28

def closeMark : UInt8 := 0x29

def comma : UInt8 := 0x2C

def semicolon : UInt8 := 0x3B

/-- A token that has to be there: its value and the place behind it, or its error. -/
def required {α : Type} : Except Error α × Cursor → Except Error (α × Cursor)
  | (.ok a, cursor) => .ok (a, cursor)
  | (.error e, _) => .error e

@[simp] theorem required_ok {α : Type} (a : α) (cursor : Cursor) :
    required (.ok a, cursor) = .ok (a, cursor) := rfl

@[simp] theorem required_error {α : Type} (e : Error) (cursor : Cursor) :
    required (.error e, cursor) = (.error e : Except Error (α × Cursor)) := rfl

/-- The argument, if a comma announces one. -/
def readArgument (cursor : Cursor) : Except Error (Option Bytes × Cursor) :=
  match cursor.accept comma with
  | (false, cursor) => .ok (none, cursor)
  | (true, cursor) =>
    match cursor.quoted with
    | (.error e, _) => .error e
    | (.ok argument, cursor) => .ok (some argument, cursor)

/-- What follows the keyword of an invocation, up to the semicolon. -/
def readInvocation (cursor : Cursor) : Except Error (Statement × Cursor) := do
  let (_, cursor) ← required (cursor.expect openMark)
  let (name, cursor) ← required cursor.quoted
  let (argument, cursor) ← readArgument cursor
  let (_, cursor) ← required (cursor.expect closeMark)
  let (_, cursor) ← required (cursor.expect semicolon)
  return (⟨name, argument⟩, cursor)

/-- The statement of a script and the place behind its semicolon. -/
def read (script : Bytes) : Except Error (Statement × Cursor) :=
  if script.isEmpty then .error .emptyScript
  else
    match (Cursor.start script).keyword with
    | (.error e, _) => .error e
    | (.ok .stop, _) => .error .noStatement
    | (.ok .invoke, cursor) => readInvocation cursor

/-- Whether a script may end here: nothing is left but blanks, or the next word ends the script and
what follows that word is ignored. -/
def closes (cursor : Cursor) : Bool :=
  match cursor.keyword.1 with
  | .ok .stop => true
  | _ => false

/-- The statement of a well-formed script. -/
def ofScript (script : Bytes) : Except Error Statement :=
  match read script with
  | .error e => .error e
  | .ok (statement, cursor) => if closes cursor then .ok statement else .error .expectedEnd

/-- The argument that a command is given: an empty string counts as none. -/
def givenArgument (statement : Statement) : Option Bytes :=
  statement.argument.filter (!·.isEmpty)

end Statement

end FlightScript.Script
