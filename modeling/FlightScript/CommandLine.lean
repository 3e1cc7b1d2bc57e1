import FlightScript.Settings
/-!
# The command line of the flight program

Three options take a value and one switch does not. An option's value is either attached with `=` or
the next argument; a value that begins with a dash has to be attached, but a dash alone is a value.
Options that are not on the command line are looked up in the environment.

## Which fault is reported

The reader goes through the arguments once. An attached value is judged where it stands; a value that
is an argument of its own is judged when the next option is reached, or the end. So an argument that
means nothing is reported before a bad value just in front of it, and a request for help is not.
The environment is looked at last.
-/

namespace FlightScript.CommandLine

/-- Why the arguments are not accepted, or not acted on. -/
inductive Fault where
  /-- A number does not read as one of 64 bits. -/
  | valueValidation
  /-- A value is missing, or is an empty path. -/
  | invalidValue
  /-- An argument means nothing. -/
  | unknownArgument
  /-- An option is given twice. -/
  | argumentConflict
  /-- A switch is given a value. -/
  | tooManyValues
  /-- Help is asked for. -/
  | displayHelp
  deriving DecidableEq, Repr

def Fault.name : Fault → String
  | valueValidation => "ValueValidation"
  | invalidValue => "InvalidValue"
  | unknownArgument => "UnknownArgument"
  | argumentConflict => "ArgumentConflict"
  | tooManyValues => "TooManyValues"
  | displayHelp => "DisplayHelp"

inductive Key where
  | uplinkAddress
  | auditLog
  | deadline
  deriving DecidableEq, Repr

namespace Key

/-- Every option, in the order in which the environment is looked at. -/
def all : List Key := [uplinkAddress, auditLog, deadline]

/-- How an option is written, without its dashes. -/
def long : Key → String
  | uplinkAddress => "uplink-addr"
  | auditLog => "audit-log"
  | deadline => "exec-deadline-ms"

def environmentName : Key → String
  | uplinkAddress => "OBC_UPLINK_ADDR"
  | auditLog => "OBC_AUDIT_LOG"
  | deadline => "OBC_EXEC_DEADLINE_MS"

end Key

def usage : String :=
  "Usage: [--uplink-addr ADDRESS] [--audit-log FILE] [--no-audit] [--exec-deadline-ms MS]"

/-- What has been given so far. -/
structure Given where
  uplinkAddress : Option String := none
  auditLog : Option String := none
  deadline : Option Nat := none
  noAudit : Bool := false
  deriving DecidableEq, Repr

namespace Given

def has (given : Given) : Key → Bool
  | .uplinkAddress => given.uplinkAddress.isSome
  | .auditLog => given.auditLog.isSome
  | .deadline => given.deadline.isSome

def settings (given : Given) : Settings :=
  let default : Settings := {}
  { uplinkAddress := given.uplinkAddress.getD default.uplinkAddress
    auditLog := if given.noAudit then none else some (given.auditLog.getD (default.auditLog.getD ""))
    daemon := { default.daemon with deadline := given.deadline } }

end Given

/-- A decimal number below `2 ^ 64`; a plus sign may stand in front. -/
def readNumber (text : String) : Option Nat :=
  let digits := match text.toList with
    | '+' :: digits => digits
    | digits => digits
  if !digits.isEmpty && digits.all Char.isDigit then
    let value := digits.foldl (fun value digit => value * 10 + (digit.toNat - '0'.toNat)) 0
    if value < UInt64.size then some value else none
  else none

/-- Judges the value of an option and keeps it. -/
def assign (given : Given) (key : Key) (value : String) : Except Fault Given :=
  match key with
  | .uplinkAddress => .ok { given with uplinkAddress := some value }
  | .auditLog =>
    if value.isEmpty then .error .invalidValue else .ok { given with auditLog := some value }
  | .deadline =>
    match readNumber value with
    | none => .error .valueValidation
    | some milliseconds => .ok { given with deadline := some milliseconds }

/-- Judges an option on the command line: it has to have a value, has to be the first of its kind,
and its value has to be good, in this order. -/
def supply (given : Given) (key : Key) : Option String → Except Fault Given
  | none => .error .invalidValue
  | some value => if given.has key then .error .argumentConflict else assign given key value

structure Reader where
  given : Given := {}
  /-- The option whose value is still to be judged, and the value if it has been seen. -/
  pending : Option (Key × Option String) := none

namespace Reader

/-- Judges what is pending. -/
def resolve (reader : Reader) : Except Fault Given :=
  match reader.pending with
  | none => .ok reader.given
  | some (key, value) => supply reader.given key value

/-- What an argument is, by its form. -/
inductive Form where
  /-- Two dashes alone. -/
  | escape
  /-- Two dashes, a name, and a value if one is attached. -/
  | long (name : String) (attached : Option String)
  /-- One dash and letters. -/
  | short (letters : List Char)
  | plain

/-- The name of a long argument, and what is attached to it. -/
def splitLong (text : List Char) : String × Option String :=
  let name := String.ofList (text.takeWhile (· != '='))
  match text.dropWhile (· != '=') with
  | [] => (name, none)
  | _ :: value => (name, some (String.ofList value))

/-- The form of an argument. A dash alone is plain. -/
def form (argument : String) : Form :=
  match argument.toList with
  | ['-', '-'] => .escape
  | '-' :: '-' :: text =>
    let (name, attached) := splitLong text
    .long name attached
  | '-' :: c :: letters => .short (c :: letters)
  | _ => .plain

def option (reader : Reader) (key : Key) (attached : Option String) : Except Fault Reader := do
  let given ← reader.resolve
  match attached with
  | some value => return { given := ← supply given key (some value) }
  | none => return { given, pending := some (key, none) }

def noAudit (reader : Reader) (attached : Option String) : Except Fault Reader := do
  if attached.isSome then throw .tooManyValues
  let given ← reader.resolve
  if given.noAudit then throw .argumentConflict
  return { given := { given with noAudit := true } }

/-- Answers a request for help, unless something before it was wrong. -/
def help (reader : Reader) : Except Fault Reader := do
  let _ ← reader.resolve
  throw .displayHelp

/-- Reads an argument that is no option: the value of the option before it, or nothing. -/
def value (reader : Reader) (argument : String) : Except Fault Reader :=
  match reader.pending with
  | some (key, none) => .ok { reader with pending := some (key, some argument) }
  | _ => .error .unknownArgument

def long (reader : Reader) (name : String) (attached : Option String) : Except Fault Reader :=
  match Key.all.find? (·.long = name) with
  | some key => reader.option key attached
  | none =>
    if name = "no-audit" then reader.noAudit attached
    else if name = "help" then
      if attached.isSome then .error .tooManyValues else reader.help
    else .error .unknownArgument

/-- Reads all arguments. After two dashes alone nothing may follow. -/
def readAll : Reader → List String → Except Fault Given
  | reader, [] => reader.resolve
  | reader, argument :: rest =>
    match form argument with
    | .escape => if rest.isEmpty then reader.resolve else .error .unknownArgument
    | .long name attached => do readAll (← reader.long name attached) rest
    | .short ('h' :: _) => do readAll (← reader.help) rest
    | .short _ => .error .unknownArgument
    | .plain => do readAll (← reader.value argument) rest

end Reader

/-- Fills in from the environment what the command line did not give. -/
def fillIn (environment : String → Option String) (given : Given) : Except Fault Given :=
  Key.all.foldlM (fun given key =>
    if given.has key then .ok given
    else match environment key.environmentName with
      | none => .ok given
      | some value => assign given key value) given

/-- The settings that the arguments and the environment come to. -/
def read (arguments : List String) (environment : String → Option String) : Except Fault Settings := do
  let given ← Reader.readAll {} arguments
  return (← fillIn environment given).settings

end FlightScript.CommandLine
