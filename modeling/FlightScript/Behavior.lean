import FlightScript.Log
import FlightScript.Port
import FlightScript.Bytes
import FlightScript.Status
/-!
# What commands do

A behaviour is entered with the context of its command and from then on is an *activity*: a script
of its own of what it does to the spacecraft, one step at a time, in which every answer it gets
decides how it goes on. Any activity may be bound to a command, so a statement about all commands
is a statement about all values of `Activity`.

An activity ends, never ends, or crashes. What it does on the way is to write log lines, leave notes
in the journal, advance the shared counter, look at the spacecraft's readings, write to the ground
and pause. The journal is where effects go that the rest of the software does not know about.

## What no behaviour does

A behaviour is given the whole of the link and of the audit log. Everything here rests on an assumption:
no behaviour reads the uplink, and none reads the audit log or appends to it. An activity has no step for
either. So the scripts that are queued are left to the daemon, and what is recorded of a command is its
start and its end.

## Copies

A command is run on a copy of its prototype. Whether a behaviour gives copies is `Copying`; a
behaviour that is rationed draws on an allowance that its prototype and all copies share.
-/

namespace FlightScript

/-- What a behaviour is told about its command. -/
structure Context where
  id : UInt32
  kind : UInt16
  argument : Bytes
  deriving DecidableEq, Repr

inductive Ending where
  | completed (message : String)
  | failed (failure : Failure) (message : String)
  deriving DecidableEq, Repr

namespace Ending

/-- The event by which a command learns how its behaviour ended. -/
def event : Ending → Status.Event
  | completed _ => .completed
  | failed failure _ => .failed failure

def status : Ending → Status
  | completed _ => .executed
  | failed failure _ => .ended failure

@[simp] theorem next?_event (ending : Ending) :
    Status.next? .executing ending.event = some ending.status := by
  cases ending <;> rfl

end Ending

/-- What a behaviour can see of the spacecraft. -/
structure Readings where
  inRange : Bool
  auditing : Bool
  /-- Seconds since start by the board clock. -/
  uptime : Nat
  deriving DecidableEq, Repr

/-- What a behaviour does once it is entered. -/
inductive Activity where
  | finish (ending : Ending)
  | log (line : Log.Line) (next : Activity)
  | note (text : String) (next : Activity)
  /-- Advances the shared counter, whose greatest value is followed by 0, and goes on with the value that
  it had before. -/
  | count (next : UInt32 → Activity)
  | observe (next : Readings → Activity)
  /-- Writes a packet to the ground, waiting for at most `timeout` milliseconds if there is a
  timeout, and goes on with the number of octets written. -/
  | write (payload : Bytes) (port : Port) (timeout : Option Nat) (next : Nat → Activity)
  | pause (milliseconds : Nat) (next : Activity)
  | never
  | crash

inductive Copying where
  | never
  | always
  /-- As long as the allowance of this number lasts. -/
  | rationed (allowance : Nat)
  deriving DecidableEq, Repr

/-- What a command is bound to. -/
structure Behavior where
  start : Context → Activity
  copying : Copying := .never

/-- How many copies each allowance still grants. An allowance that was never opened grants none. -/
structure Allowances where
  remaining : List Nat := []
  deriving DecidableEq, Repr

namespace Allowances

/-- The copies that an allowance still grants. -/
def left (allowances : Allowances) (allowance : Nat) : Nat :=
  allowances.remaining.getD allowance 0

/-- Opens a new allowance, and tells its number. -/
def openWith (allowances : Allowances) (copies : Nat) : Nat × Allowances :=
  (allowances.remaining.length, ⟨allowances.remaining ++ [copies]⟩)

/-- The allowances after one copy was asked for, if it is granted. -/
def grant? (allowances : Allowances) : Copying → Option Allowances
  | .never => none
  | .always => some allowances
  | .rationed allowance =>
    match allowances.left allowance with
    | 0 => none
    | n + 1 => some ⟨allowances.remaining.set allowance n⟩

end Allowances

end FlightScript
