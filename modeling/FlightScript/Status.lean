/-!
# The life of one command

A command is pending until it is executed, is executing until its behaviour ends, and then has a
terminal status for good. `Status.next?` is the whole table of moves; everything it leaves out is
refused and changes nothing, so a command that has run cannot run again.

On the link and in the audit log a status is one octet (`Status.byte`, `Status.ofByte?`).
-/

namespace FlightScript

inductive Failure where
  | failed
  | overflow
  | memoryFull
  | storageError
  | timeError
  | syntaxError
  deriving DecidableEq, Repr

inductive Status where
  | executing
  | executed
  | pending
  /-- Ended by a failure, which is the status from then on. -/
  | ended (failure : Failure)
  deriving DecidableEq, Repr

namespace Failure

/-- Every failure, in the order of the octets that stand for them. -/
def all : List Failure :=
  [.failed, .overflow, .memoryFull, .storageError, .timeError, .syntaxError]

def byte : Failure → UInt8
  | failed => 3
  | overflow => 4
  | memoryFull => 5
  | storageError => 6
  | timeError => 7
  | syntaxError => 8

def name : Failure → String
  | failed => "Failed"
  | overflow => "Overflow"
  | memoryFull => "MemoryFull"
  | storageError => "StorageError"
  | timeError => "TimeError"
  | syntaxError => "SyntaxError"

def label : Failure → String
  | failed => "FAILED"
  | overflow => "OVERFLOW"
  | memoryFull => "MEMORY_FULL"
  | storageError => "STORAGE_ERROR"
  | timeError => "TIME_ERROR"
  | syntaxError => "SYNTAX_ERROR"

end Failure

namespace Status

/-- Every status, in the order of the octets that stand for them. -/
def all : List Status :=
  [.executing, .executed, .pending] ++ Failure.all.map .ended

def byte : Status → UInt8
  | executing => 0
  | executed => 1
  | pending => 2
  | ended failure => failure.byte

/-- The status that an octet stands for. -/
def ofByte? (b : UInt8) : Option Status :=
  all.find? (·.byte = b)

def name : Status → String
  | executing => "Executing"
  | executed => "Executed"
  | pending => "Pending"
  | ended failure => failure.name

def label : Status → String
  | executing => "EXECUTING"
  | executed => "EXECUTED"
  | pending => "PENDING"
  | ended failure => failure.label

/-- Statuses that nothing leaves. -/
def IsTerminal (status : Status) : Prop :=
  status ≠ .pending ∧ status ≠ .executing

instance (status : Status) : Decidable status.IsTerminal :=
  inferInstanceAs (Decidable (_ ∧ _))

theorem byte_lt (status : Status) : status.byte < 9 := by
  rcases status with _ | _ | _ | failure <;> try decide
  cases failure <;> decide

@[simp] theorem ofByte?_byte (status : Status) : ofByte? status.byte = some status := by
  rcases status with _ | _ | _ | failure <;> try rfl
  cases failure <;> rfl

theorem byte_of_ofByte? {b : UInt8} {status : Status} (h : ofByte? b = some status) :
    status.byte = b := by
  simpa using List.find?_some h

/-! ## Moves -/

inductive Event where
  /-- Its execution was entered. -/
  | started
  /-- Its behaviour ended and reported no failure. -/
  | completed
  | failed (failure : Failure)
  deriving DecidableEq, Repr

/-- The status after an event, where the event is allowed. -/
def next? : Status → Event → Option Status
  | pending, .started => some executing
  | executing, .completed => some executed
  | executing, .failed failure => some (ended failure)
  | _, _ => none

/-- How an event was answered. -/
inductive Answer where
  /-- It moved the command into a status. -/
  | moved (reached : Status)
  /-- It was refused in the status where it came. -/
  | refused (current : Status) (event : Event)
  deriving DecidableEq, Repr

/-- The answer to an event, and the status afterwards. -/
def process (status : Status) (event : Event) : Answer × Status :=
  match status.next? event with
  | some reached => (.moved reached, reached)
  | none => (.refused status event, status)

/-- The answers to a sequence of events, each with the status afterwards. -/
def processAll : Status → List Event → List (Answer × Status)
  | _, [] => []
  | status, event :: rest =>
    let answered := status.process event
    answered :: processAll answered.2 rest

/-- The status after a sequence of events. -/
def after (status : Status) (events : List Event) : Status :=
  events.foldl (fun status event => (status.process event).2) status

@[simp] theorem length_processAll (status : Status) (events : List Event) :
    (processAll status events).length = events.length := by
  induction events generalizing status with
  | nil => rfl
  | cons event rest ih => simp [processAll, ih]

/-- Nothing moves a command that has ended. -/
theorem next?_of_isTerminal {status : Status} (h : status.IsTerminal) (event : Event) :
    status.next? event = none := by
  obtain ⟨notPending, notExecuting⟩ := h
  cases status <;> simp_all [next?]

end Status

end FlightScript
