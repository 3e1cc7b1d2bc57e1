import FlightScript.Audit.Trail
import FlightScript.Behavior
import FlightScript.Link
/-!
# The spacecraft

Everything that the commands, the daemon and the registry share: the clock, the link, the audit log,
the counter, the allowances for copies, the journal and the log. Whatever happens aboard is a
function from one `Spacecraft` to the next.

## The journal

The journal records, in order, each entry into a behaviour with the context it was given, and the
notes that behaviours leave. It is the flight recorder: nothing aboard reads it, and it is what
statements about "which behaviour ran, with what" are made of.
-/

namespace FlightScript

inductive JournalEntry where
  | entered (context : Context)
  | note (text : String)
  deriving DecidableEq, Repr

/-- What the software aboard works on. -/
structure Spacecraft where
  /-- Milliseconds by the clock that timeouts and pauses go by. -/
  now : Nat := 0
  /-- Seconds since start by the board clock. -/
  uptime : Nat := 0
  /-- Seconds since the epoch by the board clock, which stamps the audit log. -/
  date : Nat := 0
  link : Link := .queue { depth := Limits.queueDepth }
  audit : Audit.Trail := .disabled
  /-- The counter that all counting commands share. -/
  counter : UInt32 := 0
  allowances : Allowances := {}
  journal : List JournalEntry := []
  log : List Log.Line := []

namespace Spacecraft

def say (craft : Spacecraft) (line : Log.Line) : Spacecraft :=
  { craft with log := craft.log ++ [line] }

def sayAll (craft : Spacecraft) (lines : List Log.Line) : Spacecraft :=
  { craft with log := craft.log ++ lines }

def enter (craft : Spacecraft) (entry : JournalEntry) : Spacecraft :=
  { craft with journal := craft.journal ++ [entry] }

def readings (craft : Spacecraft) : Readings :=
  ⟨craft.link.inRange, craft.audit.isEnabled, craft.uptime⟩

/-- The time that a record is stamped with; the field is 32 bits wide, and time stops at its end. -/
def timestamp (craft : Spacecraft) : UInt32 :=
  (min craft.date (UInt32.size - 1)).toUInt32

/-- Records in the audit log that commands of a kind have a status. A fault of the storage is logged
and goes no further. -/
def recordStatus (craft : Spacecraft) (kind : UInt16) (status : Status) : Spacecraft :=
  let (result, audit) := craft.audit.append ⟨kind, craft.timestamp, status⟩
  let line : Log.Line :=
    match result with
    | .ok () => .trace s!"Audit: type={kind} status={status.label}"
    | .error fault => .warn s!"Failed to write audit record for type {kind}: {fault.message}"
  { craft with audit }.say line

/-- Queues a script on the link in memory, or says that it was refused. Other links take none. -/
def insert (craft : Spacecraft) (script : Bytes) : Bool × Spacecraft :=
  match craft.link with
  | .steady .. => (false, craft)
  | .queue queue =>
    let (accepted, queue) := queue.insert script
    let craft := { craft with link := .queue queue }
    if accepted then (true, craft)
    else (false, craft.say (.debug "Uplink queue rejected packet: no available capacity"))

end Spacecraft

end FlightScript
