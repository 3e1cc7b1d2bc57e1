import FlightScript.Builtin
import FlightScript.Daemon.Task
/-!
# A flight, on a clock of its own

A flight is a spacecraft, its daemon, and an operator who asks one thing at a time of them. Time is
the clock's own: it stands still while anything can go on, and otherwise moves to the next moment
at which something can. So a flight has one outcome, and it is exact to the millisecond.

## Who goes first

When the operator's call and the daemon can both go on, the call goes first; the daemon then has its
turn, until it waits. The daemon has turns only while a call waits, so between two calls that end at
once nothing happens in the background.

## Patience

A call is given up when it has waited for `patience` milliseconds. Whatever it can do at that very
moment it still does.
-/

namespace FlightScript

/-- Where the daemon of a flight is. -/
inductive Service where
  /-- Not started; it handles scripts that are handed over. -/
  | standby (daemon : Daemon)
  /-- At work on its own. -/
  | started (task : Daemon.Task)
  /-- Told to stop; whoever told it no longer hears of it. -/
  | dismissed (task : Daemon.Task)

structure Flight where
  craft : Spacecraft
  service : Service

namespace Flight

/-- How long a call is waited for, in milliseconds. -/
def patience : Nat := 3600000

/-! ## The background -/

/-- The daemon at work, if there is one. -/
def task? (flight : Flight) : Option Daemon.Task :=
  match flight.service with
  | .standby _ => none
  | .started task | .dismissed task => some task

/-- The flight with the daemon at work in another state. -/
def withTask (flight : Flight) (task : Daemon.Task) : Flight :=
  match flight.service with
  | .standby _ => flight
  | .started _ => { flight with service := .started task }
  | .dismissed _ => { flight with service := .dismissed task }

/-- Whether the daemon can go on by itself. -/
def backgroundReady (flight : Flight) : Bool :=
  flight.task?.any (·.ready flight.craft)

/-- Gives the daemon a turn. A daemon that is told to stop does so before anything else. -/
def backgroundTurn (flight : Flight) : Flight :=
  match flight.task? with
  | none => flight
  | some task =>
    let (task, craft) := task.turn true flight.craft
    { flight with craft }.withTask task

/-! ## Waiting for a call -/

/-- A call of the operator that may have to wait. -/
class Call (ω : Type) (α : outParam Type) where
  /-- Tries the call again. -/
  resume : ω → Flight → Progress ω α × Flight
  /-- Whether trying it again gets it any further. -/
  ready : ω → Flight → Bool
  /-- When it goes on, if nothing else happens. -/
  timer : ω → Option Nat

inductive Settled (α β : Type) where
  | done (result : α)
  /-- It was given up, and this is what is left of it. -/
  | cutOff (left : β)

/-- The next moment at which anything goes on by itself: no later than `cut`, and later than now. -/
def nextMoment (now cut : Nat) (timers : List (Option Nat)) : Nat :=
  timers.foldl (fun soonest timer =>
    match timer with
    | some t => if now < t then min soonest t else soonest
    | none => soonest) cut

/-- Waits for a call until a moment, with at most `fuel` turns of either side and moves of the
clock. -/
def waitUntil {ω α : Type} [Call ω α] (cut : Nat) : Nat → ω → Flight → Settled α ω × Flight
  | 0, call, flight => (.cutOff call, flight)
  | fuel + 1, call, flight =>
    if Call.ready call flight then
      match Call.resume call flight with
      | (.ready result, flight) => (.done result, flight)
      | (.waiting call, flight) => waitUntil cut fuel call flight
    else if cut ≤ flight.craft.now then (.cutOff call, flight)
    else if flight.backgroundReady then waitUntil cut fuel call flight.backgroundTurn
    else
      let background := flight.task?.bind (·.timer)
      let now := nextMoment flight.craft.now cut [Call.timer call, background]
      waitUntil cut fuel call { flight with craft := { flight.craft with now } }

/-- Waits for a call as long as patience lasts. Eight turns for every millisecond are more than any
daemon takes whose pause is not nothing. -/
def wait {ω α : Type} [Call ω α] (call : ω) (flight : Flight) : Settled α ω × Flight :=
  waitUntil (flight.craft.now + patience) (8 * (patience + 1)) call flight

/-- Waits for a call that has just begun. -/
def await {ω α : Type} [Call ω α] : Progress ω α → Flight → Settled α ω × Flight
  | .ready result, flight => (.done result, flight)
  | .waiting call, flight => flight.wait call

/-! ## Letting time pass -/

/-- A wait for a moment. -/
structure Rest where
  limit : Nat

instance : Call Rest Unit where
  resume call flight :=
    if call.limit ≤ flight.craft.now then (.ready (), flight) else (.waiting call, flight)
  ready call flight := call.limit ≤ flight.craft.now
  timer call := some call.limit

def rest (flight : Flight) (milliseconds : Nat) : Settled Unit Rest × Flight :=
  if milliseconds = 0 then (.done (), flight) else flight.wait ⟨flight.craft.now + milliseconds⟩

/-! ## The link -/

instance : Call Link.ReadCall (Option Bytes) where
  resume call flight :=
    let (progress, link) := flight.craft.link.resumeRead flight.craft.now call
    (progress, { flight with craft := { flight.craft with link } })
  ready call flight := flight.craft.link.readReady flight.craft.now call
  timer call := call.timer

instance : Call Link.WriteCall Nat where
  resume call flight :=
    let (progress, link) := flight.craft.link.resumeWrite flight.craft.now call
    (progress, { flight with craft := { flight.craft with link } })
  ready call flight := flight.craft.link.writeReady flight.craft.now call
  timer call := call.expiry

/-- The flight over another state of the link. -/
def withLink (flight : Flight) (link : Link) : Flight :=
  { flight with craft := { flight.craft with link } }

/-- Reads a script into a buffer: how many octets were read, and the buffer afterwards. -/
def read (flight : Flight) (buffer : Bytes) (port : Port) (timeout : Option Nat) :
    Settled (Nat × Bytes) Unit × Flight :=
  let (progress, link) := flight.craft.link.beginRead flight.craft.now port timeout
  match (flight.withLink link).await progress with
  | (.done result, flight) => (.done (Link.Queue.delivered buffer result), flight)
  | (.cutOff call, flight) => (.cutOff (), flight.withLink (flight.craft.link.dropRead call))

def write (flight : Flight) (packet : Packet) (timeout : Option Nat) : Settled Nat Unit × Flight :=
  let (progress, link) := flight.craft.link.beginWrite flight.craft.now packet timeout
  match (flight.withLink link).await progress with
  | (.done written, flight) => (.done written, flight)
  | (.cutOff call, flight) => (.cutOff (), flight.withLink (flight.craft.link.dropWrite call))

/-! ## Commands and scripts -/

instance : Call Execution Executed where
  resume call flight :=
    let (progress, craft) := call.resume flight.craft
    (progress, { flight with craft })
  ready call flight := call.ready flight.craft
  timer call := call.timer

instance : Call Script.Interpretation Script.Interpreted where
  resume call flight :=
    let (progress, craft) := call.resume flight.craft
    (progress, { flight with craft })
  ready call flight := call.execution.ready flight.craft
  timer call := call.execution.timer

instance : Call Wait Stop where
  resume call flight :=
    let (progress, craft) := call.resume flight.craft
    (progress, { flight with craft })
  ready call flight := call.ready flight.craft
  timer call := call.timer

/-- Executes a command. One that is given up stays as far as it has come. -/
def execute (flight : Flight) (command : Command) (allowed : Option Nat) :
    Settled Executed Command × Flight :=
  let (progress, craft) := command.execute allowed flight.craft
  match ({ flight with craft } : Flight).await progress with
  | (.done executed, flight) => (.done executed, flight)
  | (.cutOff call, flight) =>
    let (command, craft) := call.drop flight.craft
    (.cutOff command, { flight with craft })

/-- Runs a script. One that is given up stays as far as it has come. -/
def interpret (flight : Flight) (script : Script) (allowed : Option Nat) :
    Settled Script.Interpreted Script × Flight :=
  let (progress, craft) := script.interpret allowed flight.craft
  match ({ flight with craft } : Flight).await progress with
  | (.done interpreted, flight) => (.done interpreted, flight)
  | (.cutOff call, flight) =>
    let (script, craft) := call.drop flight.craft
    (.cutOff script, { flight with craft })

/-- Enters a behaviour outside any command. -/
def behave (flight : Flight) (behavior : Behavior) (context : Context) :
    Settled Stop Unit × Flight :=
  let (progress, craft) := (behavior.start context).run flight.craft
  match ({ flight with craft } : Flight).await progress with
  | (.done stop, flight) => (.done stop, flight)
  | (.cutOff wait, flight) => (.cutOff (), { flight with craft := wait.drop flight.craft })

/-- A script that was handed over to the daemon and whose command waits. -/
structure Handling where
  run : Script.Interpretation

/-- The flight after the daemon on standby has had a turn. -/
def afterHandling (flight : Flight) :
    Progress Script.Interpretation Daemon.Handled × Daemon × Spacecraft →
      Progress Handling Daemon.Handled × Flight
  | (progress, daemon, craft) =>
    (progress.mapWaiting Handling.mk, { flight with craft, service := .standby daemon })

instance : Call Handling Daemon.Handled where
  resume call flight :=
    match flight.service with
    | .standby daemon => flight.afterHandling (daemon.resume call.run flight.craft)
    | _ => (.waiting call, flight)
  ready call flight := call.run.execution.ready flight.craft
  timer call := call.run.execution.timer

/-- Hands a script over to the daemon, which has to be on standby. What the daemon has already
noted of a script that is given up stays. -/
def handle (flight : Flight) (script : Bytes) : Option (Settled Daemon.Handled Unit × Flight) :=
  match flight.service with
  | .standby daemon =>
    let (progress, flight) := flight.afterHandling (daemon.handleScript script flight.craft)
    match flight.await progress with
    | (.done handled, flight) => some (.done handled, flight)
    | (.cutOff call, flight) =>
      some (.cutOff (), { flight with craft := (call.run.drop flight.craft).2 })
  | _ => none

/-! ## The daemon at work -/

/-- What the daemon has counted, as long as it is on standby. -/
def stats? (flight : Flight) : Option Daemon.Stats :=
  match flight.service with
  | .standby daemon => some daemon.stats
  | _ => none

/-- Starts the daemon, which can be done once. -/
def start? (flight : Flight) : Option Flight :=
  match flight.service with
  | .standby daemon => some { flight with service := .started { daemon } }
  | _ => none

/-- Whether the daemon that was started has come to its end. -/
def isFinished? (flight : Flight) : Option Bool :=
  match flight.service with
  | .started task => some task.isFinished
  | _ => none

/-- A wait for the daemon to come to its end. -/
structure Stopping where

/-- How the daemon ended: with its counts, or taken down by a command. -/
inductive Ended where
  | stopped (stats : Daemon.Stats)
  | crashed
  deriving DecidableEq, Repr

instance : Call Stopping Ended where
  resume call flight :=
    match flight.task? with
    | some task =>
      match task.phase with
      | .stopped => (.ready (.stopped task.daemon.stats), flight)
      | .crashed =>
        (.ready .crashed,
          { flight with craft := flight.craft.say (.warn "Script daemon task failed") })
      | _ => (.waiting call, flight)
    | none => (.waiting call, flight)
  ready _ flight := flight.task?.any (·.isFinished)
  timer _ := none

/-- Tells the daemon to stop and waits for its end. It is not heard of again, even if it does not
end in time. -/
def shutdown (flight : Flight) : Option (Settled Ended Unit × Flight) :=
  match flight.service with
  | .started task =>
    match ({ flight with service := .dismissed task.cancel } : Flight).wait Stopping.mk with
    | (.done ended, flight) => some (.done ended, flight)
    | (.cutOff _, flight) => some (.cutOff (), flight)
  | _ => none

end Flight

end FlightScript
