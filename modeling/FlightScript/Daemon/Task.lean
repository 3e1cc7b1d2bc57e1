import FlightScript.Daemon
/-!
# The daemon at work

A daemon that was started goes round a loop: it waits for a script, handles it, and pauses. It can be
cancelled, and notices that while it waits for a script and while it pauses, never while a command
runs. So a packet that was taken off the link is always handled to its end, and what has not been
taken when the daemon stops is still queued.

`Task.step` is one step of the loop. Between two steps anything else may happen aboard and on the
ground. Where a cancelled daemon could as well go on, because a packet has arrived or the pause is
over at the same moment, the step is told which of the two it does (`cancelFirst`).
-/

namespace FlightScript.Daemon

inductive Phase where
  /-- It was started and has not had a turn yet. -/
  | starting
  /-- It is about to wait for a script. -/
  | idle
  | reading (call : Link.ReadCall)
  | running (run : Script.Interpretation)
  | pausing (limit : Nat)
  | stopped
  | crashed

structure Task where
  daemon : Daemon
  phase : Phase := .starting
  cancelled : Bool := false

namespace Task

def cancel (task : Task) : Task :=
  { task with cancelled := true }

def isFinished (task : Task) : Bool :=
  match task.phase with
  | .stopped | .crashed => true
  | _ => false

def stop (task : Task) (craft : Spacecraft) : Task × Spacecraft :=
  let stats := task.daemon.stats
  ({ task with phase := .stopped },
    craft.say (.info s!"Script daemon stopped: {stats.received} received, {stats.executed} executed, {stats.dropped} dropped"))

/-- What is logged about a script that was handled. -/
def outcomeLines : Outcome → List Log.Line
  | .executed id kind status => [.info s!"Script {id} ran command type {kind}: {status.label}"]
  | _ => []

/-- What the daemon does after its script has had a turn: wait for its command, or pause. -/
def settle (task : Task) :
    Progress Script.Interpretation Handled × Daemon × Spacecraft → Task × Spacecraft
  | (.ready (.done outcome), daemon, craft) =>
    ({ task with daemon, phase := .pausing (craft.now + daemon.settings.pause) },
      craft.sayAll (outcomeLines outcome))
  | (.ready .crashed, daemon, craft) => ({ task with daemon, phase := .crashed }, craft)
  | (.waiting run, daemon, craft) => ({ task with daemon, phase := .running run }, craft)

/-- Handles what a read has brought: a packet, or nothing. -/
def receive (task : Task) (packet : Option Bytes) (craft : Spacecraft) : Task × Spacecraft :=
  match packet with
  | none => task.settle (task.daemon.handle 0 craft)
  | some packet => task.settle (task.daemon.handleScript packet craft)

/-- What the daemon does after its read has had a turn: handle the packet, wait on, or give the read
up because it was cancelled. -/
def afterRead (task : Task) (craft : Spacecraft) :
    Progress Link.ReadCall (Option Bytes) × Link → Task × Spacecraft
  | (.ready packet, link) => task.receive packet { craft with link }
  | (.waiting call, link) =>
    if task.cancelled then task.stop { craft with link := link.dropRead call }
    else ({ task with phase := .reading call }, { craft with link })

/-- One step of the loop. -/
def step (cancelFirst : Bool) (task : Task) (craft : Spacecraft) : Task × Spacecraft :=
  let settings := task.daemon.settings
  let stopsNow := task.cancelled && cancelFirst
  match task.phase with
  | .starting =>
    let port := settings.port.name
    ({ task with phase := .idle },
      craft.say (.info s!"Script daemon listening on {port} (buffer {Limits.scriptLength} bytes)"))
  | .idle =>
    if stopsNow then task.stop craft
    else task.afterRead craft (craft.link.beginRead craft.now settings.port settings.readTimeout)
  | .reading call =>
    if stopsNow then task.stop { craft with link := craft.link.dropRead call }
    else task.afterRead craft (craft.link.resumeRead craft.now call)
  | .running run => task.settle (task.daemon.resume run craft)
  | .pausing limit =>
    if task.cancelled && (cancelFirst || craft.now < limit) then task.stop craft
    else if limit ≤ craft.now then ({ task with phase := .idle }, craft)
    else (task, craft)
  | .stopped | .crashed => (task, craft)

/-- Whether a step gets the daemon any further. -/
def ready (task : Task) (craft : Spacecraft) : Bool :=
  match task.phase with
  | .starting | .idle => true
  | .reading call => task.cancelled || craft.link.readReady craft.now call
  | .running run => run.execution.ready craft
  | .pausing limit => task.cancelled || limit ≤ craft.now
  | .stopped | .crashed => false

/-- When the daemon goes on, if nothing else happens. -/
def timer (task : Task) : Option Nat :=
  match task.phase with
  | .reading call => call.timer
  | .running run => run.execution.timer
  | .pausing limit => some limit
  | _ => none

/-- Steps until the daemon has to wait, at most `fuel` of them. -/
def stepWhileReady (cancelFirst : Bool) : Nat → Task → Spacecraft → Task × Spacecraft
  | 0, task, craft => (task, craft)
  | fuel + 1, task, craft =>
    if task.ready craft then
      let (task, craft) := task.step cancelFirst craft
      stepWhileReady cancelFirst fuel task craft
    else (task, craft)

/-- Steps that a turn needs at most: a daemon with no pause takes script after script, and goes
through three phases for each. -/
def turnSteps (craft : Spacecraft) : Nat :=
  match craft.link with
  | .queue queue => 3 * queue.uplink.length + 8
  | .steady .. => 8

/-- One turn of the daemon: it goes on until it has to wait. -/
def turn (cancelFirst : Bool) (task : Task) (craft : Spacecraft) : Task × Spacecraft :=
  stepWhileReady cancelFirst (turnSteps craft) task craft

end Task

end FlightScript.Daemon
