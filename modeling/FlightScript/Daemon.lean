import FlightScript.Script
/-!
# The script daemon

The daemon takes scripts from the link one at a time: it receives a packet into its buffer, reads the
script, numbers its command, runs it and releases it. What is wrong with a script is logged and
nothing else; scripts are counted as received, and then as executed or dropped.

`Daemon.handle` is what happens to the octets in the buffer. It is the same whether they came from
the link or were handed over directly (`Daemon.handleScript`).

## The order of the bookkeeping

A script is counted as received before it is read, its id is used up before its command starts, and
it is counted as executed after its command was released. An execution that is given up half way
therefore stays counted as received, with its id gone.
-/

namespace FlightScript

structure Daemon.Settings where
  port : Port := .telecommand
  /-- The pause after each script, in milliseconds. -/
  pause : Nat := Limits.daemonPause
  /-- How long to wait for a script; without it, for ever. -/
  readTimeout : Option Nat := none
  /-- How long one command may run; without it, for ever. -/
  deadline : Option Nat := none
  deriving DecidableEq, Repr

/-- How many scripts there were. Aboard each of these counts has 64 bits, which no mission is long enough to
fill; here they are natural numbers, which have no end. -/
structure Daemon.Stats where
  received : Nat := 0
  executed : Nat := 0
  dropped : Nat := 0
  deriving DecidableEq, Repr

structure Daemon.ReceiveBuffer where
  bytes : Bytes
  length_eq : bytes.length = Limits.scriptLength
  deriving DecidableEq

namespace Daemon.ReceiveBuffer

def zeroed : ReceiveBuffer := ⟨List.replicate Limits.scriptLength 0, by simp⟩

/-- Receives a packet, as much of it as fits. -/
def receive (buffer : ReceiveBuffer) (packet : Bytes) : ReceiveBuffer :=
  ⟨packet.overlay buffer.bytes, by simp [buffer.length_eq]⟩

/-- How many octets of a packet are received. -/
def received (packet : Bytes) : Nat :=
  min packet.length Limits.scriptLength

/-- What is in the buffer after a packet was received is the front of that packet, and nothing of
what was there before. -/
@[simp] theorem take_receive (buffer : ReceiveBuffer) (packet : Bytes) :
    (buffer.receive packet).bytes.take (received packet) = packet.take Limits.scriptLength := by
  have front := Bytes.take_overlay packet buffer.bytes
  rw [buffer.length_eq] at front
  exact front

end Daemon.ReceiveBuffer

/-- What became of one script. -/
inductive Daemon.Outcome where
  | empty
  /-- It was rejected before anything ran. -/
  | dropped (error : Script.Error)
  /-- Its command ran to its end. -/
  | executed (id : UInt32) (kind : UInt16) (status : Status)
  deriving DecidableEq, Repr

/-- How handling a script leaves the task it runs on. -/
inductive Daemon.Handled where
  | done (outcome : Daemon.Outcome)
  | crashed
  deriving DecidableEq, Repr

/-- The script daemon between two scripts. -/
structure Daemon where
  registry : Registry
  settings : Daemon.Settings := {}
  buffer : Daemon.ReceiveBuffer := .zeroed
  stats : Daemon.Stats := {}
  nextId : UInt32 := 1

namespace Daemon

/-- What becomes of a script after its command has had a turn. -/
def settle (daemon : Daemon) :
    Progress Script.Interpretation Script.Interpreted × Spacecraft →
      Progress Script.Interpretation Handled × Daemon × Spacecraft
  | (.ready (.returned script), craft) =>
    let command := script.command
    let stats := { daemon.stats with executed := daemon.stats.executed + 1 }
    (.ready (.done (.executed command.id command.kind command.status)), { daemon with stats },
      craft.sayAll script.releaseLines)
  | (.ready .crashed, craft) => (.ready .crashed, daemon, craft)
  | (.waiting run, craft) => (.waiting run, daemon, craft)

/-- Handles the first `length` octets of the buffer. -/
def handle (daemon : Daemon) (length : Nat) (craft : Spacecraft) :
    Progress Script.Interpretation Handled × Daemon × Spacecraft :=
  if length = 0 then (.ready (.done .empty), daemon, craft)
  else
    let stats := { daemon.stats with received := daemon.stats.received + 1 }
    match Script.parse (daemon.buffer.bytes.take length) daemon.registry craft.allowances with
    | (.error e, allowances) =>
      let stats := { stats with dropped := stats.dropped + 1 }
      (.ready (.done (.dropped e)), { daemon with stats },
        { craft with allowances }.say (.debug s!"Dropping script: {e.message}"))
    | (.ok script, allowances) =>
      let script := script.withCommand (script.command.withId daemon.nextId)
      { daemon with stats, nextId := daemon.nextId + 1 }.settle
        (script.interpret daemon.settings.deadline { craft with allowances })

/-- Handles a script as if it had just been received. -/
def handleScript (daemon : Daemon) (script : Bytes) (craft : Spacecraft) :
    Progress Script.Interpretation Handled × Daemon × Spacecraft :=
  { daemon with buffer := daemon.buffer.receive script }.handle (ReceiveBuffer.received script) craft

/-- Goes on with a script whose command waits. -/
def resume (daemon : Daemon) (run : Script.Interpretation) (craft : Spacecraft) :
    Progress Script.Interpretation Handled × Daemon × Spacecraft :=
  daemon.settle (run.resume craft)

end Daemon

end FlightScript
