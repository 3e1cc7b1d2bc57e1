import FlightScript.Flight
import FlightScript.Settings
import FlightScript.Uplink
/-!
# The flight program as a whole

A mission boots a spacecraft from its settings: the link with an uplink on it, the registry with the
built-in commands, and the daemon at work. From then on a ground station sends frames and receives
frames, time passes, and in the end the program is told to stop.
-/

namespace FlightScript

/-- A flight with an uplink on its link. -/
structure Mission where
  flight : Flight
  phase : Uplink.Phase := .listening
  backlog : List Station := []

namespace Mission

def settingsLines (settings : Settings) : List Log.Line :=
  let audit := settings.auditLog.getD "disabled"
  let deadline : List Log.Line :=
    match settings.daemon.deadline with
    | none => []
    | some allowed => [.info s!"  Command deadline: {allowed}ms"]
  [.info "OBC telecommand service starting",
   .info s!"  Uplink: {settings.uplinkAddress}",
   .info s!"  Audit log: {audit}"] ++ deadline

/-- Boots a mission: the link has its usual depth, and what may already be in the audit log is given.
The registry is complete before the daemon starts. -/
def boot (settings : Settings) (audit : Audit.Trail) : Mission :=
  let link : Link.Queue := { depth := Limits.queueDepth, consumer := .taken }
  let craft : Spacecraft := { link := .queue link, audit, log := settingsLines settings }
  let craft := craft.say (.info s!"Waiting for ground stations on {settings.uplinkAddress}")
  let (_, registry, craft) := Registry.empty.enlistBuiltins craft
  let names := ", ".intercalate registry.names
  let craft := craft.say (.info s!"Commands: {names}")
  let daemon : Daemon := { registry, settings := settings.daemon }
  { flight := { craft, service := .started { daemon } } }

def effectLines : Uplink.Effect → List Log.Line
  | .offered _ false =>
    [.debug "Uplink queue rejected packet: no available capacity",
     .warn "Uplink queue full, script dropped"]
  | _ => []

/-- Something happens to the uplink. -/
def happen (mission : Mission) (event : Uplink.Event) : List Uplink.Effect × Mission :=
  match mission.flight.craft.link with
  | .steady .. => ([], mission)
  | .queue link =>
    let (effects, uplink) := (⟨link, mission.phase, mission.backlog⟩ : Uplink).step event
    let craft := { mission.flight.craft with link := .queue uplink.link }
    let flight := { mission.flight with craft := craft.sayAll (effects.flatMap effectLines) }
    (effects, ⟨flight, uplink.phase, uplink.backlog⟩)

def connect (mission : Mission) (station : Station) : Mission :=
  ((mission.happen (.arrive station)).2.happen .accept).2

def rest (mission : Mission) (milliseconds : Nat) : Mission :=
  { mission with flight := (mission.flight.rest milliseconds).2 }

/-- The packets among some effects that were sent to a station. -/
def sentPackets (effects : List Uplink.Effect) : List Packet :=
  effects.filterMap fun
    | .sent _ packet _ => some packet
    | _ => none

/-- The octets among some effects that were sent to a station. -/
def sentOctets (effects : List Uplink.Effect) : Bytes :=
  effects.flatMap fun
    | .sent _ _ frame => frame
    | _ => []

/-- Sends packets down until none is left, at most `fuel` of them. -/
def transmitAll : Nat → Mission → Bytes × Mission
  | 0, mission => ([], mission)
  | fuel + 1, mission =>
    match mission.happen (.transmit true) with
    | ([], mission) => ([], mission)
    | (effects, mission) =>
      let (octets, mission) := transmitAll fuel mission
      (sentOctets effects ++ octets, mission)

/-- Gives the daemon the time to handle so many scripts, its pauses included. -/
def settleScripts (mission : Mission) (scripts : Nat) : Mission :=
  let pause := mission.flight.task?.elim 0 (·.daemon.settings.pause)
  mission.rest ((pause + 1) * (scripts + 1))

/-- Takes a piece of what the station sends, gives the daemon the time to handle what came with it,
and answers with what goes down. -/
def exchange (mission : Mission) (piece : Bytes) : Bytes × Mission :=
  let (effects, mission) := mission.happen (.bytes piece)
  transmitAll Limits.queueDepth (mission.settleScripts effects.length)

/-- Waits for the next packet that is sent down, looking once in a millisecond, at most `fuel`
times. -/
def awaitPacket : Nat → Mission → Option Packet × Mission
  | 0, mission => (none, mission)
  | fuel + 1, mission =>
    let (effects, mission) := mission.happen (.transmit true)
    match sentPackets effects with
    | packet :: _ => (some packet, mission)
    | [] => awaitPacket fuel (mission.rest 1)

/-! ## A pass over a ground station -/

/-- A script that a station sends. -/
structure Order where
  script : Bytes
  /-- Whether the station waits for a packet before it goes on. -/
  awaitsReply : Bool := false
  deriving DecidableEq, Repr

/-- How long a station waits for a packet, in milliseconds. -/
def replyPatience : Nat := 5000

/-- Sends a script, and waits for a packet if the station does. A script that is too long for a
frame is not sent. -/
def send (mission : Mission) (order : Order) : Option Packet × Mission :=
  match Frame.encode ⟨.telecommand, order.script⟩ with
  | .error _ => (none, mission)
  | .ok frame =>
    let (_, mission) := mission.happen (.bytes frame)
    if order.awaitsReply then awaitPacket replyPatience mission else (none, mission)

/-- Sends scripts one after another, and collects the packets that were waited for. -/
def sendAll : List Order → Mission → List Packet × Mission
  | [], mission => ([], mission)
  | order :: rest, mission =>
    let (reply, mission) := mission.send order
    let (replies, mission) := sendAll rest mission
    (reply.toList ++ replies, mission)

/-- Tells the program to stop, and waits for the daemon. The result says whether it ended well. -/
def stop (mission : Mission) : Bool × Mission :=
  let craft := mission.flight.craft.say (.info "Shutdown requested")
  match ({ mission.flight with craft } : Flight).shutdown with
  | some (.done (.stopped stats), flight) =>
    let line := Log.Line.info
      s!"Processed {stats.received} scripts ({stats.executed} executed, {stats.dropped} dropped)"
    (true, { mission with flight := { flight with craft := flight.craft.say line } })
  | some (_, flight) => (false, { mission with flight })
  | none => (false, mission)

end Mission

end FlightScript
