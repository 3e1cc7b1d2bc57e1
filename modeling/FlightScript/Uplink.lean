import FlightScript.Link.Queue
/-!
# Ground stations

An uplink listens for ground stations and serves one at a time: frames that a station sends are read
as packets, of which those for the telecommand port are queued as scripts; packets that the
spacecraft writes are framed and sent to the station. The link is in range from the moment a station
is served until it is gone.

Each station has a decoder of its own, so an unfinished frame goes with the station that sent it. The
queues belong to the link and outlive stations. The receiving end of the downlink belongs to the
uplink, which gives it up when it is shut down.

## Events

What happens to an uplink is a sequence of events, from the network (`arrive`, `bytes`, `hangUp`,
`readError`), from the link (`transmit`) and from the flight program (`shutdown`); `accept` is the
listener's own step. An event that cannot happen where the uplink stands changes nothing.
-/

namespace FlightScript

abbrev Station := Nat

/-- Where an uplink stands. -/
inductive Uplink.Phase where
  | listening
  | serving (station : Station) (decoder : Decoder)
  | ended
  deriving DecidableEq, Repr

structure Uplink where
  link : Link.Queue
  phase : Uplink.Phase := .listening
  /-- Stations that have connected and are not served yet. -/
  backlog : List Station := []
  deriving DecidableEq, Repr

namespace Uplink

inductive StartError where
  /-- Another uplink has the downlink's receiving end. -/
  | downlinkInUse
  deriving DecidableEq, Repr

def StartError.message : StartError → String
  | downlinkInUse => "Downlink of the ground link is already in use"

/-- Starts an uplink on a link, which takes the receiving end of the downlink. -/
def start (link : Link.Queue) : Except StartError Uplink :=
  match link.takeDownlink with
  | (true, link) => .ok { link }
  | (false, _) => .error .downlinkInUse

/-- What happens to an uplink. -/
inductive Event where
  | arrive (station : Station)
  /-- The listener takes the next station. -/
  | accept
  /-- Some octets come from the station that is served. -/
  | bytes (piece : Bytes)
  /-- The station's stream ends. -/
  | hangUp
  | readError
  /-- The next packet of the downlink is sent; the station may no longer take it. -/
  | transmit (taken : Bool)
  | shutdown
  deriving DecidableEq, Repr

/-- Why a station is no longer served. -/
inductive Farewell where
  | hungUp
  | badFrame (error : Frame.Error)
  | connectionLost
  deriving DecidableEq, Repr

/-- What an uplink does. -/
inductive Effect where
  /-- A script was offered to the link, which queued it or refused it. -/
  | offered (script : Bytes) (queued : Bool)
  | sent (station : Station) (packet : Packet) (frame : Bytes)
  | left (station : Station) (why : Farewell)
  deriving DecidableEq, Repr

/-- Offers scripts to a link one after another. -/
def offerAll : List Bytes → Link.Queue → List Effect × Link.Queue
  | [], link => ([], link)
  | script :: rest, link =>
    let (queued, link) := link.insert script
    let (effects, link) := offerAll rest link
    (.offered script queued :: effects, link)

/-- The scripts among some packets. -/
def scripts (packets : List Packet) : List Bytes :=
  (packets.filter (·.port = Port.telecommand)).map (·.payload)

/-- Stops serving a station. -/
def leave (uplink : Uplink) (station : Station) (why : Farewell) : List Effect × Uplink :=
  ([.left station why],
    { uplink with link := uplink.link.setInRange false, phase := .listening })

/-- What an event does to an uplink. -/
def step (uplink : Uplink) : Event → List Effect × Uplink
  | .arrive station => ([], { uplink with backlog := uplink.backlog ++ [station] })
  | .accept =>
    match uplink.phase, uplink.backlog with
    | .listening, station :: backlog =>
      ([], { link := uplink.link.setInRange true, phase := .serving station {}, backlog })
    | _, _ => ([], uplink)
  | .bytes piece =>
    match uplink.phase with
    | .serving station decoder =>
      let (packets, fault, decoder) := (decoder.feed piece).drain
      let (effects, link) := offerAll (scripts packets) uplink.link
      match fault with
      | none => (effects, { uplink with link, phase := .serving station decoder })
      | some e =>
        let (farewell, uplink) := { uplink with link }.leave station (.badFrame e)
        (effects ++ farewell, uplink)
    | _ => ([], uplink)
  | .hangUp =>
    match uplink.phase with
    | .serving station _ => uplink.leave station .hungUp
    | _ => ([], uplink)
  | .readError =>
    match uplink.phase with
    | .serving station _ => uplink.leave station .connectionLost
    | _ => ([], uplink)
  | .transmit taken =>
    match uplink.phase with
    | .serving station _ =>
      match uplink.link.receive with
      | (none, _) => ([], uplink)
      | (some packet, link) =>
        match Frame.encode packet, taken with
        | .error e, _ => { uplink with link }.leave station (.badFrame e)
        | .ok _, false => { uplink with link }.leave station .connectionLost
        | .ok frame, true => ([.sent station packet frame], { uplink with link })
    | _ => ([], uplink)
  | .shutdown => ([], { uplink with link := uplink.link.dropDownlink, phase := .ended })

/-- What a sequence of events does to an uplink. -/
def run (uplink : Uplink) : List Event → List Effect × Uplink
  | [] => ([], uplink)
  | event :: rest =>
    let (effects, uplink) := uplink.step event
    let (more, uplink) := uplink.run rest
    (effects ++ more, uplink)

def isServing (uplink : Uplink) : Bool :=
  match uplink.phase with
  | .serving .. => true
  | _ => false

end Uplink

end FlightScript
