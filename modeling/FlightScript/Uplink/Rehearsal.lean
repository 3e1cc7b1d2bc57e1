import FlightScript.Flight
import FlightScript.Uplink
/-!
# Rehearsing an uplink

In a rehearsal an uplink is started on a fresh link, and tried by hand: a station connects, packets are
written, scripts are read. What the uplink hears of the network while it is waited for is given.

By the clock of a `Flight` it hears nothing. Such a clock moves on as soon as everything aboard waits,
and the network is not aboard, so patience is over before a station that connects has been heard.
-/

namespace FlightScript.Uplink

/-- An uplink that is tried by hand. -/
structure Rehearsal where
  uplink : Uplink

namespace Rehearsal

/-- Begins a rehearsal on a fresh link. -/
def begin (depth : Nat) : Except StartError Rehearsal :=
  Rehearsal.mk <$> Uplink.start { depth }

/-- Whether a station is there to send, hang up, or be hung up on. -/
def isConnected (rehearsal : Rehearsal) : Bool :=
  rehearsal.uplink.isServing

def inRange (rehearsal : Rehearsal) : Bool :=
  rehearsal.uplink.link.inRange

/-- A station connects, and the link is waited for to come in range. What is heard until patience is over is
nothing by the clock of a flight; once the link is in range, the rest is not waited for. -/
def connect (rehearsal : Rehearsal) (heard : List Event := []) : Flight.Settled Unit Unit × Rehearsal :=
  if rehearsal.inRange then (.done (), rehearsal)
  else
    match heard with
    | [] => (.cutOff (), rehearsal)
    | event :: heard => connect ⟨(rehearsal.uplink.step event).2⟩ heard

/-- The spacecraft writes a packet: how many octets were written, if that is known at once. -/
def downlink (rehearsal : Rehearsal) (packet : Packet) : Option Nat × Rehearsal :=
  match rehearsal.uplink.link.beginWrite 0 packet (some 0) with
  | (.ready written, link) => (some written, ⟨{ rehearsal.uplink with link }⟩)
  | (.waiting _, link) => (none, ⟨{ rehearsal.uplink with link }⟩)

/-- The next script that is queued, as much of it as fits; nothing if there is none. -/
def read (rehearsal : Rehearsal) (capacity : Nat) : Bytes × Rehearsal :=
  match rehearsal.uplink.link.beginRead 0 (some 0) with
  | (.ready (some script), link) => (script.take capacity, ⟨{ rehearsal.uplink with link }⟩)
  | (_, link) => ([], ⟨{ rehearsal.uplink with link }⟩)

/-- Starts another uplink on the same link. -/
def second (rehearsal : Rehearsal) : Except StartError Uplink :=
  Uplink.start rehearsal.uplink.link

end Rehearsal

end FlightScript.Uplink
