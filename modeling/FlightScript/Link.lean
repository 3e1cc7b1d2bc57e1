import FlightScript.Link.Queue
/-!
# The link as commands and the daemon see it

Aboard, the link is three things: whether a station is in reach, a read and a write. The link in
memory does all three by its queues. A `steady` link stands for a radio driver that never waits:
whatever is written, it reports the same count, and there is nothing to read.

Scripts arrive on one port only, so a read on any other port ends at once with nothing.
-/

namespace FlightScript

inductive Link where
  | queue (queue : Link.Queue)
  /-- Reports `written` octets for every write, whatever is written and whether or not a station is
  in reach, and has nothing to read. -/
  | steady (written : Nat) (inRange : Bool)
  deriving Repr

namespace Link

export Queue (ReadCall WriteCall)

def inRange : Link → Bool
  | queue q => q.inRange
  | steady _ inRange => inRange

def beginRead (link : Link) (now : Nat) (port : Port) (timeout : Option Nat) :
    Progress ReadCall (Option Bytes) × Link :=
  match link with
  | queue q =>
    if port = Port.telecommand then
      let (progress, q) := q.beginRead now timeout
      (progress, queue q)
    else (.ready none, link)
  | steady .. => (.ready none, link)

def resumeRead (link : Link) (now : Nat) (call : ReadCall) :
    Progress ReadCall (Option Bytes) × Link :=
  match link with
  | queue q =>
    let (progress, q) := q.resumeRead now call
    (progress, queue q)
  | steady .. => (.ready none, link)

/-- Whether trying a read again gets it any further. -/
def readReady (link : Link) (now : Nat) (call : ReadCall) : Bool :=
  match link with
  | queue q => q.readReady now call
  | steady .. => true

/-- The link without a read that is dropped while it waits. -/
def dropRead (link : Link) (call : ReadCall) : Link :=
  match link with
  | queue q => queue (q.endRead call.ticket)
  | steady .. => link

def beginWrite (link : Link) (now : Nat) (packet : Packet) (timeout : Option Nat) :
    Progress WriteCall Nat × Link :=
  match link with
  | queue q =>
    let (progress, q) := q.beginWrite now packet timeout
    (progress, queue q)
  | steady written _ => (.ready written, link)

def resumeWrite (link : Link) (now : Nat) (call : WriteCall) : Progress WriteCall Nat × Link :=
  match link with
  | queue q =>
    let (progress, q) := q.resumeWrite now call
    (progress, queue q)
  | steady written _ => (.ready written, link)

def writeReady (link : Link) (now : Nat) (call : WriteCall) : Bool :=
  match link with
  | queue q => q.writeReady now call
  | steady .. => true

/-- The link without a write that is dropped while it waits. -/
def dropWrite (link : Link) (call : WriteCall) : Link :=
  match link with
  | queue q => queue (q.endWrite call.ticket)
  | steady .. => link

end Link

end FlightScript
