import FlightScript.Frame
import FlightScript.Progress
/-!
# The ground link in memory

Two bounded queues between the spacecraft and whoever stands for the ground. Scripts are inserted
into the uplink queue and read from it aboard; packets are written aboard into the downlink queue
and received from it by its one consumer.

## Who waits, and in what order

The uplink has one receiving end. A read first waits its turn for that end, in the order in which
reads began, and then for a packet; its timeout counts only from the moment it has the end. A read
that holds the end keeps it until it ends or is dropped.

A write that finds the downlink queue full waits its turn for a place. A place that becomes free is
*granted* to the write that has waited longest, which uses it when it is tried next. Until then the
place is taken: writes that begin later queue up behind it, and the consumer sees nothing yet.

Each call is known to the link by a ticket of its own, so any number of calls may be under way at
once, and each function here is one step of one call that nothing else can divide.
-/

namespace FlightScript.Link

/-- What a call under way is known by. -/
abbrev Ticket := Nat

/-- The receiving end of the downlink. -/
inductive Consumer where
  /-- Nobody has taken it yet. -/
  | untaken
  | taken
  /-- It was taken and given up; the downlink is closed for good. -/
  | dropped
  deriving DecidableEq, Repr

/-- The link, and the calls under way on it. -/
structure Queue where
  depth : Nat
  inRange : Bool := false
  /-- Scripts inserted and not yet read. -/
  uplink : List Bytes := []
  /-- Reads under way. The first of them holds the receiving end. -/
  readers : List Ticket := []
  /-- Packets written and not yet received. -/
  downlink : List Packet := []
  consumer : Consumer := .untaken
  /-- Writes that own a place in the downlink queue and have not yet used it. -/
  granted : List Ticket := []
  /-- Writes that wait for a place. -/
  writers : List Ticket := []
  nextTicket : Ticket := 0
  deriving DecidableEq, Repr

namespace Queue

/-! ## The ground's side -/

/-- Queues a script; a full queue refuses it and stays as it is. -/
def insert (queue : Queue) (script : Bytes) : Bool × Queue :=
  if queue.uplink.length < queue.depth then
    (true, { queue with uplink := queue.uplink ++ [script] })
  else (false, queue)

def setInRange (queue : Queue) (inRange : Bool) : Queue :=
  { queue with inRange }

/-- Takes the receiving end of the downlink, which can be done once. -/
def takeDownlink (queue : Queue) : Bool × Queue :=
  if queue.consumer = .untaken then (true, { queue with consumer := .taken }) else (false, queue)

/-- Gives the receiving end up. What was queued is lost. -/
def dropDownlink (queue : Queue) : Queue :=
  if queue.consumer = .taken then { queue with consumer := .dropped, downlink := [] } else queue

/-- Hands a free place to the write that has waited longest. -/
def grantPlace (queue : Queue) : Queue :=
  match queue.writers with
  | [] => queue
  | first :: rest => { queue with writers := rest, granted := queue.granted ++ [first] }

/-- Receives the next packet, which frees its place. Only a taken end receives. -/
def receive (queue : Queue) : Option Packet × Queue :=
  if queue.consumer = .taken then
    match queue.downlink with
    | [] => (none, queue)
    | packet :: rest => (some packet, { queue with downlink := rest }.grantPlace)
  else (none, queue)

def receiveUpTo : Nat → Queue → List Packet × Queue
  | 0, queue => ([], queue)
  | n + 1, queue =>
    match queue.receive with
    | (none, queue) => ([], queue)
    | (some packet, queue) =>
      let (packets, queue) := receiveUpTo n queue
      (packet :: packets, queue)

/-! ## Reading aboard -/

/-- Where a read stands. -/
inductive ReadStage where
  /-- It waits its turn for the receiving end. -/
  | queued (timeout : Option Nat)
  /-- It holds the receiving end and waits for a packet, until its time limit if it has one. -/
  | receiving (expiry : Option Nat)
  deriving DecidableEq, Repr

structure ReadCall where
  ticket : Ticket
  stage : ReadStage
  deriving DecidableEq, Repr

/-- The link without a read that has ended or was dropped; the next read has the receiving end. -/
def endRead (queue : Queue) (ticket : Ticket) : Queue :=
  { queue with readers := queue.readers.erase ticket }

/-- A read that holds the receiving end: it takes the first packet, if there is one, and otherwise
gives up when its time is over. -/
def receiveScript (queue : Queue) (now : Nat) (ticket : Ticket) (expiry : Option Nat) :
    Progress ReadCall (Option Bytes) × Queue :=
  match queue.uplink with
  | packet :: rest => (.ready (some packet), { queue with uplink := rest }.endRead ticket)
  | [] =>
    if expired now expiry then (.ready none, queue.endRead ticket)
    else (.waiting ⟨ticket, .receiving expiry⟩, queue)

def resumeRead (queue : Queue) (now : Nat) (call : ReadCall) :
    Progress ReadCall (Option Bytes) × Queue :=
  match call.stage with
  | .queued timeout =>
    if queue.readers.head? = some call.ticket then
      queue.receiveScript now call.ticket (timeout.map (now + ·))
    else (.waiting call, queue)
  | .receiving expiry => queue.receiveScript now call.ticket expiry

def beginRead (queue : Queue) (now : Nat) (timeout : Option Nat) :
    Progress ReadCall (Option Bytes) × Queue :=
  let ticket := queue.nextTicket
  { queue with readers := queue.readers ++ [ticket], nextTicket := ticket + 1 }.resumeRead now
    ⟨ticket, .queued timeout⟩

/-- Whether trying a read again gets it any further. -/
def readReady (queue : Queue) (now : Nat) (call : ReadCall) : Bool :=
  match call.stage with
  | .queued _ => queue.readers.head? = some call.ticket
  | .receiving expiry => !queue.uplink.isEmpty || expired now expiry

/-- When a waiting read gives up, if nothing else happens. -/
def ReadCall.timer (call : ReadCall) : Option Nat :=
  match call.stage with
  | .queued _ => none
  | .receiving expiry => expiry

/-- What a read with this result leaves in a buffer: how many octets were read, and the buffer. A
read that brought nothing leaves the buffer as it was. -/
def delivered (buffer : Bytes) : Option Bytes → Nat × Bytes
  | none => (0, buffer)
  | some packet => (min packet.length buffer.length, packet.overlay buffer)

/-! ## Writing aboard -/

/-- A write that waits for a place in the downlink queue. -/
structure WriteCall where
  ticket : Ticket
  packet : Packet
  expiry : Option Nat
  deriving DecidableEq, Repr

/-- Whether the downlink queue has a place that is neither used nor granted. -/
def hasPlace (queue : Queue) : Bool :=
  queue.downlink.length + queue.granted.length < queue.depth

/-- The link without a write that gives up. A place it had been granted goes to the next. -/
def endWrite (queue : Queue) (ticket : Ticket) : Queue :=
  if ticket ∈ queue.granted then
    { queue with granted := queue.granted.erase ticket }.grantPlace
  else { queue with writers := queue.writers.erase ticket }

/-- Tries a write again: it fails on a closed downlink, uses its place if it has one, and otherwise
gives up when its time is over. The result is the number of octets written. -/
def resumeWrite (queue : Queue) (now : Nat) (call : WriteCall) : Progress WriteCall Nat × Queue :=
  if queue.consumer = .dropped then (.ready 0, queue.endWrite call.ticket)
  else if call.ticket ∈ queue.granted then
    (.ready call.packet.payload.length,
      { queue with
        granted := queue.granted.erase call.ticket, downlink := queue.downlink ++ [call.packet] })
  else if expired now call.expiry then (.ready 0, queue.endWrite call.ticket)
  else (.waiting call, queue)

/-- Begins a write. Out of range, or with nobody to receive, it ends at once with nothing written;
that is not looked at again once it waits. -/
def beginWrite (queue : Queue) (now : Nat) (packet : Packet) (timeout : Option Nat) :
    Progress WriteCall Nat × Queue :=
  if !queue.inRange || queue.consumer ≠ .taken then (.ready 0, queue)
  else if queue.hasPlace then
    (.ready packet.payload.length, { queue with downlink := queue.downlink ++ [packet] })
  else
    let ticket := queue.nextTicket
    { queue with writers := queue.writers ++ [ticket], nextTicket := ticket + 1 }.resumeWrite now
      ⟨ticket, packet, timeout.map (now + ·)⟩

def writeReady (queue : Queue) (now : Nat) (call : WriteCall) : Bool :=
  queue.consumer = .dropped || call.ticket ∈ queue.granted || expired now call.expiry

/-! ## What waiting changes -/

/-- A read that is not ready stays as it is and leaves the link as it is. -/
theorem resumeRead_of_not_ready {queue : Queue} {now : Nat} {call : ReadCall}
    (h : queue.readReady now call = false) : queue.resumeRead now call = (.waiting call, queue) := by
  obtain ⟨ticket, stage⟩ := call
  cases stage with
  | queued timeout =>
    have notHead : queue.readers.head? ≠ some ticket := by simpa [readReady] using h
    simp [resumeRead, notHead]
  | receiving expiry =>
    have ⟨empty, running⟩ : queue.uplink = [] ∧ expired now expiry = false := by
      simpa [readReady] using h
    simp [resumeRead, receiveScript, empty, running]

/-- A write that is not ready stays as it is and leaves the link as it is. -/
theorem resumeWrite_of_not_ready {queue : Queue} {now : Nat} {call : WriteCall}
    (h : queue.writeReady now call = false) : queue.resumeWrite now call = (.waiting call, queue) := by
  obtain ⟨⟨opened, notGranted⟩, running⟩ :
      (queue.consumer ≠ .dropped ∧ call.ticket ∉ queue.granted) ∧ expired now call.expiry = false := by
    simpa [writeReady] using h
  simp [resumeWrite, opened, notGranted, running]

end Queue

end FlightScript.Link
