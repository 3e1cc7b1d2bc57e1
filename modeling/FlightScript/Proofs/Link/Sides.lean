import FlightScript.Link
import Mathlib.Tactic.Lemma
/-!
# The two sides of a link

A link has an uplink side, with scripts and the reads that wait for them, and a downlink side, with packets,
the writes that wait for places, and whoever receives.  Each function of the link works on one of them, and
what it leaves of the other is a structure here with one field for each part of the link, so that later
files need not open the functions for it.
-/

namespace FlightScript.Link

namespace Queue

/-- A read on any port.  Only one port is served. -/
def beginReadOn (queue : Queue) (now : Nat) (port : Port) (timeout : Option Nat) :
    Progress ReadCall (Option Bytes) × Queue :=
  if port = .telecommand then queue.beginRead now timeout else (.ready none, queue)

/-! ## Reading leaves the downlink side alone -/

/-- What reading does not touch. -/
structure ReadsOnly (queue left : Queue) : Prop where
  depth : left.depth = queue.depth
  inRange : left.inRange = queue.inRange
  downlink : left.downlink = queue.downlink
  consumer : left.consumer = queue.consumer
  granted : left.granted = queue.granted
  writers : left.writers = queue.writers

lemma readsOnly_receiveScript (queue : Queue) (now : Nat) (ticket : Ticket) (expiry : Option Nat) :
    queue.ReadsOnly (queue.receiveScript now ticket expiry).2 := by
  unfold receiveScript
  split
  · constructor <;> rfl
  · split <;> constructor <;> rfl

lemma readsOnly_resumeRead (queue : Queue) (now : Nat) (call : ReadCall) :
    queue.ReadsOnly (queue.resumeRead now call).2 := by
  unfold resumeRead
  split
  · split
    · apply readsOnly_receiveScript
    · constructor <;> rfl
  · apply readsOnly_receiveScript

lemma readsOnly_beginRead (queue : Queue) (now : Nat) (timeout : Option Nat) :
    queue.ReadsOnly (queue.beginRead now timeout).2 := by
  have honly := readsOnly_resumeRead
    { queue with readers := queue.readers ++ [queue.nextTicket], nextTicket := queue.nextTicket + 1 }
    now ⟨queue.nextTicket, .queued timeout⟩
  exact ⟨honly.depth, honly.inRange, honly.downlink, honly.consumer, honly.granted, honly.writers⟩

lemma readsOnly_beginReadOn (queue : Queue) (now : Nat) (port : Port) (timeout : Option Nat) :
    queue.ReadsOnly (queue.beginReadOn now port timeout).2 := by
  unfold beginReadOn
  split
  · exact queue.readsOnly_beginRead now timeout
  · constructor <;> rfl

lemma readsOnly_endRead (queue : Queue) (ticket : Ticket) : queue.ReadsOnly (queue.endRead ticket) := by
  constructor <;> rfl

/-- An insertion leaves it alone as well. -/
lemma readsOnly_insert (queue : Queue) (script : Bytes) : queue.ReadsOnly (queue.insert script).2 := by
  unfold insert
  split <;> constructor <;> rfl

/-! ## Writing leaves the uplink side alone -/

/-- What writing does not touch. -/
structure WritesOnly (queue left : Queue) : Prop where
  depth : left.depth = queue.depth
  inRange : left.inRange = queue.inRange
  uplink : left.uplink = queue.uplink
  readers : left.readers = queue.readers
  consumer : left.consumer = queue.consumer

lemma writesOnly_grantPlace (queue : Queue) : queue.WritesOnly queue.grantPlace := by
  unfold grantPlace
  split <;> constructor <;> rfl

lemma writesOnly_endWrite (queue : Queue) (ticket : Ticket) :
    queue.WritesOnly (queue.endWrite ticket) := by
  unfold endWrite
  split
  · have honly := writesOnly_grantPlace { queue with granted := queue.granted.erase ticket }
    exact ⟨honly.depth, honly.inRange, honly.uplink, honly.readers, honly.consumer⟩
  · constructor <;> rfl

lemma writesOnly_resumeWrite (queue : Queue) (now : Nat) (call : WriteCall) :
    queue.WritesOnly (queue.resumeWrite now call).2 := by
  unfold resumeWrite
  split
  · apply writesOnly_endWrite
  · split
    · constructor <;> rfl
    · split
      · apply writesOnly_endWrite
      · constructor <;> rfl

lemma writesOnly_beginWrite (queue : Queue) (now : Nat) (packet : Packet) (timeout : Option Nat) :
    queue.WritesOnly (queue.beginWrite now packet timeout).2 := by
  unfold beginWrite
  split
  · constructor <;> rfl
  · split
    · constructor <;> rfl
    · have honly := writesOnly_resumeWrite
        { queue with
          writers := queue.writers ++ [queue.nextTicket], nextTicket := queue.nextTicket + 1 }
        now ⟨queue.nextTicket, packet, timeout.map (now + ·)⟩
      exact ⟨honly.depth, honly.inRange, honly.uplink, honly.readers, honly.consumer⟩

/-! ## The ground's side of the downlink leaves the uplink alone -/

/-- What the ground does not touch, unless it inserts a script. -/
structure DownlinkOnly (queue left : Queue) : Prop where
  depth : left.depth = queue.depth
  uplink : left.uplink = queue.uplink
  readers : left.readers = queue.readers

lemma downlinkOnly_setInRange (queue : Queue) (inRange : Bool) :
    queue.DownlinkOnly (queue.setInRange inRange) := by
  constructor <;> rfl

lemma downlinkOnly_takeDownlink (queue : Queue) : queue.DownlinkOnly queue.takeDownlink.2 := by
  unfold takeDownlink
  split <;> constructor <;> rfl

lemma downlinkOnly_dropDownlink (queue : Queue) : queue.DownlinkOnly queue.dropDownlink := by
  unfold dropDownlink
  split <;> constructor <;> rfl

lemma downlinkOnly_receive (queue : Queue) : queue.DownlinkOnly queue.receive.2 := by
  unfold receive
  split
  · split
    · constructor <;> rfl
    · next packet rest _ =>
      have honly := writesOnly_grantPlace { queue with downlink := rest }
      exact ⟨honly.depth, honly.uplink, honly.readers⟩
  · constructor <;> rfl

/-! ## The range is only ever set -/

lemma inRange_takeDownlink (queue : Queue) : queue.takeDownlink.2.inRange = queue.inRange := by
  unfold takeDownlink
  split <;> rfl

lemma inRange_dropDownlink (queue : Queue) : queue.dropDownlink.inRange = queue.inRange := by
  unfold dropDownlink
  split <;> rfl

lemma inRange_receive (queue : Queue) : queue.receive.2.inRange = queue.inRange := by
  unfold receive
  split
  · split
    · rfl
    · next packet rest _ => exact (writesOnly_grantPlace { queue with downlink := rest }).inRange
  · rfl

end Queue

end FlightScript.Link
