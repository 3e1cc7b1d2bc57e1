/-!
# Sizing limits of the telecommand subsystem

The fixed capacities aboard. None of them is an error by itself: what is longer is cut, what does
not fit is refused, and which of the two happens is said where the limit is used.
-/

namespace FlightScript.Limits

/-- Octets the receive buffer of the script daemon holds. -/
def scriptLength : Nat := 100

/-- Octets of an argument that a command keeps. -/
def argumentLength : Nat := 30

/-- Octets of a name that tell two registered commands apart. -/
def keyLength : Nat := 20

/-- Pause between two scripts, in milliseconds. -/
def daemonPause : Nat := 100

/-- Packets that either direction of the link queues. -/
def queueDepth : Nat := 20

/-- Octets that one link frame carries at most. -/
def framePayload : Nat := 4096

end FlightScript.Limits
