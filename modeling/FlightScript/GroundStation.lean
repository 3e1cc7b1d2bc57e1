import FlightScript.Frame
import FlightScript.Text.Lossy
/-!
# The ground program

The ground program sends one script to the spacecraft and prints what comes down until the
spacecraft hangs up. A script that is too long for a frame is not sent at all; one that is too long
for the spacecraft's buffer is sent with a warning.
-/

namespace FlightScript.GroundStation

/-- What the ground program has done by its end. -/
structure Report where
  /-- The frame that was sent, if one was. -/
  uplinked : Option Bytes
  printed : String
  warnings : List String
  /-- What ended the program early. -/
  error : Option Frame.Error
  deriving DecidableEq, Repr

namespace Report

def exitCode (report : Report) : Nat :=
  if report.error.isSome then 1 else 0

def complaint (report : Report) : String :=
  match report.error with
  | none => ""
  | some e => s!"Error: {e.message}\n"

end Report

/-- The warning about a script that the spacecraft cuts. -/
def warnings (script : String) : List String :=
  if script.utf8ByteSize > Limits.scriptLength then
    [s!"Script is {script.utf8ByteSize} bytes; the spacecraft only reads the first {Limits.scriptLength}"]
  else []

def printedPacket (packet : Packet) : String :=
  let port := packet.port.name
  s!"[{port}] {Text.Lossy.decode packet.payload}\n"

/-- One run of the program: a script goes up, `reply` comes down. -/
def run (script : String) (reply : Bytes) : Report :=
  match Frame.encode ⟨.telecommand, Bytes.ofString script⟩ with
  | .error e => ⟨none, "", warnings script, some e⟩
  | .ok frame =>
    let drained := Frame.drain reply
    { uplinked := some frame
      printed := s!"Uplinked: {script}\n" ++ String.join (drained.packets.map printedPacket)
      warnings := warnings script
      error := drained.fault }

end FlightScript.GroundStation
