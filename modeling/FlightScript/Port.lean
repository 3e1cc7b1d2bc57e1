/-!
# Logical ports of the ground link

A packet on the link belongs to one of 256 ports. Three of them have a name; scripts come up on
`telecommand` and what commands send back goes down on `telemetry`.
-/

namespace FlightScript

/-- A logical port on the ground link. -/
structure Port where
  number : UInt8
  deriving DecidableEq, Repr, Inhabited

namespace Port

/-- File transfer traffic. -/
def fileTransfer : Port := ⟨0⟩

/-- Uplinked scripts. -/
def telecommand : Port := ⟨1⟩

/-- What commands downlink. -/
def telemetry : Port := ⟨2⟩

def name (port : Port) : String :=
  if port = fileTransfer then "ftp"
  else if port = telecommand then "telecommand"
  else if port = telemetry then "telemetry"
  else s!"port{port.number}"

end Port

end FlightScript
