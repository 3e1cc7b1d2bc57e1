import FlightScript.CommandLine
import FlightScript.Mission
/-!
# The flight program

The radio is on the standard streams: one ground station sends frames on standard input and receives
frames on standard output, and the log goes to standard error. The program ends when its input ends.

Reading and writing is all that happens here. What a piece of input does to the mission is
`Mission.exchange`.
-/

namespace FlightScript.Main

/-- How many octets are read at a time. -/
def pieceSize : USize := 1024

/-- Writes the lines that the log has gained to standard error, and tells how many there are now. -/
def showLog (mission : Mission) (shown : Nat) : IO Nat := do
  let log := mission.flight.craft.log
  let errors ← IO.getStderr
  for line in log.drop shown do
    if line.level.isShown then errors.putStrLn line.render
  return log.length

/-- Serves the station until its input ends. -/
partial def serve (mission : Mission) (shown : Nat) : IO (Mission × Nat) := do
  let piece ← (← IO.getStdin).read pieceSize
  if piece.isEmpty then return (mission, shown)
  let (frames, mission) := mission.exchange piece.toList
  let output ← IO.getStdout
  output.write ⟨frames.toArray⟩
  output.flush
  serve mission (← showLog mission shown)

def fly (settings : Settings) : IO UInt32 := do
  let audit := if settings.auditLog.isSome then Audit.Trail.fresh else .disabled
  let mission := (Mission.boot settings audit).connect 0
  let (mission, shown) ← serve mission (← showLog mission 0)
  let (well, mission) := mission.stop
  let _ ← showLog mission shown
  return if well then 0 else 1

/-- The environment variables that stand in for options. -/
def environment : IO (String → Option String) := do
  let values ← CommandLine.Key.all.mapM fun key => do
    return (key.environmentName, ← IO.getEnv key.environmentName)
  return fun name => (values.lookup name).join

end FlightScript.Main

open FlightScript in
def main (arguments : List String) : IO UInt32 := do
  match CommandLine.read arguments (← Main.environment) with
  | .ok settings => Main.fly settings
  | .error .displayHelp =>
    (← IO.getStdout).putStrLn CommandLine.usage
    return 0
  | .error fault =>
    (← IO.getStderr).putStrLn s!"error: {fault.name}\n{CommandLine.usage}"
    return 2
