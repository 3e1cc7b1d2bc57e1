import FlightScript.GroundStation
import FlightScript.Main
import FlightScript.Proofs.Daemon.AuditTrail
import FlightScript.Proofs.Daemon.Bookkeeping
import FlightScript.Proofs.Frame.Framing
import FlightScript.Uplink.Rehearsal
import FlightScript.Proofs.Command.SingleUse
import FlightScript.Proofs.Registry.History
import FlightScript.Proofs.Daemon.Loop
import FlightScript.Proofs.Command.Steady
import FlightScript.Proofs.Daemon.Refinement
import FlightScript.Proofs.Daemon.Cancellation
import FlightScript.Proofs.Link.Deadlines
import FlightScript.Proofs.Link.OutOfRange
import FlightScript.Proofs.Uplink.Range
import FlightScript.Proofs.Uplink.Delivery
import FlightScript.Proofs.Command.Downlinking
import FlightScript.Proofs.Daemon.StorageFaults
import FlightScript.Proofs.Daemon.ReceiveBuffer
import FlightScript.Proofs.Daemon.DroppedScripts
import FlightScript.Proofs.Script.Cutting
import FlightScript.Proofs.Command.TimeLimit
import FlightScript.Proofs.Daemon.SharedCounter
import FlightScript.Proofs.Registry.Builtins
import FlightScript.Proofs.Script.Nesting
import FlightScript.Proofs.Script.Probing
import FlightScript.Proofs.Script.Hashing
import FlightScript.Proofs.Status.Moves
import FlightScript.Proofs.Uplink.Rehearsal
