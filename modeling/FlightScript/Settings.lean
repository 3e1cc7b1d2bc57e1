import FlightScript.Daemon
/-!
# Settings of the flight program

Three things can be set from outside: the address that ground stations connect to, where the audit
log is kept and whether there is one, and how long a command may run. The rest of the daemon's
set-up is fixed.
-/

namespace FlightScript

structure Settings where
  uplinkAddress : String := "127.0.0.1:7100"
  /-- Where the audit log is kept; without it, nothing is audited. -/
  auditLog : Option String := some "/boot/tc_log.bin"
  daemon : Daemon.Settings := {}
  deriving DecidableEq, Repr

end FlightScript
