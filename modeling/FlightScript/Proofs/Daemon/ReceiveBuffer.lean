import FlightScript.Builtin
import FlightScript.Proofs.Daemon.Lockstep
/-!
# What is left in the receive buffer

A daemon has one buffer for all scripts and never clears it, so a script that is shorter than an earlier
one stands in front of the rest of that.  Such a rest may well complete what the script leaves open: a
string, a closing bracket, a terminator.  And of a script that is longer than the buffer, only the front
is received at all.

Neither shows.  Two daemons whose buffers hold different things are twins, and twins do the same with
scripts that have the same front (`turnsAlike_handle`).  Here the two spacecraft are one, so the relation
that is kept is equality.
-/

namespace FlightScript

/-- What happens aboard is the same on the same spacecraft. -/
lemma Spacecraft.congruence_eq : Congruence Eq where
  now h := congrArg now h
  link h := congrArg link h
  counter h := congrArg counter h
  allowances h := congrArg allowances h
  journal h := congrArg journal h
  readings h := congrArg readings h
  withLink h link := congrArg (fun craft => { craft with link }) h
  withCounter h counter := congrArg (fun craft => { craft with counter }) h
  withAllowances h allowances := congrArg (fun craft => { craft with allowances }) h
  enter h entry := congrArg (·.enter entry) h
  sayAll h lines := congrArg (·.sayAll lines) h
  recordStatus h kind status := congrArg (·.recordStatus kind status) h

namespace Daemon

lemma Call.respects_eq (call : Call) : call.Respects Eq :=
  ⟨fun _ _ h => congrArg call.lead h, fun interlude _ _ _ h => congrArg interlude h⟩

/-- **The receive buffer keeps no secrets.**  Let two daemons be equal but for what is in their buffers,
and let them be called with scripts that are pairwise the same, or agree as far as the buffer reaches and
go on as they like behind that.  Then they report the same outcomes, with the same errors at the same
offsets; call by call they come equally far, have entered the same behaviours with the same contexts, and
leave the same spacecraft, its audit log, its counter and its link included; and in the end they are still
equal but for what is in their buffers. -/
theorem buffer_keeps_no_secrets (daemon : Daemon) (buffer : ReceiveBuffer) (craft : Spacecraft)
    (calls calls' : List Call) (hcalls : List.Forall₂ Call.SameFront calls calls') :
    let session := Session.run { daemon, craft } calls
    let session' := Session.run { daemon := { daemon with buffer }, craft } calls'
    session.outcomes = session'.outcomes ∧
      List.Forall₂ (Handling.Lockstep Eq) session.handled session'.handled ∧
      session.craft = session'.craft ∧
      session'.daemon = { session.daemon with buffer := session'.daemon.buffer } := by
  intro session session'
  have hstart : Session.Lockstep Eq { daemon, craft } { daemon := { daemon with buffer }, craft } :=
    ⟨⟨rfl, rfl, rfl⟩, rfl, rfl, .nil⟩
  have hlockstep : session.Lockstep Eq session' :=
    hstart.run Spacecraft.congruence_eq hcalls fun call _ => call.respects_eq
  exact ⟨hlockstep.outcomes_eq, hlockstep.handled, hlockstep.craft, hlockstep.daemon_eq⟩

/-- What is left of an earlier script would complete this one, and two scripts differ only where they are
cut off. -/
theorem buffer_keeps_no_secrets_of_earlier_script :
    let daemon : Daemon := { registry := { prototypes := Builtin.prototypes } }
    let earlier := Bytes.ofString "INVOKE(\"count\", \"earlier\");"
    let count := Bytes.ofString "INVOKE(\"count\");" ++ List.replicate 84 32
    let calls : List Call := [
      { script := Bytes.ofString "INVOKE(\"count\", \"ea" },
      { script := count ++ Bytes.ofString "INVOKE(\"count\");" }]
    let calls' : List Call := [
      { script := Bytes.ofString "INVOKE(\"count\", \"ea" },
      { script := count ++ Bytes.ofString "what is this?" }]
    let session := Session.run { daemon, craft := {} } calls
    let session' := Session.run
      { daemon := { daemon with buffer := daemon.buffer.receive earlier }, craft := {} } calls'
    session.outcomes = [.dropped (.unterminatedString 16), .executed 1 1 .executed] ∧
      session'.outcomes = session.outcomes ∧ session'.craft = session.craft := by
  intro daemon earlier count calls calls' session session'
  have hcalls : List.Forall₂ Call.SameFront calls calls' :=
    .cons ⟨rfl, rfl, rfl⟩ (.cons ⟨by decide +kernel, rfl, rfl⟩ .nil)
  obtain ⟨houtcomes, -, hcraft, -⟩ :=
    buffer_keeps_no_secrets daemon (daemon.buffer.receive earlier) {} calls calls' hcalls
  exact ⟨by decide +kernel, houtcomes.symm, hcraft.symm⟩

end Daemon

end FlightScript
