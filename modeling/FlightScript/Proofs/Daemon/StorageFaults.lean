import FlightScript.Builtin
import FlightScript.Proofs.Daemon.Lockstep
/-!
# Storage that fails

A command writes to the audit log when it starts and when it ends, and at either point the storage may
refuse.  What commands do is not to depend on that.  So two spacecraft are compared which both have an
audit log and are the same apart from what became of their records (`Spacecraft.SameButStorage`).  The
storage of either may refuse any appends whatsoever, in files that hold anything.

Commands cannot tell two such spacecraft apart (`congruence_sameButStorage`): they see that there is a log
and nothing more of it.  The rest is what follows for any two runs side by side.
-/

namespace FlightScript

/-- Two spacecraft with an audit log each that differ, if at all, in what these logs hold, in what their
storage refuses, and in the lines that were logged. -/
abbrev Spacecraft.SameButStorage : Spacecraft → Spacecraft → Prop :=
  AlikeUpTo fun trail trail' => trail.isEnabled = true ∧ trail'.isEnabled = true

/-- **A storage fault is seen by nobody.**  The start and the end of a command are recorded alike on
storage that takes the record and on storage that refuses it, but for the log and for a line. -/
lemma Spacecraft.congruence_sameButStorage : Congruence SameButStorage :=
  congruence_alikeUpTo (fun h => h.1.trans h.2.symm) fun {trail trail'} h record =>
    ⟨(trail.isEnabled_append record).trans h.1, (trail'.isEnabled_append record).trans h.2⟩

namespace Daemon

/-- A script is received in front of what was in the buffer, whatever comes of it. -/
lemma Handles.buffer_eq {daemon : Daemon} {script : Bytes} {craft : Spacecraft}
    {interludes : List Interlude} {handling : Handling}
    (h : Handles daemon script craft interludes handling) :
    handling.daemon.buffer = daemon.buffer.receive script := by
  cases h <;> rfl

lemma Session.buffer_run (session : Session) (calls : List Call) :
    (session.run calls).daemon.buffer =
      (calls.map Call.script).foldl ReceiveBuffer.receive session.daemon.buffer := by
  induction calls generalizing session with
  | nil => rfl
  | cons call calls ih =>
    have hbuffer : (session.call call).daemon.buffer = session.daemon.buffer.receive call.script :=
      (session.handles_handlingOf call).buffer_eq
    calc
      (session.run (call :: calls)).daemon.buffer
        = ((session.call call).run calls).daemon.buffer := rfl
      _ = (calls.map Call.script).foldl ReceiveBuffer.receive (session.call call).daemon.buffer := ih _
      _ = _ := by rw [hbuffer, List.map_cons, List.foldl_cons]

/-- **Storage that fails changes nothing that commands do.**  Let two runs of the same calls differ in
nothing but their audit logs, which may hold anything, and whose storage may refuse any appends, in any two
patterns.  Let nothing else aboard look at the logs.  Then the two runs report the same outcomes and
leave the same daemon behind, its books and its next id included; call by call they come equally far and
have entered the same behaviours with the same contexts; and whenever a call is over, the two spacecraft
have the same link, with the same packets to go down, and the same counter, and differ in their logs
alone. -/
theorem storage_changes_nothing (daemon : Daemon) (craft : Spacecraft) (file file' : Audit.LogFile)
    (calls : List Call) (hcalls : ∀ call ∈ calls, call.Respects Spacecraft.SameButStorage) :
    let session := Session.run { daemon, craft := { craft with audit := .enabled file } } calls
    let session' := Session.run { daemon, craft := { craft with audit := .enabled file' } } calls
    session.outcomes = session'.outcomes ∧ session.daemon = session'.daemon ∧
      List.Forall₂ (Handling.Lockstep Spacecraft.SameButStorage) session.handled session'.handled ∧
      Spacecraft.SameButStorage session.craft session'.craft := by
  intro session session'
  have hstart : Session.Lockstep Spacecraft.SameButStorage
      { daemon, craft := { craft with audit := .enabled file } }
      { daemon, craft := { craft with audit := .enabled file' } } :=
    ⟨.refl daemon, rfl, ⟨rfl, rfl, rfl, rfl, rfl, rfl, rfl, rfl, rfl⟩, .nil⟩
  have hlockstep : session.Lockstep Spacecraft.SameButStorage session' :=
    hstart.run Spacecraft.congruence_sameButStorage
      (List.forall₂_same.2 fun call _ => .refl call) hcalls
  have hbuffer : session'.daemon.buffer = session.daemon.buffer := by
    rw [Session.buffer_run, Session.buffer_run]
  have hdaemon : session'.daemon = session.daemon := by rw [hlockstep.daemon_eq, hbuffer]
  exact ⟨hlockstep.outcomes_eq, hdaemon.symm, hlockstep.handled, hlockstep.craft⟩

/-- One log loses every other record, the other all of them.  An echo waits for a place in the downlink
queue meanwhile, which the ground makes free. -/
theorem storage_changes_nothing_on_full_queue :
    let daemon : Daemon := { registry := { prototypes := Builtin.prototypes } }
    let queue : Link.Queue := {
      depth := 1
      inRange := true
      consumer := .taken
      downlink := [⟨.telemetry, Bytes.ofString "earlier"⟩] }
    let receives : Interlude := fun craft =>
      match craft.link with
      | .queue queue => { craft with link := .queue queue.receive.2 }
      | .steady .. => craft
    let calls : List Call := [
      { script := Bytes.ofString "INVOKE(\"count\");" },
      { script := Bytes.ofString "INVOKE(\"echo\", \"hi\");", interludes := [receives] },
      { script := Bytes.ofString "INVOKE(\"wake\");" }]
    let file : Audit.LogFile := {
      medium := .absent
      refusal := fun n => if n % 2 = 0 then some .noDirectory else none }
    let file' : Audit.LogFile := { medium := .directory }
    let craft : Spacecraft := { link := .queue queue }
    let session := Session.run { daemon, craft := { craft with audit := .enabled file } } calls
    let session' := Session.run { daemon, craft := { craft with audit := .enabled file' } } calls
    session.outcomes = [.executed 1 1 .executed, .executed 2 2 .executed,
        .dropped (.unknownCommand (Bytes.ofString "wake"))] ∧
      session'.outcomes = session.outcomes ∧ session'.craft.link = session.craft.link ∧
      session'.craft.counter = session.craft.counter ∧
      session.craft.audit.size? = some 14 ∧ session'.craft.audit.size? = none := by
  intro daemon queue receives calls file file' craft session session'
  have hreceives : receives.Respects Spacecraft.SameButStorage := by
    intro a b h
    simp only [receives, ← h.link]
    split
    · exact { h with link := rfl }
    · exact h
  have hidle : Interlude.Respects Spacecraft.SameButStorage id := fun _ _ h => h
  have hcalls : ∀ call ∈ calls, call.Respects Spacecraft.SameButStorage := by
    simp [calls, Call.Respects, hidle, hreceives]
  obtain ⟨houtcomes, -, -, hcraft⟩ :=
    storage_changes_nothing daemon craft file file' calls hcalls
  exact ⟨by decide +kernel, houtcomes.symm, hcraft.link.symm, hcraft.counter.symm,
    by decide +kernel, by decide +kernel⟩

end Daemon

end FlightScript
