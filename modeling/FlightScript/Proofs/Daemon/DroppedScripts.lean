import FlightScript.Builtin
import FlightScript.Proofs.Daemon.Lockstep
/-!
# Scripts that come to nothing

A script may be rejected at any point: for its form, because its command is unknown, or because no copy of
that is to be had, and then a prototype was already found.  Whichever it was, a script that was dropped
has done nothing but be counted and logged, and one that was empty not even that
(`Handling.eq_of_dropped`, `Handling.eq_of_empty`).

There is one thing that a dropped script may use up: with something behind its statement it has taken a
copy of its command before it is dropped.  Where copies are limited, a later script may miss that copy.
Where they are not (`Registry.Unlimited`), calls whose scripts come to nothing can be left out.  What
happened aboard before such a call then happens before the next one (`thinned`), and the run with them and
the run without them stay in lockstep.
-/

namespace FlightScript

/-- Two spacecraft that differ, if at all, in the lines that were logged. -/
abbrev Spacecraft.SameButLog : Spacecraft → Spacecraft → Prop :=
  AlikeUpTo Eq

lemma Spacecraft.congruence_sameButLog : Congruence SameButLog :=
  congruence_alikeUpTo (fun h => congrArg Audit.Trail.isEnabled h) fun h record =>
    congrArg (fun trail => (trail.append record).2) h

/-- No prototype has a limited number of copies. -/
def Registry.Unlimited (registry : Registry) : Prop :=
  ∀ entry ∈ registry.prototypes, ∀ allowance, entry.2.behavior.copying ≠ .rationed allowance

lemma Allowances.eq_of_grant?_eq_some {allowances left : Allowances} {copying : Copying}
    (h : allowances.grant? copying = some left) (hlimit : ∀ allowance, copying ≠ .rationed allowance) :
    left = allowances := by
  cases copying with
  | never => cases h
  | always => exact (Option.some.inj h).symm
  | rationed allowance => exact absurd rfl (hlimit allowance)

namespace Daemon

variable {daemon : Daemon} {script : Bytes} {craft : Spacecraft} {interludes : List Interlude}

/-- Where copies are not limited, reading a script uses none up. -/
lemma snd_parse_of_unlimited {registry : Registry} (h : registry.Unlimited) (text : Bytes)
    (allowances : Allowances) : (Script.parse text registry allowances).2 = allowances := by
  unfold Script.parse
  split
  · rfl
  · next asked cursor _ =>
    split
    · rfl
    · next command left hinvoke =>
      obtain ⟨prototype, copy, hresolve, hcopy, -⟩ := Script.invoke_eq_ok_iff.1 hinvoke
      obtain ⟨hgrant, -⟩ := Script.copy?_eq_some_iff.1 hcopy
      have hleft : left = allowances :=
        Allowances.eq_of_grant?_eq_some hgrant (h _ (mem_of_resolve hresolve))
      split <;> exact hleft

/-! ## One script -/

/-- **A script that is dropped** is counted as received and as dropped, and that is logged.  Reading it
may have used up a copy. -/
lemma Handling.eq_of_dropped {e : Script.Error}
    (h : (daemon.handling script craft interludes).outcome? = some (.dropped e)) :
    ∃ left, (Script.parse (script.take Limits.scriptLength) daemon.registry craft.allowances).2 = left ∧
      daemon.handling script craft interludes = {
        progress := .ready (.done (.dropped e))
        daemon := { daemon with
          buffer := daemon.buffer.receive script
          stats :=
            { daemon.stats with
              received := daemon.stats.received + 1, dropped := daemon.stats.dropped + 1 } }
        craft := { craft with allowances := left }.say (.debug s!"Dropping script: {e.message}")
        entered := [] } := by
  have htext : script.take Limits.scriptLength ≠ [] := by
    intro hnil
    rw [(handling_of_nil hnil interludes).1] at h
    cases h
  rcases hparse : Script.parse (script.take Limits.scriptLength) daemon.registry craft.allowances
    with ⟨e' | tree, left⟩
  · rw [(handling_of_error htext hparse interludes).1] at h
    cases h
    have hturn := handleScript_eq daemon script craft htext
    rw [hparse] at hturn
    exact ⟨left, rfl, handling_of_ready hturn (Spacecraft.enters_nil_of_journal rfl) interludes⟩
  · obtain ⟨command, hpending, rfl⟩ := exists_pending_of_parse hparse
    rw [(handling_of_ok hparse hpending interludes).2, Option.map_eq_some_iff] at h
    obtain ⟨_, -, houtcome⟩ := h
    cases houtcome

/-- **An empty script** leaves everything as it is. -/
lemma Handling.eq_of_empty (h : (daemon.handling script craft interludes).outcome? = some .empty) :
    daemon.handling script craft interludes = ⟨.ready (.done .empty), daemon, craft, []⟩ := by
  have hhandles := handles_handling daemon script craft interludes
  revert h hhandles
  generalize daemon.handling script craft interludes = handling
  intro h hhandles
  cases hhandles with
  | empty hscript =>
    subst hscript
    simp [ReceiveBuffer.receive]
  | dropped => cases h
  | executed => cases h
  | unfinished _ _ _ _ hprogress =>
    rw [Handling.outcome?_eq_none hprogress] at h
    cases h

/-- A handling of a script that came to nothing: it was empty, or it was dropped. -/
def Handling.isDiscarded (handling : Handling) : Bool :=
  match handling.outcome? with
  | some .empty | some (.dropped _) => true
  | _ => false

/-- Where copies are not limited, what was alike before a script that came to nothing is alike after it. -/
lemma leaves_of_isDiscarded {other : Daemon} {craft' : Spacecraft}
    (h : (daemon.handling script craft interludes).isDiscarded = true)
    (hunlimited : daemon.registry.Unlimited) (htwins : daemon.Twins other)
    (hcraft : craft.SameButLog craft') :
    (daemon.handling script craft interludes).daemon.Twins other ∧
      (daemon.handling script craft interludes).released.SameButLog craft' := by
  unfold Handling.isDiscarded at h
  split at h
  · next hempty =>
    rw [Handling.eq_of_empty hempty]
    exact ⟨htwins, hcraft⟩
  · next e hdropped =>
    obtain ⟨left, hleft, hhandling⟩ := Handling.eq_of_dropped hdropped
    rw [snd_parse_of_unlimited hunlimited] at hleft
    rw [hhandling]
    exact ⟨htwins.rewritten, { hcraft with allowances := hleft.symm.trans hcraft.allowances }⟩
  · cases h

/-! ## Leaving calls out -/

/-- The calls that are kept of a list of calls, each of which is marked as kept or not.  What happened
before a call that is left out happens before the next one instead. -/
def thinned : Interlude → List (Call × Bool) → List Call
  | _, [] => []
  | before, (call, true) :: plan => { call with lead := call.lead ∘ before } :: thinned id plan
  | before, (call, false) :: plan => thinned (call.lead ∘ before) plan

/-- What came of the calls that are kept. -/
def kept (plan : List (Call × Bool)) (handled : List Handling) : List Handling :=
  ((handled.zip plan).filter (·.2.2)).map Prod.fst

/-- What comes of calls on a daemon, one after another. -/
def Session.handlings : Session → List Call → List Handling
  | _, [] => []
  | session, call :: calls => session.handlingOf call :: (session.call call).handlings calls

lemma Session.handled_run (session : Session) (calls : List Call) :
    (session.run calls).handled = session.handled ++ session.handlings calls := by
  induction calls generalizing session with
  | nil => exact (List.append_nil _).symm
  | cons call calls ih =>
    have hcall : (session.call call).handled = session.handled ++ [session.handlingOf call] := rfl
    calc
      (session.run (call :: calls)).handled
        = (session.call call).handled ++ (session.call call).handlings calls := ih _
      _ = _ := by rw [hcall, List.append_assoc, handlings, List.singleton_append]

/-- **Calls whose scripts come to nothing can be left out.**  The session with them may be ahead of the one
without them by what happened before calls that were left out. -/
lemma lockstep_thinned {session other : Session} {before : Interlude} {plan : List (Call × Bool)}
    (htwins : session.daemon.Twins other.daemon)
    (hcraft : session.craft.SameButLog (before other.craft))
    (hunlimited : session.daemon.registry.Unlimited)
    (hplan : ∀ entry ∈ plan, entry.1.Respects Spacecraft.SameButLog)
    (hdiscarded : ∀ entry ∈ (session.handlings (plan.map Prod.fst)).zip plan,
      entry.2.2 = false → entry.1.isDiscarded = true) :
    List.Forall₂ (Handling.Lockstep Spacecraft.SameButLog)
      (kept plan (session.handlings (plan.map Prod.fst))) (other.handlings (thinned before plan)) := by
  induction plan generalizing session other before with
  | nil => exact .nil
  | cons entry plan ih =>
    obtain ⟨call, mark⟩ := entry
    obtain ⟨hcall, hrest⟩ := List.forall_mem_cons.1 hplan
    obtain ⟨hfirst, hlater⟩ := List.forall_mem_cons.1 hdiscarded
    have hlead : (call.lead session.craft).SameButLog (call.lead (before other.craft)) :=
      hcall.1 _ _ hcraft
    have hregistry : (session.call call).daemon.registry = session.daemon.registry :=
      (session.setup_call call).1
    cases mark with
    | true =>
      have hhandling : (session.handlingOf call).Lockstep Spacecraft.SameButLog
          (other.handlingOf { call with lead := call.lead ∘ before }) :=
        lockstep_handling Spacecraft.congruence_sameButLog htwins hlead rfl hcall.2
      exact .cons hhandling (ih hhandling.daemon
        (hhandling.released Spacecraft.congruence_sameButLog) (hregistry ▸ hunlimited) hrest hlater)
    | false =>
      obtain ⟨hdaemon, hreleased⟩ := leaves_of_isDiscarded (hfirst rfl) hunlimited htwins hlead
      exact ih hdaemon hreleased (hregistry ▸ hunlimited) hrest hlater

/-- **Dropped scripts have no effect.**  When a script was dropped, at whichever point, no behaviour was
entered; the daemon has counted it as received and as dropped and has its text in the buffer, and is as it
was otherwise, its prototypes, its next id and its other books included; and the spacecraft is as it was
but for a line in the log and, where copies are limited, for one that the script may have used up.  An empty
script leaves daemon and spacecraft exactly as they were.

So scripts that come to nothing can be left out of any run of calls, any of them, if no prototype has a
limited number of copies and nothing aboard looks at the log: the calls that are kept come equally far,
with the same outcomes, have entered the same behaviours under the same ids, and leave the same
spacecraft but for the log. -/
theorem dropped_scripts_have_no_effect (daemon : Daemon) (craft : Spacecraft) :
    (∀ script interludes e,
      let handling := daemon.handling script craft interludes
      handling.outcome? = some (.dropped e) →
        handling.entered = [] ∧
        handling.daemon = { daemon with
          buffer := daemon.buffer.receive script
          stats :=
            { daemon.stats with
              received := daemon.stats.received + 1, dropped := daemon.stats.dropped + 1 } } ∧
        ∃ left, (daemon.registry.Unlimited → left = craft.allowances) ∧
          handling.craft = { craft with
            allowances := left
            log := craft.log ++ [.debug s!"Dropping script: {e.message}"] }) ∧
    (∀ script interludes,
      let handling := daemon.handling script craft interludes
      handling.outcome? = some .empty →
        handling.entered = [] ∧ handling.daemon = daemon ∧ handling.craft = craft) ∧
    (daemon.registry.Unlimited →
      ∀ plan : List (Call × Bool), (∀ entry ∈ plan, entry.1.Respects Spacecraft.SameButLog) →
        let session := Session.run { daemon, craft } (plan.map Prod.fst)
        let session' := Session.run { daemon, craft } (thinned id plan)
        (∀ entry ∈ session.handled.zip plan, entry.2.2 = false → entry.1.isDiscarded = true) →
          session'.outcomes = (kept plan session.handled).filterMap Handling.outcome? ∧
          List.Forall₂ (Handling.Lockstep Spacecraft.SameButLog) (kept plan session.handled)
            session'.handled) := by
  refine ⟨?dropped, ?empty, ?thinned⟩
  case dropped =>
    intro script interludes e handling hdropped
    obtain ⟨left, hleft, hhandling⟩ := Handling.eq_of_dropped hdropped
    have hgranted : daemon.registry.Unlimited → left = craft.allowances :=
      fun hunlimited => hleft.symm.trans (snd_parse_of_unlimited hunlimited _ _)
    exact ⟨congrArg Handling.entered hhandling, congrArg Handling.daemon hhandling, left, hgranted,
      congrArg Handling.craft hhandling⟩
  case empty =>
    intro script interludes handling hempty
    have hhandling : handling = _ := Handling.eq_of_empty hempty
    rw [hhandling]
    exact ⟨rfl, rfl, rfl⟩
  case thinned =>
    intro hunlimited plan hplan session session' hdiscarded
    have hhandled : session.handled = Session.handlings { daemon, craft } (plan.map Prod.fst) :=
      Session.handled_run ..
    have hhandled' : session'.handled = Session.handlings { daemon, craft } (thinned id plan) :=
      Session.handled_run ..
    have hlockstep : List.Forall₂ (Handling.Lockstep Spacecraft.SameButLog)
        (kept plan session.handled) session'.handled := by
      rw [hhandled] at hdiscarded
      rw [hhandled, hhandled']
      exact lockstep_thinned (.refl daemon) ⟨rfl, rfl, rfl, rfl, rfl, rfl, rfl, rfl⟩ hunlimited hplan
        hdiscarded
    exact ⟨(filterMap_outcome?_eq hlockstep).symm, hlockstep⟩

/-- Of five calls, those are left out that have something behind the statement, that name no command, and
that bring nothing.  Time goes by before the last of these, and does so in either run. -/
theorem dropped_scripts_left_out_of_five :
    let daemon : Daemon := { registry := { prototypes := Builtin.prototypes } }
    let plan : List (Call × Bool) := [
      ({ script := Bytes.ofString "INVOKE(\"count\");" }, true),
      ({ script := Bytes.ofString "INVOKE(\"count\"); INVOKE(\"count\");" }, false),
      ({ script := Bytes.ofString "INVOKE(\"wake\");" }, false),
      ({ script := [], lead := fun craft => { craft with now := craft.now + 50 } }, false),
      ({ script := Bytes.ofString "INVOKE(\"count\");" }, true)]
    let session := Session.run { daemon, craft := {} } (plan.map Prod.fst)
    let session' := Session.run { daemon, craft := {} } (thinned id plan)
    session.outcomes = [.executed 1 1 .executed, .dropped .expectedEnd,
        .dropped (.unknownCommand (Bytes.ofString "wake")), .empty, .executed 2 1 .executed] ∧
      session'.outcomes = [.executed 1 1 .executed, .executed 2 1 .executed] ∧
      session'.craft.now = 50 := by
  intro daemon plan session session'
  have hunlimited : daemon.registry.Unlimited := by
    simp [daemon, Registry.Unlimited, Builtin.prototypes, Builtin.count, Builtin.echo, Builtin.status]
  have hidle : Interlude.Respects Spacecraft.SameButLog id := fun _ _ h => h
  have hpasses : Interlude.Respects Spacecraft.SameButLog
      (fun craft => { craft with now := craft.now + 50 }) :=
    fun _ _ h => { h with now := congrArg (· + 50) h.now }
  have hplan : ∀ entry ∈ plan, entry.1.Respects Spacecraft.SameButLog := by
    simp [plan, Call.Respects, hidle, hpasses]
  obtain ⟨houtcomes, -⟩ :=
    (dropped_scripts_have_no_effect daemon {}).2.2 hunlimited plan hplan (by decide +kernel)
  exact ⟨by decide +kernel, houtcomes.trans (by decide +kernel), by decide +kernel⟩

end Daemon

end FlightScript
