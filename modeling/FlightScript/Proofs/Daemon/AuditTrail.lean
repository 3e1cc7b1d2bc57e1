import FlightScript.Proofs.Audit.Entries
import FlightScript.Proofs.Daemon.Session
import Mathlib.Data.List.Basic
/-!
# The audit trail of a daemon

The start of a command and its end are written to the audit log at two places of the program, with a
wait of any length in between, and an end that was missed is written by the deadline instead.
`audits_run` says what this comes to over a run of calls.  The records that were tried are those of
one call after another, and those of one call are read off its outcome: a start and an end for a
script that was executed, none for one that was not.  Only a call that was over too soon leaves a
start without an end.

Where the storage takes every append, this is also what stands in the log behind what it held before
(`trail_exact`).
-/

namespace FlightScript

/-! ## What leaves the log alone -/

/-- What happens aboard without anything being written to the audit log. -/
def Interlude.LeavesAudit (interlude : Interlude) : Prop :=
  ∀ craft, (interlude craft).audit = craft.audit

namespace Activity

variable {interludes : List Interlude}

lemma Turn.audit_next {interlude : Interlude} (h : interlude.LeavesAudit) (expiry : Option Nat)
    (turn : Turn) : (turn.next expiry interlude).2.audit = turn.2.audit := by
  unfold Turn.next
  split
  · rfl
  · split
    · rfl
    · rw [Wait.audit_resume, h]

/-- However often a behaviour goes on, it writes nothing to the log. -/
lemma audit_course (h : ∀ interlude ∈ interludes, interlude.LeavesAudit) (activity : Activity)
    (expiry : Option Nat) (craft : Spacecraft) :
    (activity.course expiry craft interludes).2.audit = craft.audit := by
  induction interludes using List.reverseRecOn with
  | nil => exact activity.audit_run craft
  | append_singleton interludes interlude ih =>
    have hlast : interlude.LeavesAudit := h interlude (by simp)
    have hearlier : ∀ interlude ∈ interludes, interlude.LeavesAudit :=
      fun interlude hmem => h interlude (by simp [hmem])
    rw [course, List.foldl_append, List.foldl_cons, List.foldl_nil, Turn.audit_next hlast]
    exact ih hearlier

@[simp] lemma Turn.audit_released (turn : Turn) : turn.released.audit = turn.2.audit := by
  unfold released
  split
  · rfl
  · exact Wait.audit_drop ..

end Activity

/-! ## What one command writes -/

lemma Spacecraft.audits_atEntry (craft : Spacecraft) (context : Context) :
    craft.Audits (craft.atEntry context) (Command.entriesOf context.kind .executing) := by
  unfold atEntry Command.entriesOf
  by_cases hkind : context.kind = Command.unauditedKind
  · rw [if_pos hkind, if_pos hkind]
    exact audits_nil_of_audit rfl
  · rw [if_neg hkind, if_neg hkind]
    exact (craft.audits_recordStatus context.kind .executing).congr rfl rfl

namespace Daemon

/-- A command that was entered has its start on record, and nothing more while its behaviour runs. -/
lemma audits_courseOf {interludes : List Interlude}
    (hleaves : ∀ interlude ∈ interludes, interlude.LeavesAudit) (daemon : Daemon)
    (craft : Spacecraft) (command : Command) (left : Allowances) :
    craft.Audits (daemon.courseOf craft interludes command left).2
      (Command.entriesOf command.kind .executing) := by
  have hentry := Spacecraft.audits_atEntry { craft with allowances := left }
    (command.withId daemon.nextId).context
  exact hentry.congr rfl (Activity.audit_course hleaves ..)

/-- The end of a command is recorded before its script is released. -/
lemma Started.audits_closed (started : Started) (ending : Ending) (craft : Spacecraft) :
    craft.Audits (started.closed ending craft)
      (Command.entriesOf started.command.kind ending.status) :=
  (Command.audits_conclude started.executing ending craft).congr rfl rfl

/-- The records that an outcome stands for. -/
def Outcome.entries : Outcome → List Audit.Entry
  | .empty => []
  | .dropped _ => []
  | .executed _ kind status =>
    if kind = Command.unauditedKind then [] else [(kind, .executing), (kind, status)]

lemma Outcome.entries_executed (id : UInt32) (kind : UInt16) (status : Status) :
    (executed id kind status).entries =
      Command.entriesOf kind .executing ++ Command.entriesOf kind status := by
  simp only [entries, Command.entriesOf]
  split <;> rfl

/-- The records that a call leaves.  Where it was over before its command was, that command has a start
on record and nothing else. -/
def Handling.entries (handling : Handling) : List Audit.Entry :=
  match handling.outcome? with
  | some outcome => outcome.entries
  | none => handling.entered.flatMap fun context => Command.entriesOf context.kind .executing

@[simp] lemma Handling.audit_released (handling : Handling) :
    handling.released.audit = handling.craft.audit := by
  unfold released
  split
  · rfl
  · exact Wait.audit_drop ..

/-- **The records of one call.** -/
lemma Handles.audits {daemon : Daemon} {script : Bytes} {craft : Spacecraft}
    {interludes : List Interlude} {handling : Handling}
    (h : Handles daemon script craft interludes handling)
    (hleaves : ∀ interlude ∈ interludes, interlude.LeavesAudit) :
    craft.Audits handling.released handling.entries := by
  cases h with
  | empty hscript => exact Spacecraft.audits_nil_of_audit rfl
  | dropped hscript e left => exact Spacecraft.audits_nil_of_audit rfl
  | executed hscript command left ending =>
    have hstart := audits_courseOf hleaves daemon craft command left
    have hend := (daemon.started script craft command).audits_closed ending
      (daemon.courseOf craft interludes command left).released
    have hboth := hstart.trans (hend.congr (Activity.Turn.audit_released _).symm rfl)
    change craft.Audits _ (Outcome.executed daemon.nextId command.kind ending.status).entries
    rw [Outcome.entries_executed]
    exact hboth
  | unfinished hscript command left progress hprogress =>
    have hstart := audits_courseOf hleaves daemon craft command left
    rw [Handling.entries, Handling.outcome?_eq_none hprogress]
    simp only [List.flatMap_singleton]
    exact hstart.congr rfl (Handling.audit_released _)

/-! ## A run of calls -/

/-- A call during which nobody else writes to the audit log. -/
def Call.LeavesAudit (call : Call) : Prop :=
  call.lead.LeavesAudit ∧ ∀ interlude ∈ call.interludes, interlude.LeavesAudit

namespace Session

variable {calls : List Call}

/-- One call adds its records to those of the calls before it. -/
lemma audits_call (session : Session) {call : Call} (hleaves : call.LeavesAudit) :
    ∃ handling, session.call call = session.after handling ∧
      session.craft.Audits (session.call call).craft handling.entries := by
  obtain ⟨hlead, hinterludes⟩ := hleaves
  refine ⟨_, rfl, ?_⟩
  have hrecords := (handles_handling session.daemon call.script (call.lead session.craft)
    call.interludes).audits hinterludes
  exact hrecords.congr (hlead session.craft).symm rfl

/-- **The records of a run**, one call after another. -/
lemma audits_run (hleaves : ∀ call ∈ calls, call.LeavesAudit) (daemon : Daemon)
    (craft : Spacecraft) :
    craft.Audits (run { daemon, craft } calls).craft
      ((run { daemon, craft } calls).handled.flatMap Handling.entries) := by
  induction calls using List.reverseRecOn with
  | nil => exact Spacecraft.audits_nil_of_audit rfl
  | append_singleton calls call ih =>
    have hearlier : ∀ call ∈ calls, call.LeavesAudit := fun call hmem => hleaves call (by simp [hmem])
    obtain ⟨handling, hcall, hrecords⟩ :=
      audits_call (run { daemon, craft } calls) (hleaves call (by simp))
    rw [run_concat]
    have hall := (ih hearlier).trans hrecords
    rw [hcall] at hall ⊢
    simpa [after] using hall

/-- Where every call has come to its end, the outcomes say what was recorded. -/
lemma flatMap_entries_of_abandoned {session : Session} (h : session.abandoned = 0) :
    session.handled.flatMap Handling.entries = session.outcomes.flatMap Outcome.entries := by
  rw [outcomes, List.filterMap_eq_flatMap_toList, List.flatMap_assoc]
  refine List.flatMap_congr ?_
  intro handling hmem
  have hended : ¬ handling.outcome?.isNone := List.countP_eq_zero.1 h handling hmem
  unfold Handling.entries
  cases houtcome : handling.outcome? with
  | none => exact absurd (by simp [houtcome]) hended
  | some outcome => simp

lemma audits_of_abandoned (hleaves : ∀ call ∈ calls, call.LeavesAudit) {daemon : Daemon}
    {craft : Spacecraft} (h : (run { daemon, craft } calls).abandoned = 0) :
    craft.Audits (run { daemon, craft } calls).craft
      ((run { daemon, craft } calls).outcomes.flatMap Outcome.entries) := by
  rw [← flatMap_entries_of_abandoned h]
  exact audits_run hleaves daemon craft

end Session

/-- **The audit trail of a run.**  Let the log hold anything, let its storage take every append, and
let nobody but the daemon write to it.  However a daemon is called, and whatever else happens aboard,
once every command that was started has ended, the log holds what it held before and behind that, in
order, the start and the end of each command that was executed, with the kind and the status that were
reported; the kind that is kept out of it leaves no record, and neither does a script that was empty or
dropped.  So the log is readable exactly if it was before, and then it is read as the earlier records
and these. -/
theorem trail_exact (daemon : Daemon) (craft : Spacecraft) (contents : Bytes) (calls : List Call)
    (hholds : craft.audit.Holds contents) (hleaves : ∀ call ∈ calls, call.LeavesAudit)
    (hended : (Session.run { daemon, craft } calls).abandoned = 0) :
    let session := Session.run { daemon, craft } calls
    let trail := session.craft.audit
    ∃ records : List Audit.Record,
      records.map Audit.Record.entry = session.outcomes.flatMap Outcome.entries ∧
      trail.Holds (contents ++ Audit.encodeAll records) ∧
      ((∃ all, trail.readAll = .ok all) ↔ ∃ earlier, Audit.decodeAll contents = .ok earlier) ∧
      ∀ earlier, Audit.decodeAll contents = .ok earlier →
        trail.readAll = .ok (earlier ++ records) := by
  intro session trail
  obtain ⟨records, haudit, hentries⟩ := Session.audits_run hleaves daemon craft
  have hafter : trail.Holds (contents ++ Audit.encodeAll records) := by
    have happended := hholds.appendAll records
    rwa [← haudit] at happended
  refine ⟨records, ?_, hafter, ?_, ?_⟩
  · rw [hentries, Session.flatMap_entries_of_abandoned hended]
  · simp only [hafter.readAll_eq_ok_iff]
    exact Audit.exists_decodeAll_append_iff
  · intro earlier hearlier
    rw [hafter.readAll_eq_ok_iff]
    exact Audit.decodeAll_append hearlier records

/-- A command of kind 9 that is given up at its deadline leaves a start and an end behind an earlier
record.  A script of the kind that is not audited leaves nothing, nor does one that is dropped or empty. -/
theorem trail_of_long_pause :
    let sleep : Command := {
      kind := 9
      behavior := {
        start := fun _ => .pause 10 (.finish (.completed "awake"))
        copying := .always } }
    let quiet : Command := {
      kind := 0
      behavior := { start := fun _ => .finish (.completed "done"), copying := .always } }
    let daemon : Daemon := {
      registry := { prototypes := [(Bytes.ofString "sleep", sleep), (Bytes.ofString "quiet", quiet)] }
      settings := { deadline := some 5 } }
    let earlier : Audit.Record := ⟨1, 0, .executed⟩
    let craft : Spacecraft := { audit := .holding earlier.encode }
    let calls : List Call := [
      { script := Bytes.ofString "INVOKE(\"sleep\");"
        interludes := [fun craft => { craft with now := 6 }] },
      { script := Bytes.ofString "INVOKE(\"quiet\");" },
      { script := Bytes.ofString "INVOKE(\"wake\");" },
      { script := [] }]
    let session := Session.run { daemon, craft } calls
    session.outcomes = [.executed 1 9 (.ended .failed), .executed 2 0 .executed,
        .dropped (.unknownCommand (Bytes.ofString "wake")), .empty] ∧
      ∃ records : List Audit.Record,
        records.map Audit.Record.entry = [(9, .executing), (9, .ended .failed)] ∧
        session.craft.audit.readAll = .ok (earlier :: records) := by
  intro sleep quiet daemon earlier craft calls session
  have houtcomes : session.outcomes = [.executed 1 9 (.ended .failed), .executed 2 0 .executed,
      .dropped (.unknownCommand (Bytes.ofString "wake")), .empty] := by
    decide +kernel
  have hholds : craft.audit.Holds earlier.encode := ⟨_, rfl, fun _ => rfl, rfl⟩
  have hleaves : ∀ call ∈ calls, call.LeavesAudit := by
    simp [calls, Call.LeavesAudit, Interlude.LeavesAudit]
  have hended : session.abandoned = 0 := by decide +kernel
  obtain ⟨records, hrecords, -, -, hread⟩ :=
    trail_exact daemon craft earlier.encode calls hholds hleaves hended
  refine ⟨houtcomes, records, ?_, ?_⟩
  · rw [hrecords, houtcomes]
    rfl
  · exact hread [earlier] (Audit.decodeAll_eq_ok_iff.2 (by simp [Audit.encodeAll]))

end Daemon

end FlightScript
