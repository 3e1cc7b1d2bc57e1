import FlightScript.Proofs.Command.Steady
import FlightScript.Proofs.Daemon.Loop
/-!
# The loop does what direct calls do

A daemon can be given a script directly, or it can find it on the uplink.  Both ways a script is read
into the buffer and handled; but a loop has reads that time out, packets that arrive at any time, pauses,
and a cancellation in between.  None of that shows in what it has done.

`loop_refines_calls` says so in two steps.  A run of the loop is a run of calls at the same moments, with
the same daemon behind it and the same spacecraft; this needs no assumption on the commands.  And where
the commands are steady and were let finish, the moments do not matter: any other calls with the same
scripts leave the same books, the same records, the same counter and the same downlink.  The second
step is a lockstep of two sessions, one call at a time (`Session.Alike.run`).
-/

namespace FlightScript

/-- Whatever is registered is steady. -/
def Registry.Steady (registry : Registry) : Prop :=
  ∀ entry ∈ registry.prototypes, entry.2.behavior.Steady

/-! ## What the daemon adds to a behaviour -/

namespace Spacecraft

variable {a b : Spacecraft}

lemma Alike.withAllowances (h : a.Alike b) (allowances : Allowances) :
    Alike { a with allowances } { b with allowances } :=
  ⟨h.link, h.rest, h.auditing, h.counter, rfl, h.journal⟩

lemma alike_recordStatus (h : a.link.AtRest) (kind : UInt16) (status : Status) :
    (a.recordStatus kind status).Alike a :=
  ⟨rfl, h, a.audit.isEnabled_append _, rfl, rfl, rfl⟩

/-- A behaviour is entered alike. -/
lemma Alike.atEntry (h : a.Alike b) (context : Context) :
    (a.atEntry context).Alike (b.atEntry context) := by
  have henter : ∀ {c d : Spacecraft}, c.Alike d →
      (c.enter (.entered context)).Alike (d.enter (.entered context)) := fun h =>
    ⟨h.link, h.rest, h.auditing, h.counter, h.allowances,
      congrArg (· ++ [JournalEntry.entered context]) h.journal⟩
  unfold Spacecraft.atEntry
  apply henter
  by_cases hkind : context.kind = Command.unauditedKind
  · rw [if_pos hkind, if_pos hkind]
    exact h
  · rw [if_neg hkind, if_neg hkind]
    have hrecord := alike_recordStatus h.rest context.kind .executing
    have hrecord' := alike_recordStatus h.symm.rest context.kind .executing
    exact (hrecord.trans h).trans hrecord'.symm

end Spacecraft

namespace Daemon

/-- The end of a command is recorded and logged, and that is all. -/
lemma Started.alike_closed (started : Started) (ending : Ending) {craft : Spacecraft}
    (h : craft.link.AtRest) : (started.closed ending craft).Alike craft := by
  unfold closed Command.conclude Command.recordStatus
  simp only
  split
  · exact ⟨rfl, h, craft.audit.isEnabled_append _, rfl, rfl, rfl⟩
  · exact ⟨rfl, h, rfl, rfl, rfl, rfl⟩

/-! ## Calls that are let finish -/

/-- The command of a script, if it has one, comes to its own end: neither is it given up, nor does its
time run out. -/
def Completes (daemon : Daemon) (script : Bytes) (craft : Spacecraft) (interludes : List Interlude) :
    Prop :=
  ∀ command left, Script.parse (script.take Limits.scriptLength) daemon.registry craft.allowances =
      (.ok (.statement (.invocation command)), left) →
    ∃ ending craft', daemon.courseOf craft interludes command left = (.ready (.ended ending), craft')

/-- Nothing but quiet interludes lies before a call and between its turns. -/
def Call.Quiet (call : Call) : Prop :=
  call.lead.Quiet ∧ ∀ interlude ∈ call.interludes, interlude.Quiet

lemma Call.Quiet.leavesAudit {call : Call} (h : call.Quiet) : call.LeavesAudit :=
  ⟨h.1.leavesAudit, fun interlude hmem => (h.2 interlude hmem).leavesAudit⟩

/-- Every command that some calls start comes to its own end. -/
def Session.Completes : Session → List Call → Prop
  | _, [] => True
  | session, call :: calls =>
    session.daemon.Completes call.script (call.lead session.craft) call.interludes ∧
      (session.call call).Completes calls

/-- Where commands have no time limit, a call that has come to its end has let its command finish. -/
lemma completes_of_outcome? {daemon : Daemon} {script : Bytes} {craft : Spacecraft}
    {interludes : List Interlude} (hdeadline : daemon.settings.deadline = none)
    (h : (daemon.handling script craft interludes).outcome?.isNone = false) :
    daemon.Completes script craft interludes := by
  intro command left hparse
  obtain ⟨command', hpending, htree⟩ := exists_pending_of_parse hparse
  cases htree
  obtain ⟨-, houtcome⟩ := handling_of_ok hparse hpending interludes
  rw [houtcome] at h
  unfold courseOf
  rw [hdeadline] at h ⊢
  rcases hturn : (command.behavior.start (command.withId daemon.nextId).context).course none
    ({ craft with allowances := left }.atEntry (command.withId daemon.nextId).context) interludes
    with ⟨(ending | crashed) | wait, craft'⟩
  · exact ⟨ending, craft', hturn⟩
  all_goals
    simp only [Option.map_none] at h
    rw [hturn] at h
    cases h

lemma Session.abandoned_le_run (session : Session) (calls : List Call) :
    session.abandoned ≤ (session.run calls).abandoned := by
  induction calls generalizing session with
  | nil => exact Nat.le_refl _
  | cons call calls ih =>
    have hcall : session.abandoned ≤ (session.call call).abandoned := by
      rw [call_eq, abandoned_after]
      omega
    exact Nat.le_trans hcall (ih (session.call call))

/-- So have any number of them. -/
lemma Session.completes_of_abandoned {session : Session} {calls : List Call}
    (hdeadline : session.daemon.settings.deadline = none) (h : (session.run calls).abandoned = 0) :
    session.Completes calls := by
  induction calls generalizing session with
  | nil => trivial
  | cons call calls ih =>
    have hcall := (session.call call).abandoned_le_run calls
    have hafter : (session.call call).abandoned =
        session.abandoned + if (session.handlingOf call).outcome?.isNone then 1 else 0 :=
      session.abandoned_after _
    have hended : (session.handlingOf call).outcome?.isNone = false := by
      by_contra hnone
      rw [if_pos (by simpa using hnone)] at hafter
      change (session.run (call :: calls)).abandoned = 0 at h
      have hzero : ((session.call call).run calls).abandoned = 0 := h
      omega
    refine ⟨completes_of_outcome? hdeadline hended, ih ?_ h⟩
    rw [(session.setup_call call).2, hdeadline]

/-- What is read as a command is bound to something that is registered. -/
lemma exists_mem_of_parse {text : Bytes} {registry : Registry} {allowances left : Allowances}
    {command : Command}
    (h : Script.parse text registry allowances = (.ok (.statement (.invocation command)), left)) :
    ∃ entry ∈ registry.prototypes, command.behavior = entry.2.behavior := by
  obtain ⟨layout, prototype, clone, -, hresolve, hcopy, htree⟩ :=
    Script.parse_eq_ok_iff_exists_layout.1 h
  obtain ⟨-, rfl⟩ := Script.copy?_eq_some_iff.1 hcopy
  cases htree
  exact ⟨_, mem_of_resolve hresolve, rfl⟩

/-! ## Two calls with one script -/

/-- Two calls have come to the same. -/
structure Handling.Alike (a b : Handling) : Prop where
  outcome : a.outcome? = b.outcome?
  daemon : a.daemon = b.daemon
  craft : a.released.Alike b.released

/-- A call whose command has ended is concluded with that ending. -/
lemma handling_of_ended {daemon : Daemon} {script : Bytes} {craft craft' : Spacecraft}
    {interludes : List Interlude} {command : Command} {left : Allowances} {ending : Ending}
    (hparse : Script.parse (script.take Limits.scriptLength) daemon.registry craft.allowances =
      (.ok (.statement (.invocation command)), left)) (hpending : command.status = .pending)
    (hcourse : daemon.courseOf craft interludes command left = (.ready (.ended ending), craft')) :
    daemon.handling script craft interludes =
      ⟨.ready (.done (.executed daemon.nextId command.kind ending.status)),
        (daemon.started script craft command).counted,
        (daemon.started script craft command).closed ending craft',
        [(command.withId daemon.nextId).context]⟩ := by
  have hfollows : Follows (daemon.started script craft command)
      (command.withId daemon.nextId).context (daemon.handling script craft interludes)
      (daemon.courseOf craft interludes command left) :=
    follows_of_ok hparse hpending interludes
  have hframe : (daemon.started script craft command).frame (.ready (.ended ending), craft') =
      (.ready (.done (.executed daemon.nextId command.kind ending.status)),
        (daemon.started script craft command).counted,
        (daemon.started script craft command).closed ending craft') :=
    Started.frame_of_settle _ rfl
  rw [hfollows.eq, hcourse, hframe]

/-- **Two calls with one script come to the same**, on one daemon and from spacecraft that are alike, if
the command is steady and is let finish in both. -/
lemma handling_alike {daemon : Daemon} (hsteady : daemon.registry.Steady) {script : Bytes}
    {a b : Spacecraft} (halike : a.Alike b) {interludes interludes' : List Interlude}
    (hquiet : ∀ interlude ∈ interludes, interlude.Quiet)
    (hquiet' : ∀ interlude ∈ interludes', interlude.Quiet)
    (hcompletes : daemon.Completes script a interludes)
    (hcompletes' : daemon.Completes script b interludes') :
    (daemon.handling script a interludes).Alike (daemon.handling script b interludes') := by
  by_cases hnil : script.take Limits.scriptLength = []
  · have hturn : ∀ craft, daemon.handleScript script craft = _ := fun craft =>
      handleScript_of_nil hnil
    have hquietly : ∀ craft : Spacecraft, craft.Enters craft [] := fun craft =>
      Spacecraft.enters_nil_of_journal rfl
    rw [handling_of_ready (hturn a) (hquietly a), handling_of_ready (hturn b) (hquietly b)]
    exact ⟨rfl, rfl, halike⟩
  rcases hparse : Script.parse (script.take Limits.scriptLength) daemon.registry a.allowances
    with ⟨e | tree, left⟩
  · have hturn := handleScript_eq daemon script a hnil
    have hturn' := handleScript_eq daemon script b hnil
    rw [← halike.allowances, hparse] at hturn'
    rw [hparse] at hturn
    rw [handling_of_ready hturn (Spacecraft.enters_nil_of_journal rfl),
      handling_of_ready hturn' (Spacecraft.enters_nil_of_journal rfl)]
    exact ⟨rfl, rfl, halike.link, halike.rest, halike.auditing, halike.counter, rfl, halike.journal⟩
  · obtain ⟨command, hpending, rfl⟩ := exists_pending_of_parse hparse
    have hparse' := hparse
    rw [halike.allowances] at hparse'
    obtain ⟨ending, a', hcourse⟩ := hcompletes command left hparse
    obtain ⟨ending', b', hcourse'⟩ := hcompletes' command left hparse'
    obtain ⟨entry, hmem, hbehavior⟩ := exists_mem_of_parse hparse
    have hsame : command.behavior.Steady := hbehavior ▸ hsteady entry hmem
    obtain ⟨hstatus, hended⟩ := hsame (command.withId daemon.nextId).context _ _ _ _ interludes
      interludes' ending ending' ((halike.withAllowances left).atEntry _) hquiet hquiet'
      (Activity.course_none_of_ready hcourse) (Activity.course_none_of_ready hcourse')
    rw [handling_of_ended hparse hpending hcourse, handling_of_ended hparse' hpending hcourse']
    refine ⟨?_, rfl, ?_⟩
    · simp only [Handling.outcome?, hstatus]
    · have hclosed := (daemon.started script a command).alike_closed ending hended.rest
      have hclosed' := (daemon.started script b command).alike_closed ending' hended.symm.rest
      exact (hclosed.trans hended).trans hclosed'.symm

/-! ## Two sessions with the same scripts -/

namespace Session

/-- Two sessions have come to the same. -/
structure Alike (a b : Session) : Prop where
  daemon : a.daemon = b.daemon
  craft : a.craft.Alike b.craft
  outcomes : a.outcomes = b.outcomes
  abandoned : a.abandoned = b.abandoned

variable {a b : Session} {calls calls' : List Call}

/-- One more call on both sides. -/
lemma Alike.call (h : a.Alike b) (hsteady : a.daemon.registry.Steady) {call call' : Call}
    (hscript : call.script = call'.script) (hquiet : call.Quiet) (hquiet' : call'.Quiet)
    (hcompletes : a.daemon.Completes call.script (call.lead a.craft) call.interludes)
    (hcompletes' : b.daemon.Completes call'.script (call'.lead b.craft) call'.interludes) :
    (a.call call).Alike (b.call call') := by
  have hlead : (call.lead a.craft).Alike (call'.lead b.craft) := by
    have hbefore := Spacecraft.alike_of_core (hquiet.1 a.craft) h.craft.rest
    have hbefore' := Spacecraft.alike_of_core (hquiet'.1 b.craft) h.craft.symm.rest
    exact (hbefore.trans h.craft).trans hbefore'.symm
  rw [← h.daemon, ← hscript] at hcompletes'
  have hhandling := handling_alike hsteady hlead hquiet.2 hquiet'.2 hcompletes hcompletes'
  rw [h.daemon, hscript] at hhandling
  rw [call_eq, call_eq]
  unfold handlingOf
  rw [h.daemon, hscript]
  refine ⟨hhandling.daemon, hhandling.craft, ?_, ?_⟩
  · rw [outcomes_after, outcomes_after, h.outcomes, hhandling.outcome]
  · rw [abandoned_after, abandoned_after, h.abandoned, hhandling.outcome]

/-- **Calls with the same scripts come to the same**, whenever they are made. -/
lemma Alike.run (h : a.Alike b) (hsteady : a.daemon.registry.Steady)
    (hscripts : calls.map Call.script = calls'.map Call.script) (hquiet : ∀ call ∈ calls, call.Quiet)
    (hquiet' : ∀ call ∈ calls', call.Quiet) (hcompletes : a.Completes calls)
    (hcompletes' : b.Completes calls') : (a.run calls).Alike (b.run calls') := by
  induction calls generalizing a b calls' with
  | nil =>
    obtain rfl : calls' = [] := List.map_eq_nil_iff.1 hscripts.symm
    exact h
  | cons call calls ih =>
    obtain ⟨call', calls', rfl⟩ : ∃ call' rest, calls' = call' :: rest :=
      List.exists_cons_of_ne_nil fun hnil => by simp [hnil] at hscripts
    obtain ⟨hscript, hrest⟩ := List.cons.inj hscripts
    obtain ⟨hfirst, hlater⟩ := List.forall_mem_cons.1 hquiet
    obtain ⟨hfirst', hlater'⟩ := List.forall_mem_cons.1 hquiet'
    have hcall := h.call hsteady hscript hfirst hfirst' hcompletes.1 hcompletes'.1
    rw [← (a.setup_call call).1] at hsteady
    show ((a.call call).run calls).Alike ((b.call call').run calls')
    exact ih hcall hsteady hrest hlater hlater' hcompletes.2 hcompletes'.2

end Session

/-! ## The loop -/

/-- **The loop refines direct calls.**  Let packets be put into the uplink, and let anything else happen
that leaves the uplink alone, at any times relative to the steps of a new daemon.

The packets that were accepted are those that the daemon has taken and, behind them, those that are still
queued.  Unless it was cancelled, a daemon that was started or whose pause is over listens next, and one
that listens takes the first of them next; and it waits for one only after it has taken them all.  What a
read leaves in the buffer is handled as a script that is given directly.

Between two scripts, the daemon is what a new daemon is after direct calls with the packets that were
taken, in that order and at the same moments: what happened in the run has happened, in the same
order, before and within these calls, and apart from that there were quiet interludes only.  The reads
that brought nothing have left no trace.

Where all else that happened was quiet, the commands are steady and were let finish, the moments do not
matter either.  Any direct calls with the same scripts whose commands are let finish, at whatever
times, end with the same daemon, its books and its next id included, and with the same outcomes; they
have written the same to the audit log, apart from the times; and the spacecraft are alike in all else,
the counter and the downlink included. -/
theorem loop_refines_calls (registry : Registry) (settings : Settings) (craft : Spacecraft)
    (queue : Link.Queue) (events : List Event) (hlink : craft.link = .queue queue)
    (hreaders : queue.readers = [])
    (hleaves : ∀ interlude, .meanwhile interlude ∈ events → interlude.LeavesUplink) :
    let fresh : Session := { daemon := { registry, settings }, craft }
    let world := (World.start registry settings craft).run events
    world.accepted = world.taken ++ world.craft.link.queued ∧
    (∀ first second, world.task.phase.IsDue world.craft.now → world.task.cancelled = false →
      (world.step (.advance first second)).task.phase.Listens) ∧
    (∀ packet rest first second, settings.port = .telecommand → world.task.phase.Listens →
      world.task.cancelled = false → world.craft.link.queued = packet :: rest →
      (world.step (.advance first second)).taken = world.taken ++ [packet]) ∧
    (∀ call, world.task.phase = .reading call →
      world.craft.link.readReady world.craft.now call = false → world.taken = world.accepted) ∧
    (∀ result aboard, ∃ (length : Nat) (buffer : ReceiveBuffer),
      Link.Queue.delivered world.task.daemon.buffer.bytes result = (length, buffer.bytes) ∧
      world.task.receive result aboard =
        world.task.settle ({ world.task.daemon with buffer }.handle length aboard)) ∧
    (world.task.phase.IsOpen →
      ∃ calls gap, Accompanies (events.filterMap Event.happening?) calls gap ∧
        calls.map Call.script = world.taken ∧ (fresh.run calls).abandoned = 0 ∧
        world.task.daemon = (fresh.run calls).daemon ∧ world.craft = gap (fresh.run calls).craft ∧
        ((∀ interlude, .meanwhile interlude ∈ events → interlude.Quiet) → craft.link.AtRest →
          registry.Steady → fresh.Completes calls →
          ∀ direct : List Call, direct.map Call.script = world.taken →
            (∀ call ∈ direct, call.Quiet) → fresh.Completes direct →
            (fresh.run direct).daemon = world.task.daemon ∧
            (fresh.run direct).outcomes = (fresh.run calls).outcomes ∧
            (fresh.run direct).craft.Alike world.craft ∧
            ∃ entries, craft.Audits world.craft entries ∧
              craft.Audits (fresh.run direct).craft entries)) := by
  intro fresh world
  have huplink : craft.link.uplink? = some (queue.uplink, []) := by
    rw [hlink, ← hreaders]
    rfl
  obtain ⟨taken, packets, haccounts, hmatches⟩ :
      world.Follows fresh (events.filterMap Event.happening?) :=
    World.follows_run (World.follows_start registry settings huplink) events hleaves
  have htaken : world.taken = taken := haccounts.taken_eq
  have hqueued : world.craft.link.queued = packets := Link.queued_of_uplink? haccounts.uplink
  refine ⟨?accepted, ?due, ?listens, ?waits, world.task.receive_eq_handle_delivered, ?refines⟩
  case accepted =>
    rw [htaken, hqueued]
    exact haccounts.accepted
  case due =>
    intro first second hdue hcancelled
    exact world.task.listens_advance hdue hcancelled first second
  case listens =>
    intro packet rest first second hport hlistens hcancelled hfirst
    have hpackets : packets = packet :: rest := hqueued.symm.trans hfirst
    have hsettings : world.task.daemon.settings = settings := hmatches.settings_eq
    rw [htaken]
    rw [← hsettings] at hport
    exact (hpackets ▸ haccounts).taken_advance hlistens hport hcancelled first second
  case waits =>
    intro call hphase hready
    exact haccounts.taken_eq_accepted hphase hready
  case refines =>
    intro hopen
    obtain ⟨calls, gap, haccompanies, hscripts, habandoned, hdaemon, hcraft⟩ :=
      hmatches.exists_calls hopen
    refine ⟨calls, gap, haccompanies, hscripts.trans htaken.symm, habandoned, hdaemon.symm,
      hcraft.symm, ?_⟩
    intro hquiet hrest hsteady hcompletes direct hdirect hquietly hfinished
    have hhappenings : ∀ interlude ∈ events.filterMap Event.happening?, interlude.Quiet := by
      intro interlude hmem
      exact hquiet interlude (Event.mem_of_happening? hmem)
    obtain ⟨hcalls, hgap⟩ : (∀ call ∈ calls, call.Quiet) ∧ gap.Quiet :=
      haccompanies.forall (fun _ h => h) (fun _ _ h h' => h.comp h') hhappenings
    have hfresh : fresh.Alike fresh := ⟨rfl, .refl hrest, rfl, rfl⟩
    have hsame := hfresh.run hsteady ((hdirect.trans htaken).trans hscripts.symm) hquietly hcalls
      hfinished hcompletes
    have hloop : world.craft.core = (fresh.run calls).craft.core := by
      rw [← hcraft]
      exact hgap _
    have hallEnded : (fresh.run direct).abandoned = 0 := hsame.abandoned.trans habandoned
    refine ⟨hsame.daemon.trans hdaemon, hsame.outcomes, ?_, ?_⟩
    · exact hsame.craft.trans (Spacecraft.alike_of_core hloop hsame.craft.symm.rest).symm
    · have haudits := Session.audits_of_abandoned (fun call h => (hcalls call h).leavesAudit) habandoned
      have haudits' := Session.audits_of_abandoned (fun call h => (hquietly call h).leavesAudit) hallEnded
      have haudit : world.craft.audit = (fresh.run calls).craft.audit :=
        (Spacecraft.core_eq_iff.1 hloop).2.1
      refine ⟨_, haudits.congr rfl haudit, ?_⟩
      rw [← hsame.outcomes]
      exact haudits'

/-- A command that counts, pauses and writes.  Its script arrives three times while the daemon is in its
first pause, behind a read that has timed out: as it is, empty, and longer than the buffer.  A fourth
packet finds the uplink full.  The daemon has handled the three, and three direct calls at other moments
have come to the same. -/
theorem loop_of_three_packets :
    let tick : Command := {
      kind := 9
      behavior := {
        start := fun _ => .count fun _ => .pause 10 (.write [1, 2] .telemetry none fun _ =>
          .finish (.completed "tick"))
        copying := .always } }
    let registry : Registry := { prototypes := [(Bytes.ofString "tick", tick)] }
    let settings : Settings := { readTimeout := some 50 }
    let queue : Link.Queue := { depth := 3, inRange := true, consumer := .taken }
    let craft : Spacecraft := { link := .queue queue, audit := .fresh }
    let script := Bytes.ofString "INVOKE(\"tick\");"
    let long := script ++ List.replicate 100 32
    let clock (now : Nat) : Interlude := fun craft => { craft with now }
    let go : Event := .advance false false
    let events : List Event := [go, go, .meanwhile (clock 60), go, .insert script, .insert [],
      .insert long, .insert script, .meanwhile (clock 160), go, go, .meanwhile (clock 170), go,
      .meanwhile (clock 270), go, go, .meanwhile (clock 370), go, go, .meanwhile (clock 380), go]
    let fresh : Session := { daemon := { registry, settings }, craft }
    let world := (World.start registry settings craft).run events
    let direct : List Call := [⟨script, id, [clock 1000]⟩, ⟨[], id, []⟩, ⟨long, id, [clock 2000]⟩]
    world.taken = [script, [], long] ∧ world.accepted = world.taken ∧
      world.task.daemon.stats = ⟨2, 2, 0⟩ ∧ world.task.daemon.nextId = 3 ∧ world.craft.counter = 2 ∧
      (fresh.run direct).daemon = world.task.daemon ∧
      (fresh.run direct).craft.Alike world.craft ∧
      ∃ entries, craft.Audits world.craft entries ∧ craft.Audits (fresh.run direct).craft entries := by
  intro tick registry settings queue craft script long clock go events fresh world direct
  have hquiet : ∀ now, (clock now).Quiet := fun now craft => rfl
  have hmeanwhile : ∀ interlude, .meanwhile interlude ∈ events → ∃ now, interlude = clock now := by
    intro interlude hmem
    simp [events, go] at hmem
    rcases hmem with rfl | rfl | rfl | rfl | rfl | rfl <;> exact ⟨_, rfl⟩
  have hleaves : ∀ interlude, .meanwhile interlude ∈ events → interlude.LeavesUplink := by
    intro interlude hmem
    obtain ⟨now, rfl⟩ := hmeanwhile interlude hmem
    exact fun craft => rfl
  have hallQuiet : ∀ interlude, .meanwhile interlude ∈ events → interlude.Quiet := by
    intro interlude hmem
    obtain ⟨now, rfl⟩ := hmeanwhile interlude hmem
    exact hquiet now
  have hsteady : registry.Steady := by
    intro entry hmem
    obtain rfl := List.mem_singleton.1 hmem
    exact Behavior.steady_of_isTimeless fun context counter written => trivial
  have hdirectQuiet : ∀ call ∈ direct, call.Quiet := by
    intro call hmem
    simp only [direct, List.mem_cons, List.not_mem_nil, or_false] at hmem
    rcases hmem with rfl | rfl | rfl
    · exact ⟨Interlude.quiet_id, List.forall_mem_singleton.2 (hquiet 1000)⟩
    · exact ⟨Interlude.quiet_id, nofun⟩
    · exact ⟨Interlude.quiet_id, List.forall_mem_singleton.2 (hquiet 2000)⟩
  have htaken : world.taken = [script, [], long] := by decide +kernel
  have haccepted : world.accepted = world.taken := by decide +kernel
  have hstats : world.task.daemon.stats = ⟨2, 2, 0⟩ := by decide +kernel
  have hnextId : world.task.daemon.nextId = 3 := by decide +kernel
  have hcounter : world.craft.counter = 2 := by decide +kernel
  have hopen : decide world.task.phase.IsOpen = true := by decide +kernel
  have hended : (fresh.run direct).abandoned = 0 := by decide +kernel
  have hfinished : fresh.Completes direct := Session.completes_of_abandoned rfl hended
  have hworld : (World.start registry settings craft).run events = world := rfl
  have hrefines := loop_refines_calls registry settings craft queue events rfl rfl hleaves
  simp only [hworld] at hrefines
  clear_value world
  obtain ⟨-, -, -, -, -, hcalls⟩ := hrefines
  obtain ⟨calls, gap, -, -, habandoned, -, -, hsame⟩ := hcalls (of_decide_eq_true hopen)
  have hloop : fresh.Completes calls := Session.completes_of_abandoned rfl habandoned
  obtain ⟨hdaemon, -, halike, haudits⟩ :=
    hsame hallQuiet ⟨rfl, rfl⟩ hsteady hloop direct htaken.symm hdirectQuiet hfinished
  exact ⟨htaken, haccepted, hstats, hnextId, hcounter, hdaemon, halike, haudits⟩

end Daemon

end FlightScript
