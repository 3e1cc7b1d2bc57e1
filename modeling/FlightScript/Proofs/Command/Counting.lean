import FlightScript.Builtin
import FlightScript.Proofs.Command.SingleUse
import FlightScript.Proofs.Registry.History
/-!
# The shared counter

All commands that are bound to `Builtin.count` share one counter.  Here is what one execution does to it,
and what leaves it alone.

An execution of such a command has one turn, since counting does not wait.  So nothing else happens between
the step of the counter and the report of its value, and a deadline has no say (`Command.exists_run_count`).
The step and the value are two sums.  The counter always steps; where the build makes no sum of the value,
the execution crashes behind the step, and there is no report (`Command.HasCounted`).
What is reported are the lines at the levels of operators and of debugging (`Spacecraft.Reports`); the audit
log and the release of a script write lines too, at other levels.

Any other behaviour is supposed to have no hold of the counter (`Activity.LeavesCounter`).  That is a
condition on what the behaviour is made of, and it says so of the rest of it wherever it waits.
-/

namespace FlightScript

/-! ## What leaves the counter alone -/

namespace Activity

/-- An activity that has no hold of the counter: it is made of anything but counting. -/
inductive LeavesCounter : Activity → Prop
  | finish (ending : Ending) : LeavesCounter (.finish ending)
  | log (line : Log.Line) {next : Activity} (h : LeavesCounter next) : LeavesCounter (.log line next)
  | note (text : String) {next : Activity} (h : LeavesCounter next) : LeavesCounter (.note text next)
  | observe {next : Readings → Activity} (h : ∀ readings, LeavesCounter (next readings)) :
    LeavesCounter (.observe next)
  | write (payload : Bytes) (port : Port) (timeout : Option Nat) {next : Nat → Activity}
      (h : ∀ written, LeavesCounter (next written)) : LeavesCounter (.write payload port timeout next)
  | pause (milliseconds : Nat) {next : Activity} (h : LeavesCounter next) :
    LeavesCounter (.pause milliseconds next)
  | never : LeavesCounter .never
  | crash : LeavesCounter .crash

/-- An activity whose first step is to count. -/
def counts : Activity → Bool
  | count _ => true
  | _ => false

lemma LeavesCounter.not_counts {activity : Activity} (h : activity.LeavesCounter) :
    activity.counts = false := by
  cases h <;> rfl

end Activity

/-- What is left to do after a wait has no hold of the counter. -/
def Wait.LeavesCounter : Wait → Prop
  | time _ next => next.LeavesCounter
  | place _ next => ∀ written, (next written).LeavesCounter
  | forever => True

/-- A turn has left the counter at a value, and those after it will leave it alone. -/
structure Activity.Turn.Spares (turn : Turn) (counter : UInt32) : Prop where
  counter : turn.2.counter = counter
  wait : ∀ wait craft, turn = (.waiting wait, craft) → wait.LeavesCounter

lemma Activity.spares_ready {stop : Stop} {craft : Spacecraft} :
    Turn.Spares (.ready stop, craft) craft.counter :=
  ⟨rfl, by simp⟩

lemma Wait.spares_waiting (wait : Wait) (h : wait.LeavesCounter) (craft : Spacecraft) :
    Activity.Turn.Spares (.waiting wait, craft) craft.counter := by
  refine ⟨rfl, ?_⟩
  rintro _ _ ⟨rfl, rfl⟩
  exact h

/-- An activity that has stopped does nothing further. -/
lemma Activity.Turn.foldl_next_ready (stop : Stop) (craft : Spacecraft) (expiry : Option Nat)
    (interludes : List Interlude) :
    interludes.foldl (Turn.next expiry) (.ready stop, craft) = (.ready stop, craft) := by
  induction interludes with
  | nil => rfl
  | cons interlude interludes ih => exact ih

lemma Activity.LeavesCounter.spares_run {activity : Activity} (h : activity.LeavesCounter)
    (craft : Spacecraft) : Turn.Spares (activity.run craft) craft.counter := by
  induction h generalizing craft with
  | finish ending => exact spares_ready
  | log line _ ih => exact ih (craft.say line)
  | note text _ ih => exact ih (craft.enter (.note text))
  | observe _ ih => exact ih craft.readings craft
  | write payload port timeout h ih =>
    unfold run
    split
    · next written link _ => exact ih written { craft with link }
    · next call link _ => exact Wait.spares_waiting (.place call _) h { craft with link }
  | pause milliseconds h ih =>
    unfold run
    split
    · exact ih craft
    · exact Wait.spares_waiting (.time _ _) h craft
  | never => exact Wait.spares_waiting .forever trivial craft
  | crash => exact spares_ready

lemma Wait.LeavesCounter.spares_resume {wait : Wait} (h : wait.LeavesCounter) (craft : Spacecraft) :
    Activity.Turn.Spares (wait.resume craft) craft.counter := by
  cases wait with
  | time limit next =>
    simp only [resume]
    split
    · exact Activity.LeavesCounter.spares_run h craft
    · exact spares_waiting (.time limit next) h craft
  | place call next =>
    simp only [resume]
    split
    · next written link _ => exact Activity.LeavesCounter.spares_run (h written) { craft with link }
    · next call link _ => exact spares_waiting (.place call next) h { craft with link }
  | forever => exact spares_waiting .forever h craft

@[simp] lemma Wait.counter_drop (wait : Wait) (craft : Spacecraft) :
    (wait.drop craft).counter = craft.counter := by
  unfold drop
  split <;> rfl

@[simp] lemma Spacecraft.counter_atEntry (craft : Spacecraft) (context : Context) :
    (craft.atEntry context).counter = craft.counter := by
  unfold atEntry
  split <;> rfl

@[simp] lemma Command.counter_conclude (command : Command) (ending : Ending) (craft : Spacecraft) :
    (command.conclude ending craft).2.counter = craft.counter := by
  simp only [conclude, recordStatus]
  split <;> rfl

/-- What the daemon makes of a turn leaves the counter alone, and a script that waits is left with the wait
of that turn. -/
lemma Activity.Turn.Spares.settle {turn : Activity.Turn} {counter : UInt32} (h : turn.Spares counter)
    (daemon : Daemon) (script : Script) (command : Command) (deadline : Option Deadline) :
    let after := daemon.settle (script.around (Execution.settle command deadline turn))
    after.2.1.registry = daemon.registry ∧ after.2.2.counter = counter ∧
      ∀ run, after.1 = .waiting run → run.execution.wait.LeavesCounter := by
  obtain ⟨hcounter, hwait⟩ := h
  obtain ⟨stop | wait, craft⟩ := turn
  · cases stop with
    | ended ending =>
      have hconclude := command.counter_conclude ending craft
      exact ⟨rfl, hconclude.trans hcounter, by simp [Daemon.settle, Script.around, Execution.settle]⟩
    | crashed => exact ⟨rfl, hcounter, by simp [Daemon.settle, Script.around, Execution.settle]⟩
  · cases hexpired : expired craft.now (deadline.map (·.expiry)) with
    | true =>
      obtain ⟨ending, -, hsettle⟩ := Execution.settle_overdue command wait hexpired
      simp only [hsettle]
      have hconclude := command.counter_conclude ending (wait.drop craft)
      rw [wait.counter_drop] at hconclude
      exact ⟨rfl, hconclude.trans hcounter, by simp [Daemon.settle, Script.around]⟩
    | false =>
      rw [Execution.settle_waiting hexpired]
      refine ⟨rfl, hcounter, ?_⟩
      rintro _ ⟨rfl⟩
      exact hwait wait craft rfl

/-! ## Who may count -/

/-- A behaviour that has no hold of the counter. -/
def Behavior.LeavesCounter (behavior : Behavior) : Prop :=
  ∀ context, (behavior.start context).LeavesCounter

/-- A command that is going to count, if it is executed. -/
def Command.counts (command : Command) : Bool :=
  (command.behavior.start command.context).counts

lemma Command.counts_of_count {command : Command} {arithmetic : Arithmetic}
    (h : command.behavior = Builtin.count arithmetic) : command.counts = true := by
  rw [counts, h]
  rfl

lemma Command.counts_of_leavesCounter {command : Command} (h : command.behavior.LeavesCounter) :
    command.counts = false :=
  (h command.context).not_counts

namespace Builtin

lemma leavesCounter_downlink (payload : Bytes) (done : Nat → String) :
    (downlink payload done).LeavesCounter := by
  refine .write _ _ _ fun written => ?_
  split <;> exact .finish _

lemma leavesCounter_echo : echo.LeavesCounter := by
  intro context
  simp only [echo]
  split
  · exact .finish _
  · exact .log _ (leavesCounter_downlink _ _)

lemma leavesCounter_status : status.LeavesCounter := by
  intro context
  refine .observe fun readings => ?_
  split
  · exact .log _ (leavesCounter_downlink _ _)
  · exact .finish _

end Builtin

namespace Registry

/-- Nothing that is registered has a hold of the counter, unless it is bound to the `Builtin.count` of the
build. -/
def OnlyCountCounts (registry : Registry) (arithmetic : Arithmetic) : Prop :=
  ∀ entry ∈ registry.prototypes,
    entry.2.behavior = Builtin.count arithmetic ∨ entry.2.behavior.LeavesCounter

variable {registry : Registry} {arithmetic : Arithmetic}

lemma OnlyCountCounts.enlist (h : registry.OnlyCountCounts arithmetic) {name : Bytes} {prototype : Command}
    (hprototype : prototype.behavior = Builtin.count arithmetic ∨ prototype.behavior.LeavesCounter)
    (craft : Spacecraft) : (registry.enlist name prototype craft).2.1.OnlyCountCounts arithmetic := by
  have henlists := enlists_enlist registry name prototype craft
  revert henlists
  generalize registry.enlist name prototype craft = result
  intro henlists
  cases henlists with
  | taken => exact h
  | notCloneable => exact h
  | accepted =>
    intro entry hmem
    rcases List.mem_append.1 hmem with hmem | hmem
    · exact h entry hmem
    · obtain rfl := List.mem_singleton.1 hmem
      exact hprototype

lemma OnlyCountCounts.enlistAll {offers : List (Bytes × Command)}
    (hoffers : ∀ offer ∈ offers,
      offer.2.behavior = Builtin.count arithmetic ∨ offer.2.behavior.LeavesCounter)
    (h : registry.OnlyCountCounts arithmetic) (craft : Spacecraft) :
    (enlistAll offers registry craft).2.1.OnlyCountCounts arithmetic := by
  induction offers generalizing registry craft with
  | nil => exact h
  | cons offer offers ih =>
    obtain ⟨hfirst, hrest⟩ := List.forall_mem_cons.1 hoffers
    exact ih hrest (h.enlist hfirst craft) _

/-- **The built-in commands** may be registered besides anything that has no hold of the counter. -/
lemma OnlyCountCounts.enlistBuiltins (h : registry.OnlyCountCounts arithmetic) (craft : Spacecraft) :
    (registry.enlistBuiltins craft arithmetic).2.1.OnlyCountCounts arithmetic := by
  have hoffers : ∀ offer ∈ Builtin.prototypes arithmetic,
      offer.2.behavior = Builtin.count arithmetic ∨ offer.2.behavior.LeavesCounter := by
    simp [Builtin.prototypes, Builtin.leavesCounter_echo, Builtin.leavesCounter_status]
  have hall : (Registry.enlistAll (Builtin.prototypes arithmetic) registry
      craft).2.1.OnlyCountCounts arithmetic :=
    OnlyCountCounts.enlistAll hoffers h craft
  exact hall

end Registry

/-! ## What is reported -/

/-- A line of the log that a behaviour or its command has to say, at the levels of operators and of
debugging. -/
def Log.Line.isReport (line : Log.Line) : Bool :=
  line.level = .info ∨ line.level = .debug

@[simp] lemma Log.Line.isReport_info (text : String) : (info text).isReport = true := rfl

namespace Spacecraft

variable {before middle after : Spacecraft} {lines lines' : List Log.Line}

/-- Between two moments these lines were reported, in this order, and nothing else was. -/
def Reports (before after : Spacecraft) (lines : List Log.Line) : Prop :=
  ∃ added, after.log = before.log ++ added ∧ added.filter Log.Line.isReport = lines

lemma Reports.trans (h : before.Reports middle lines) (h' : middle.Reports after lines') :
    before.Reports after (lines ++ lines') := by
  obtain ⟨added, hlog, rfl⟩ := h
  obtain ⟨added', hlog', rfl⟩ := h'
  exact ⟨added ++ added', by rw [hlog', hlog, List.append_assoc], List.filter_append ..⟩

lemma reports_nil_of_log (h : after.log = before.log) : before.Reports after [] :=
  ⟨[], by simp [h], rfl⟩

lemma reports_say (craft : Spacecraft) {line : Log.Line} (h : line.isReport) :
    craft.Reports (craft.say line) [line] :=
  ⟨[line], rfl, by simp [h]⟩

/-- The audit log says nothing at those levels. -/
lemma reports_recordStatus (craft : Spacecraft) (kind : UInt16) (status : Status) :
    craft.Reports (craft.recordStatus kind status) [] := by
  refine ⟨[_], rfl, ?_⟩
  split <;> rfl

lemma reports_atEntry (craft : Spacecraft) (context : Context) :
    craft.Reports (craft.atEntry context) [] := by
  unfold atEntry
  split
  · exact reports_nil_of_log rfl
  · exact craft.reports_recordStatus context.kind .executing

end Spacecraft

/-- Nor is anything said at those levels when a script is released. -/
lemma Script.reports_releaseLines (script : Script) (craft : Spacecraft) :
    craft.Reports (craft.sayAll script.releaseLines) [] := by
  have hquiet : script.releaseLines.filter Log.Line.isReport = [] := by
    induction script with
    | statement body ih => simp [releaseLines, ih, Log.Line.isReport, Log.Line.trace]
    | invocation command => rfl
  exact ⟨script.releaseLines, rfl, hquiet⟩

namespace Command

lemma reports_recordStatus (command : Command) (craft : Spacecraft) :
    craft.Reports (command.recordStatus craft) [] := by
  unfold recordStatus
  split
  · exact craft.reports_recordStatus command.kind command.status
  · exact Spacecraft.reports_nil_of_log rfl

lemma reports_conclude (command : Command) (message : String) (craft : Spacecraft) :
    craft.Reports (command.conclude (.completed message) craft).2
      [command.endingLine (.completed message)] := by
  have hsay : craft.Reports (craft.say (command.endingLine (.completed message)))
      [command.endingLine (.completed message)] := craft.reports_say rfl
  exact hsay.trans (reports_recordStatus _ _)

/-! ## One execution -/

/-- What an execution reports that has counted up to a value. -/
def countReport (command : Command) (value : UInt32) : List Log.Line :=
  [.info s!"[COUNT] count={value} argument={command.argument.shown}",
    command.endingLine (.completed s!"Count is {value}")]

/-- Between two moments, an execution of a command has counted one up, and is over with a status. -/
inductive HasCounted (command : Command) (arithmetic : Arithmetic) (before after : Spacecraft) :
    Option Status → Prop
  /-- It has ended, and has reported the value. -/
  | reported (hsum : arithmetic.next? before.counter = some after.counter)
      (hreports : before.Reports after (command.countReport after.counter)) :
    HasCounted command arithmetic before after (some .executed)
  /-- There is no sum to report.  It has crashed behind the step of the counter, and whoever still has the
  command finds it as it was begun. -/
  | crashed {status : Option Status} (hsum : arithmetic.next? before.counter = none)
      (hcounter : after.counter = before.counter + 1) (hreports : before.Reports after [])
      (hstatus : ∀ told ∈ status, told = .executing) :
    HasCounted command arithmetic before after status

namespace HasCounted

variable {command : Command} {arithmetic : Arithmetic} {before before' after after' : Spacecraft}
  {status : Option Status}

lemma counter (h : command.HasCounted arithmetic before after status) :
    after.counter = before.counter + 1 := by
  cases h with
  | reported hsum => exact Arithmetic.eq_add_one_of_next? hsum
  | crashed _ hcounter => exact hcounter

/-- Neither what comes before nor what comes behind matters, if it reports nothing and does not count. -/
lemma congr (h : command.HasCounted arithmetic before after status) (hbefore : before'.Reports before [])
    (hcounter : before.counter = before'.counter) (hafter : after.Reports after' [])
    (hcounter' : after'.counter = after.counter) : command.HasCounted arithmetic before' after' status := by
  cases h with
  | reported hsum hreports =>
    rw [hcounter, ← hcounter'] at hsum
    rw [← hcounter'] at hreports
    exact .reported hsum (by simpa using (hbefore.trans hreports).trans hafter)
  | crashed hsum hstep hreports hstatus =>
    rw [hcounter] at hsum hstep
    exact .crashed hsum (hcounter'.trans hstep) ((hbefore.trans hreports).trans hafter) hstatus

/-- What comes of the execution is told by the value that the counter is left at. -/
lemma told (h : command.HasCounted arithmetic before after status) :
    if arithmetic = .checked ∧ after.counter = 0 then
      (∀ told ∈ status, told = .executing) ∧ before.Reports after []
    else status = some .executed ∧ before.Reports after (command.countReport after.counter) := by
  have hnone : arithmetic.next? before.counter = none ↔ arithmetic = .checked ∧ after.counter = 0 := by
    rw [h.counter]
    exact Arithmetic.next?_eq_none_iff
  cases h with
  | reported hsum hreports =>
    rw [hsum] at hnone
    rw [if_neg (fun hcrash => nomatch hnone.2 hcrash)]
    exact ⟨rfl, hreports⟩
  | crashed hsum _ hreports hstatus =>
    rw [if_pos (hnone.1 hsum)]
    exact ⟨hstatus, hreports⟩

/-- Where its command is still to be had after a crash, that is as it was begun. -/
lemma getD_executing (h : command.HasCounted arithmetic before after status) :
    command.HasCounted arithmetic before after (some (status.getD .executing)) := by
  cases h with
  | reported hsum hreports => exact .reported hsum hreports
  | crashed hsum hcounter hreports hstatus =>
    refine .crashed hsum hcounter hreports ?_
    rintro _ ⟨rfl⟩
    cases status with
    | none => rfl
    | some told => exact hstatus told rfl

end HasCounted

end Command

namespace Builtin

variable {arithmetic : Arithmetic} {craft : Spacecraft}

/-- Counting is done in one turn. -/
lemma run_count_of_some {value : UInt32} (h : arithmetic.next? craft.counter = some value)
    (context : Context) :
    ((count arithmetic).start context).run craft =
      (.ready (.ended (.completed s!"Count is {value}")),
        { craft with counter := craft.counter + 1 }.say
          (.info s!"[COUNT] count={value} argument={shownArgument context.argument}")) := by
  simp only [count, Activity.run, h]

/-- So it is where there is no sum to report. -/
lemma run_count_of_none (h : arithmetic.next? craft.counter = none) (context : Context) :
    ((count arithmetic).start context).run craft =
      (.ready .crashed, { craft with counter := craft.counter + 1 }) := by
  simp only [count, Activity.run, h]

end Builtin

/-- A behaviour that has ended has its command concluded. -/
lemma Execution.settle_ended (command : Command) (deadline : Option Deadline) (ending : Ending)
    (craft : Spacecraft) :
    settle command deadline (.ready (.ended ending), craft) =
      (.ready (.returned (command.conclude ending craft).1), (command.conclude ending craft).2) :=
  rfl

/-- The status of the command that an execution has returned. -/
def Executed.status? : Executed → Option Status
  | returned command => some command.status
  | crashed => none

namespace Command

/-- **An execution of a command that counts.**  Its behaviour stops in the turn that it is entered in, and
whoever settles the execution has it counted. -/
lemma exists_run_count {command : Command} {arithmetic : Arithmetic}
    (hbehavior : command.behavior = Builtin.count arithmetic) (craft : Spacecraft)
    (deadline : Option Deadline) :
    ∃ stop counted executed after,
      (command.behavior.start command.context).run (craft.atEntry command.context) =
        (.ready stop, counted) ∧
      Execution.settle (command.withStatus .executing) deadline (.ready stop, counted) =
        (.ready executed, after) ∧
      command.HasCounted arithmetic craft after executed.status? := by
  have hcounter : (craft.atEntry command.context).counter = craft.counter :=
    craft.counter_atEntry command.context
  have hentry : craft.Reports { craft.atEntry command.context with
      counter := (craft.atEntry command.context).counter + 1 } [] :=
    craft.reports_atEntry command.context
  rw [hbehavior]
  cases hsum : arithmetic.next? (craft.atEntry command.context).counter with
  | none =>
    refine ⟨_, _, .crashed, _, Builtin.run_count_of_none hsum _, rfl, ?_⟩
    rw [hcounter] at hsum
    exact .crashed hsum (congrArg (· + 1) hcounter) hentry nofun
  | some value =>
    have hcounts := hentry.trans (Spacecraft.reports_say _ (Log.Line.isReport_info
      s!"[COUNT] count={value} argument={command.argument.shown}"))
    have hreports := hcounts.trans
      ((command.withStatus .executing).reports_conclude s!"Count is {value}" _)
    refine ⟨_, _, _, _, Builtin.run_count_of_some hsum _, Execution.settle_ended _ _ _ _, ?_⟩
    rw [Executed.status?, fst_conclude rfl]
    obtain rfl := Arithmetic.eq_add_one_of_next? hsum
    rw [hcounter] at hsum hreports ⊢
    exact .reported (by rwa [counter_conclude]) (by rwa [counter_conclude])

lemma Life.undergo_execute_count {command : Command} {arithmetic : Arithmetic}
    (hpending : command.status = .pending) (hbehavior : command.behavior = Builtin.count arithmetic)
    (craft : Spacecraft) (allowed : Option Nat) (interludes : List Interlude) :
    let life := undergo { command, craft } (.execute allowed interludes)
    command.HasCounted arithmetic craft life.craft (some life.command.status) := by
  intro life
  obtain ⟨stop, counted, executed, after, hrun, hsettle, hcounted⟩ :=
    exists_run_count hbehavior craft (allowed.map fun allowed => ⟨allowed, craft.now + allowed⟩)
  obtain ⟨hturn, -⟩ := follows_attempt hpending allowed craft interludes
  rw [Activity.course, hrun, Activity.Turn.foldl_next_ready, hsettle] at hturn
  obtain ⟨hprogress, hcraft⟩ := Prod.mk.inj hturn
  have hstarted : (command.status.process .started).2 = .executing := by
    rw [hpending]
    rfl
  have hlife : life.craft = after ∧ life.command.status = executed.status?.getD .executing := by
    simp only [life, undergo, Attempt.command, Attempt.released, hprogress, hcraft, true_and]
    cases executed with
    | returned command => rfl
    | crashed => exact hstarted
  rw [hlife.1, hlife.2]
  exact hcounted.getD_executing

end Command

end FlightScript
