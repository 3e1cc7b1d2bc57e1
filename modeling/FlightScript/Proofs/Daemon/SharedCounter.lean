import FlightScript.Proofs.Command.Counting
import FlightScript.Proofs.Daemon.Refinement
/-!
# The counter over a whole run

Any number of commands may share the counter: what is registered as counting, the copies that scripts run,
and copies that are taken and executed by hand.  `count_exact` says that the counter is nevertheless exact.
After any events, in any order, it has gone up once for each execution that was begun of a command that
counts, and each of these has reported the value that it went up to, if its build can make that sum.

`Aboard` is a daemon with its spacecraft, the script that it has under way, and commands at hand that count.
An event may begin one execution (`Aboard.begun?`).  If that is one that counts, it is also over by the end
of the event, so the count is read off the two moments before the event and behind it (`Count`).  One event
either adds a count to the run or leaves the counter alone (`Aboard.Sound.step`).

## The greatest value

The counter itself goes from its greatest value to 0 as it goes from any other value to the next.  What is
reported is a sum of its own (`Arithmetic`).  In a build that wraps its sums, like the one that flies, the step
to 0 is reported like any other.  In a build that checks them, the execution that steps to 0 crashes behind the
step.  It has counted and says nothing, and no other execution does so.  Therefore all that follows is said of
a build: the one whose `Builtin.count` is registered and at hand.  A crash takes down the task that it happens
in; whoever has the daemon after that may go on with it, and finds it as the crash has left it.
-/

namespace FlightScript

namespace Daemon

/-- A daemon and its spacecraft, the script that is under way, and commands at hand. -/
structure Aboard where
  daemon : Daemon
  craft : Spacecraft
  underWay : Option Script.Interpretation := none
  hand : List Command := []

namespace Aboard

inductive Event where
  /-- A script is handed to the daemon, which takes it unless it has one under way. -/
  | handOver (script : Bytes)
  /-- The script that is under way goes on. -/
  | turn
  /-- The script that is under way is given up. -/
  | giveUp
  /-- A copy is taken of what is registered under a name, if that counts. -/
  | copyRegistered (name : Bytes)
  /-- A copy is taken of a command at hand. -/
  | copy (index : Nat)
  /-- Something is done to a command at hand. -/
  | operate (index : Nat) (operation : Command.Operation)
  /-- Something else happens aboard. -/
  | meanwhile (interlude : Interlude)

/-- What else happens aboard has no hold of the counter. -/
def Event.LeavesCounter : Event → Prop
  | operate _ (.meanwhile interlude) => ∀ craft, (interlude craft).counter = craft.counter
  | meanwhile interlude => ∀ craft, (interlude craft).counter = craft.counter
  | _ => True

/-- The daemon has had a turn. -/
def afterTurn (aboard : Aboard) (turn : Progress Script.Interpretation Handled × Daemon × Spacecraft) :
    Aboard :=
  { aboard with
    daemon := turn.2.1
    craft := turn.2.2
    underWay :=
      match turn.1 with
      | .ready _ => none
      | .waiting run => some run }

def withCopy (aboard : Aboard) (command : Command) : Aboard :=
  match command.copy? aboard.craft.allowances with
  | none => aboard
  | some (copy, allowances) =>
    { aboard with craft := { aboard.craft with allowances }, hand := aboard.hand ++ [copy] }

def step (aboard : Aboard) : Event → Aboard
  | .handOver script =>
    match aboard.underWay with
    | none => aboard.afterTurn (aboard.daemon.handleScript script aboard.craft)
    | some _ => aboard
  | .turn =>
    match aboard.underWay with
    | none => aboard
    | some run => aboard.afterTurn (aboard.daemon.resume run aboard.craft)
  | .giveUp =>
    match aboard.underWay with
    | none => aboard
    | some run => { aboard with craft := (run.drop aboard.craft).2, underWay := none }
  | .copyRegistered name =>
    match aboard.daemon.registry.resolve name with
    | none => aboard
    | some prototype => if prototype.counts then aboard.withCopy prototype else aboard
  | .copy index =>
    match aboard.hand[index]? with
    | none => aboard
    | some command => aboard.withCopy command
  | .operate index operation =>
    match aboard.hand[index]? with
    | none => aboard
    | some command =>
      let life := Command.Life.undergo { command, craft := aboard.craft } operation
      { aboard with craft := life.craft, hand := aboard.hand.set index life.command }
  | .meanwhile interlude => { aboard with craft := interlude aboard.craft }

def run (aboard : Aboard) (events : List Event) : Aboard :=
  events.foldl step aboard

/-- The command whose execution an event begins. -/
def begun? (aboard : Aboard) : Event → Option Command
  | .handOver script =>
    match aboard.underWay,
      Script.parse (script.take Limits.scriptLength) aboard.daemon.registry aboard.craft.allowances with
    | none, (.ok tree, _) => some (tree.command.withId aboard.daemon.nextId)
    | _, _ => none
  | .operate index (.execute ..) => aboard.hand[index]?.filter (·.status = .pending)
  | _ => none

/-- The status that an execution has come to by the end of the event that has begun it.  The command of a
script is gone with the task that a crash takes down, and so is its status. -/
def status? (aboard : Aboard) : Event → Option Status
  | .handOver script =>
    match (aboard.daemon.handleScript script aboard.craft).1 with
    | .ready (.done (.executed _ _ status)) => some status
    | _ => none
  | .operate index operation => ((aboard.step (.operate index operation)).hand[index]?).map (·.status)
  | _ => none

/-- An execution of a command that counts: what it has come to, and the moments before and behind it. -/
structure Count where
  command : Command
  status : Option Status
  before : Spacecraft
  after : Spacecraft

/-- The execution that an event begins, with what it has come to. -/
def countOf (aboard : Aboard) (event : Event) (command : Command) : Count :=
  ⟨command, aboard.status? event, aboard.craft, (aboard.step event).craft⟩

/-- The executions of commands that count which an event begins: one, or none. -/
def countsOf (aboard : Aboard) (event : Event) : List Count :=
  match aboard.begun? event with
  | none => []
  | some command => if command.counts then [aboard.countOf event command] else []

/-- Those of a run, one behind the other. -/
def counts (aboard : Aboard) : List Event → List Count
  | [] => []
  | event :: events => aboard.countsOf event ++ (aboard.step event).counts events

/-- A count is exact if the execution has counted one up, and is over with that status. -/
def Count.Exact (count : Count) (arithmetic : Arithmetic) : Prop :=
  count.command.HasCounted arithmetic count.before count.after count.status

/-! ## One event -/

/-- Nothing aboard counts but the `Builtin.count` of the build. -/
structure Sound (aboard : Aboard) (arithmetic : Arithmetic) : Prop where
  registry : aboard.daemon.registry.OnlyCountCounts arithmetic
  underWay : ∀ run, aboard.underWay = some run → run.execution.wait.LeavesCounter
  hand : ∀ command ∈ aboard.hand, command.behavior = Builtin.count arithmetic

/-- An event is an exact count, or it has begun nothing that counts and has left the counter alone. -/
inductive Tallies (aboard : Aboard) (arithmetic : Arithmetic) (event : Event) : Prop where
  | counts (command : Command) (hbegun : aboard.begun? event = some command)
      (hcounts : command.counts = true) (hexact : (aboard.countOf event command).Exact arithmetic)
  | rests (hnone : ∀ command, aboard.begun? event = some command → command.counts = false)
      (hcounter : (aboard.step event).craft.counter = aboard.craft.counter)

/-! ### A script -/

variable {aboard : Aboard} {arithmetic : Arithmetic} {event : Event} {script : Bytes}
  {left : Allowances}

/-- A script that is rejected leaves the counter alone. -/
lemma exists_handleScript_of_error {daemon : Daemon} {craft : Spacecraft} {e : Script.Error}
    (hparse : Script.parse (script.take Limits.scriptLength) daemon.registry craft.allowances =
      (.error e, left)) :
    ∃ outcome after craft', daemon.handleScript script craft = (.ready (.done outcome), after, craft') ∧
      after.registry = daemon.registry ∧ craft'.counter = craft.counter := by
  by_cases htext : script.take Limits.scriptLength = []
  · exact ⟨_, _, _, handleScript_of_nil htext, rfl, rfl⟩
  · have hturn := handleScript_eq daemon script craft htext
    rw [hparse] at hturn
    exact ⟨_, _, _, hturn, rfl, rfl⟩

/-- The command of a script that counts is executed at once, and is an exact count. -/
lemma exists_handleScript_of_count {command : Command}
    (hparse : Script.parse (script.take Limits.scriptLength) aboard.daemon.registry
      aboard.craft.allowances = (.ok (.statement (.invocation command)), left))
    (hpending : command.status = .pending) (hbehavior : command.behavior = Builtin.count arithmetic) :
    ∃ handled after craft', aboard.daemon.handleScript script aboard.craft =
        (.ready handled, after, craft') ∧ after.registry = aboard.daemon.registry ∧
      (command.withId aboard.daemon.nextId).HasCounted arithmetic aboard.craft craft'
        (aboard.status? (.handOver script)) := by
  have hturn := handleScript_of_ok hparse hpending
  let started := aboard.daemon.started script aboard.craft command
  obtain ⟨stop, counted, executed, craft', hrun, hsettle, hcounted⟩ :=
    (command.withId aboard.daemon.nextId).exists_run_count hbehavior
      { aboard.craft with allowances := left } started.deadline
  change (command.behavior.start (command.withId aboard.daemon.nextId).context).run _ = _ at hrun
  have hframe : started.frame (.ready stop, counted) =
      started.daemon.settle (started.script.around (.ready executed, craft')) :=
    congrArg (fun execution => started.daemon.settle (started.script.around execution)) hsettle
  rw [hrun, hframe] at hturn
  cases executed with
  | returned command' =>
    refine ⟨_, _, _, hturn, rfl, ?_⟩
    rw [status?, hturn]
    exact hcounted.congr (Spacecraft.reports_nil_of_log rfl) rfl (Script.reports_releaseLines _ _) rfl
  | crashed =>
    refine ⟨_, _, _, hturn, rfl, ?_⟩
    rw [status?, hturn]
    exact hcounted.congr (Spacecraft.reports_nil_of_log rfl) rfl (Spacecraft.reports_nil_of_log rfl) rfl

/-- The command of any other script leaves the counter alone, and so will its later turns. -/
lemma handleScript_of_leavesCounter {daemon : Daemon} {craft : Spacecraft} {command : Command}
    (hparse : Script.parse (script.take Limits.scriptLength) daemon.registry craft.allowances =
      (.ok (.statement (.invocation command)), left)) (hpending : command.status = .pending)
    (hleaves : command.behavior.LeavesCounter) :
    (daemon.handleScript script craft).2.1.registry = daemon.registry ∧
      (daemon.handleScript script craft).2.2.counter = craft.counter ∧
      ∀ run, (daemon.handleScript script craft).1 = .waiting run →
        run.execution.wait.LeavesCounter := by
  rw [handleScript_of_ok hparse hpending]
  have hspares := (hleaves (command.withId daemon.nextId).context).spares_run
    ({ craft with allowances := left }.atEntry (command.withId daemon.nextId).context)
  rw [Spacecraft.counter_atEntry] at hspares
  exact hspares.settle _ _ _ _

/-! ### Every event -/

/-- What a turn of the daemon leaves is sound, if it has not counted or is over. -/
lemma Sound.afterTurn (h : aboard.Sound arithmetic)
    {turn : Progress Script.Interpretation Handled × Daemon × Spacecraft}
    (hregistry : turn.2.1.registry = aboard.daemon.registry)
    (hwait : ∀ run, turn.1 = .waiting run → run.execution.wait.LeavesCounter) :
    (aboard.afterTurn turn).Sound arithmetic where
  registry := by
    rw [show (aboard.afterTurn turn).daemon = turn.2.1 from rfl, hregistry]
    exact h.registry
  underWay := by
    obtain ⟨handled | run, after, craft⟩ := turn
    · simp [Aboard.afterTurn]
    · rintro _ ⟨rfl⟩
      exact hwait run rfl
  hand := h.hand

lemma not_counts_of_begun? (h : aboard.begun? event = none) (command : Command)
    (hcommand : aboard.begun? event = some command) : command.counts = false := by
  rw [h] at hcommand
  cases hcommand

/-- What is left where an event begins nothing that counts. -/
lemma tallies_of_step {after : Aboard} (hstep : aboard.step event = after)
    (hsound : after.Sound arithmetic)
    (hnone : ∀ command, aboard.begun? event = some command → command.counts = false)
    (hcounter : after.craft.counter = aboard.craft.counter) :
    (aboard.step event).Sound arithmetic ∧ aboard.Tallies arithmetic event := by
  subst hstep
  exact ⟨hsound, .rests hnone hcounter⟩

/-- A daemon that has nothing under way takes the script. -/
lemma step_handOver (hfree : aboard.underWay = none) (script : Bytes) :
    aboard.step (.handOver script) =
      aboard.afterTurn (aboard.daemon.handleScript script aboard.craft) := by
  simp only [step, hfree]

lemma Sound.handOver_of_error (h : aboard.Sound arithmetic) (hfree : aboard.underWay = none) {e : Script.Error}
    (hparse : Script.parse (script.take Limits.scriptLength) aboard.daemon.registry
      aboard.craft.allowances = (.error e, left)) :
    (aboard.step (.handOver script)).Sound arithmetic ∧
      aboard.Tallies arithmetic (.handOver script) := by
  have hbegun : aboard.begun? (.handOver script) = none := by simp only [begun?, hfree, hparse]
  have hstep := step_handOver hfree script
  obtain ⟨outcome, after, craft', hturn, hregistry, hcounter⟩ := exists_handleScript_of_error hparse
  rw [hturn] at hstep
  exact tallies_of_step hstep (h.afterTurn hregistry (by simp)) (not_counts_of_begun? hbegun) hcounter

lemma Sound.handOver_of_ok (h : aboard.Sound arithmetic) (hfree : aboard.underWay = none)
    {command : Command} (hparse : Script.parse (script.take Limits.scriptLength) aboard.daemon.registry
      aboard.craft.allowances = (.ok (.statement (.invocation command)), left))
    (hpending : command.status = .pending) :
    (aboard.step (.handOver script)).Sound arithmetic ∧
      aboard.Tallies arithmetic (.handOver script) := by
  have hbegun : aboard.begun? (.handOver script) = some (command.withId aboard.daemon.nextId) := by
    simp only [begun?, hfree, hparse]
    rfl
  have hstep := step_handOver hfree script
  obtain ⟨entry, hmem, hbehavior⟩ := exists_mem_of_parse hparse
  rcases h.registry entry hmem with hcount | hleaves
  · obtain ⟨handled, after, craft', hturn, hregistry, hcounted⟩ :=
      exists_handleScript_of_count hparse hpending (hbehavior.trans hcount)
    rw [hturn] at hstep
    have hexact : (aboard.countOf (.handOver script)
        (command.withId aboard.daemon.nextId)).Exact arithmetic := by
      simp only [Count.Exact, countOf, hstep]
      exact hcounted
    have hcounts : (command.withId aboard.daemon.nextId).counts = true :=
      Command.counts_of_count (hbehavior.trans hcount)
    rw [hstep]
    exact ⟨h.afterTurn hregistry (by simp), .counts _ hbegun hcounts hexact⟩
  · rw [← hbehavior] at hleaves
    obtain ⟨hregistry, hcounter, hwait⟩ := handleScript_of_leavesCounter hparse hpending hleaves
    have hcounts : (command.withId aboard.daemon.nextId).counts = false :=
      Command.counts_of_leavesCounter hleaves
    exact tallies_of_step hstep (h.afterTurn hregistry hwait) (by simp [hbegun, hcounts]) hcounter

/-- **A script that is handed over** counts if it is accepted and its command does. -/
lemma Sound.handOver (h : aboard.Sound arithmetic) (script : Bytes) :
    (aboard.step (.handOver script)).Sound arithmetic ∧
      aboard.Tallies arithmetic (.handOver script) := by
  cases hbusy : aboard.underWay with
  | some run =>
    have hbegun : aboard.begun? (.handOver script) = none := by simp only [begun?, hbusy]
    exact tallies_of_step (by simp only [step, hbusy]) h (not_counts_of_begun? hbegun) rfl
  | none =>
    rcases hparse : Script.parse (script.take Limits.scriptLength) aboard.daemon.registry
      aboard.craft.allowances with ⟨e | tree, left⟩
    · exact h.handOver_of_error hbusy hparse
    · obtain ⟨command, hpending, rfl⟩ := exists_pending_of_parse hparse
      exact h.handOver_of_ok hbusy hparse hpending

/-- A turn of a script that is under way does not count, nor does giving it up. -/
lemma Sound.turn (h : aboard.Sound arithmetic) :
    (aboard.step .turn).Sound arithmetic ∧ aboard.Tallies arithmetic .turn := by
  cases hrun : aboard.underWay with
  | none => exact tallies_of_step (by simp only [step, hrun]) h (not_counts_of_begun? rfl) rfl
  | some run =>
    have hstep : aboard.step .turn = aboard.afterTurn (aboard.daemon.resume run aboard.craft) := by
      simp only [step, hrun]
    obtain ⟨hregistry, hcounter, hwait⟩ := ((h.underWay run hrun).spares_resume aboard.craft).settle
      aboard.daemon run.script run.execution.command run.execution.deadline
    exact tallies_of_step hstep (h.afterTurn hregistry hwait) (not_counts_of_begun? rfl) hcounter

lemma Sound.giveUp (h : aboard.Sound arithmetic) :
    (aboard.step .giveUp).Sound arithmetic ∧ aboard.Tallies arithmetic .giveUp := by
  cases hrun : aboard.underWay with
  | none => exact tallies_of_step (by simp only [step, hrun]) h (not_counts_of_begun? rfl) rfl
  | some run =>
    have hstep : aboard.step .giveUp =
        { aboard with craft := (run.drop aboard.craft).2, underWay := none } := by
      simp only [step, hrun]
    exact tallies_of_step hstep ⟨h.registry, by simp, h.hand⟩
      (not_counts_of_begun? rfl) (run.execution.wait.counter_drop aboard.craft)

/-! ### A command at hand -/

/-- A copy that is taken counts like the command that it is taken from. -/
lemma Sound.withCopy (h : aboard.Sound arithmetic) {command : Command}
    (hbehavior : command.behavior = Builtin.count arithmetic) :
    (aboard.withCopy command).Sound arithmetic ∧
      (aboard.withCopy command).craft.counter = aboard.craft.counter := by
  unfold Aboard.withCopy
  split
  · exact ⟨h, rfl⟩
  · next copy allowances hcopy =>
    obtain ⟨-, rfl⟩ := Script.copy?_eq_some_iff.1 hcopy
    refine ⟨⟨h.registry, h.underWay, ?_⟩, rfl⟩
    intro other hmem
    rcases List.mem_append.1 hmem with hmem | hmem
    · exact h.hand other hmem
    · obtain rfl := List.mem_singleton.1 hmem
      exact hbehavior

lemma Sound.copyRegistered (h : aboard.Sound arithmetic) (name : Bytes) :
    (aboard.step (.copyRegistered name)).Sound arithmetic ∧
      aboard.Tallies arithmetic (.copyRegistered name) := by
  cases hprototype : aboard.daemon.registry.resolve name with
  | none => exact tallies_of_step (by simp only [step, hprototype]) h (not_counts_of_begun? rfl) rfl
  | some prototype =>
    have hstep : aboard.step (.copyRegistered name) =
        if prototype.counts then aboard.withCopy prototype else aboard := by
      simp only [step, hprototype]
    rcases h.registry _ (mem_of_resolve hprototype) with hcount | hleaves
    · rw [if_pos (Command.counts_of_count hcount)] at hstep
      obtain ⟨hsound, hcounter⟩ := h.withCopy hcount
      exact tallies_of_step hstep hsound (not_counts_of_begun? rfl) hcounter
    · rw [if_neg (by simp [Command.counts_of_leavesCounter hleaves])] at hstep
      exact tallies_of_step hstep h (not_counts_of_begun? rfl) rfl

lemma Sound.copy (h : aboard.Sound arithmetic) (index : Nat) :
    (aboard.step (.copy index)).Sound arithmetic ∧ aboard.Tallies arithmetic (.copy index) := by
  cases hcommand : aboard.hand[index]? with
  | none => exact tallies_of_step (by simp only [step, hcommand]) h (not_counts_of_begun? rfl) rfl
  | some command =>
    obtain ⟨hsound, hcounter⟩ := h.withCopy (h.hand command (List.mem_of_getElem? hcommand))
    exact tallies_of_step (by simp only [step, hcommand]) hsound (not_counts_of_begun? rfl) hcounter

/-- **Something that is done to a command at hand** counts if it is the first execution of it. -/
lemma Sound.operate (h : aboard.Sound arithmetic) (index : Nat) (operation : Command.Operation)
    (hleaves : (Event.operate index operation).LeavesCounter) :
    (aboard.step (.operate index operation)).Sound arithmetic ∧
      aboard.Tallies arithmetic (.operate index operation) := by
  cases hcommand : aboard.hand[index]? with
  | none =>
    have hbegun : aboard.begun? (.operate index operation) = none := by
      cases operation <;> simp [begun?, hcommand]
    exact tallies_of_step (by simp only [step, hcommand]) h (not_counts_of_begun? hbegun) rfl
  | some command =>
    have hbehavior : command.behavior = Builtin.count arithmetic :=
      h.hand command (List.mem_of_getElem? hcommand)
    let life : Command.Life := { command, craft := aboard.craft }
    have hstep : aboard.step (.operate index operation) = { aboard with
        craft := (life.undergo operation).craft
        hand := aboard.hand.set index (life.undergo operation).command } := by
      simp only [step, hcommand]
      rfl
    have hsound : (aboard.step (.operate index operation)).Sound arithmetic := by
      rw [hstep]
      refine ⟨h.registry, h.underWay, ?_⟩
      intro other hmem
      rcases List.mem_or_eq_of_mem_set hmem with hmem | rfl
      · exact h.hand other hmem
      · exact (life.undergo_keeps operation).2.trans hbehavior
    refine ⟨hsound, ?_⟩
    cases operation with
    | setId id => exact .rests (not_counts_of_begun? rfl) (by rw [hstep]; rfl)
    | setArgument text => exact .rests (not_counts_of_begun? rfl) (by rw [hstep]; rfl)
    | meanwhile interlude => exact .rests (not_counts_of_begun? rfl) (by rw [hstep]; exact hleaves aboard.craft)
    | execute allowed interludes =>
      by_cases hpending : command.status = .pending
      · have hcounted :=
          Command.Life.undergo_execute_count hpending hbehavior aboard.craft allowed interludes
        have hbegun : aboard.begun? (.operate index (.execute allowed interludes)) = some command := by
          simp [begun?, hcommand, hpending]
        have hinside : index < aboard.hand.length := (List.getElem?_eq_some_iff.1 hcommand).1
        have hstatus : aboard.status? (.operate index (.execute allowed interludes)) =
            some (life.undergo (.execute allowed interludes)).command.status := by
          simp [status?, hstep, hinside]
        refine .counts command hbegun (Command.counts_of_count hbehavior) ?_
        simp only [Count.Exact, countOf, hstatus, hstep]
        exact hcounted
      · have hbegun : aboard.begun? (.operate index (.execute allowed interludes)) = none := by
          simp [begun?, hcommand, hpending]
        refine .rests (not_counts_of_begun? hbegun) ?_
        rw [hstep, Command.Life.undergo_execute_of_not_pending hpending]
        rfl

/-- **One event** keeps all aboard sound.  It is an exact count or it leaves the counter alone. -/
lemma Sound.step (h : aboard.Sound arithmetic) (hleaves : event.LeavesCounter) :
    (aboard.step event).Sound arithmetic ∧ aboard.Tallies arithmetic event := by
  cases event with
  | handOver script => exact h.handOver script
  | turn => exact h.turn
  | giveUp => exact h.giveUp
  | copyRegistered name => exact h.copyRegistered name
  | copy index => exact h.copy index
  | operate index operation => exact h.operate index operation hleaves
  | meanwhile interlude =>
    exact tallies_of_step rfl ⟨h.registry, h.underWay, h.hand⟩ (not_counts_of_begun? rfl)
      (hleaves aboard.craft)

/-! ## A whole run -/

/-- The counts of a list follow one another from a value of the counter: each is exact, and the counter has
gone up by one with each of them. -/
def Exact (arithmetic : Arithmetic) (start : UInt32) (counts : List Count) : Prop :=
  ∀ (i : Nat) (count : Count), counts[i]? = some count →
    count.Exact arithmetic ∧ count.after.counter = start + UInt32.ofNat (i + 1)

lemma exact_nil (start : UInt32) : Exact arithmetic start [] := by
  intro i count hcount
  simp at hcount

lemma add_one_add_ofNat (start : UInt32) (n : Nat) :
    start + 1 + UInt32.ofNat n = start + UInt32.ofNat (n + 1) := by
  rw [UInt32.add_assoc, UInt32.ofNat_add, UInt32.add_comm 1]
  rfl

lemma toNat_add_ofNat (start : UInt32) (n : Nat) :
    (start + UInt32.ofNat n).toNat = (start.toNat + n) % 2 ^ 32 := by
  simp

/-- Behind a count, the further counts follow from where it has left the counter. -/
lemma Exact.cons {start : UInt32} {count : Count} {counts : List Count}
    (hexact : count.Exact arithmetic) (hcounter : count.after.counter = start + 1)
    (h : Exact arithmetic (start + 1) counts) : Exact arithmetic start (count :: counts) := by
  intro i other hother
  cases i with
  | zero =>
    obtain rfl : count = other := Option.some.inj hother
    exact ⟨hexact, hcounter⟩
  | succ i =>
    obtain ⟨hexact', hcounter'⟩ := h i other hother
    exact ⟨hexact', hcounter'.trans (add_one_add_ofNat start (i + 1))⟩

/-- **A run**, from any point of it. -/
lemma Sound.run (h : aboard.Sound arithmetic) {events : List Event}
    (hleaves : ∀ event ∈ events, event.LeavesCounter) :
    (aboard.run events).Sound arithmetic ∧
      Exact arithmetic aboard.craft.counter (aboard.counts events) ∧
      (aboard.run events).craft.counter =
        aboard.craft.counter + UInt32.ofNat (aboard.counts events).length := by
  induction events generalizing aboard with
  | nil => exact ⟨h, exact_nil _, by simp [Aboard.run, Aboard.counts]⟩
  | cons event events ih =>
    obtain ⟨hfirst, hrest⟩ := List.forall_mem_cons.1 hleaves
    obtain ⟨hsound, htallies⟩ := h.step hfirst
    obtain ⟨hlast, hexact, hcounter⟩ := ih hsound hrest
    cases htallies with
    | counts command hbegun hcounts hone =>
      have hlist : aboard.counts (event :: events) =
          aboard.countOf event command :: (aboard.step event).counts events := by
        simp [Aboard.counts, countsOf, hbegun, hcounts]
      have hup : (aboard.step event).craft.counter = aboard.craft.counter + 1 := hone.counter
      rw [hup] at hexact hcounter
      rw [hlist]
      exact ⟨hlast, hexact.cons hone hup, hcounter.trans (add_one_add_ofNat ..)⟩
    | rests hnone hsame =>
      have hlist : aboard.counts (event :: events) = (aboard.step event).counts events := by
        cases hbegun : aboard.begun? event with
        | none => simp [Aboard.counts, countsOf, hbegun]
        | some command => simp [Aboard.counts, countsOf, hbegun, hnone command hbegun]
      rw [hsame] at hexact hcounter
      rw [hlist]
      exact ⟨hlast, hexact, hcounter⟩

/-- **The counter is exact.**  Let a daemon that has no script under way have any prototypes registered of
which nothing counts but those bound to the `Builtin.count` of a build, let any commands at hand be bound to
it too, and let the counter start at any value.

After any events, in any order, the counter stands at its start and the number of executions that were begun
of commands that count, modulo its width, whatever the build.  Right behind each of these it has stood at the
start and the number of executions so far, modulo the same width.  Each has come to its end, with the status
that says so, and has reported that value and nothing else, 0 like any other.  The one exception is a build
that checks its sums: there an execution that has brought the counter to 0 has crashed.  It has reported
nothing, and if its command is still to be had, that has only been begun.

Behind any of that, these leave the counter alone: a script that is rejected, an execution of a command
that is not pending any more, and a copy. -/
theorem count_exact (arithmetic : Arithmetic) (start : Aboard) (events : List Event)
    (hfree : start.underWay = none) (hregistry : start.daemon.registry.OnlyCountCounts arithmetic)
    (hhand : ∀ command ∈ start.hand, command.behavior = Builtin.count arithmetic)
    (hleaves : ∀ event ∈ events, event.LeavesCounter) :
    let there := start.run events
    let counts := start.counts events
    there.craft.counter.toNat = (start.craft.counter.toNat + counts.length) % 2 ^ 32 ∧
    (∀ (i : Nat) (count : Count), counts[i]? = some count →
      count.after.counter.toNat = (start.craft.counter.toNat + (i + 1)) % 2 ^ 32 ∧
      if arithmetic = .checked ∧ count.after.counter = 0 then
        (∀ status ∈ count.status, status = .executing) ∧ count.before.Reports count.after []
      else
        count.status = some .executed ∧
          count.before.Reports count.after (count.command.countReport count.after.counter)) ∧
    (∀ script e left,
      Script.parse (script.take Limits.scriptLength) there.daemon.registry there.craft.allowances =
        (.error e, left) →
      (there.step (.handOver script)).craft.counter = there.craft.counter) ∧
    (∀ index command allowed interludes, there.hand[index]? = some command →
      command.status ≠ .pending →
      (there.step (.operate index (.execute allowed interludes))).craft.counter = there.craft.counter) ∧
    (∀ name, (there.step (.copyRegistered name)).craft.counter = there.craft.counter) ∧
    (∀ index, (there.step (.copy index)).craft.counter = there.craft.counter) := by
  intro there counts
  have hsound : start.Sound arithmetic := ⟨hregistry, by simp [hfree], hhand⟩
  obtain ⟨hthere, hexact, hcounter⟩ := hsound.run hleaves
  have hrests : ∀ {event}, event.LeavesCounter → there.begun? event = none →
      (there.step event).craft.counter = there.craft.counter := by
    intro event hleaves hbegun
    cases (hthere.step hleaves).2 with
    | counts command hsome =>
      rw [hbegun] at hsome
      cases hsome
    | rests hnone hsame => exact hsame
  refine ⟨?total, ?each, ?rejected, ?again, ?registered, ?copy⟩
  case total =>
    rw [show there.craft.counter = _ from hcounter]
    exact toNat_add_ofNat ..
  case each =>
    intro i count hcount
    obtain ⟨hone, hvalue⟩ := hexact i count hcount
    refine ⟨?_, hone.told⟩
    rw [hvalue]
    exact toNat_add_ofNat ..
  case rejected =>
    intro script e left hparse
    refine hrests trivial ?_
    cases hbusy : there.underWay <;> simp only [begun?, hbusy, hparse]
  case again =>
    intro index command allowed interludes hcommand hover
    exact hrests trivial (by simp [begun?, hcommand, hover])
  case registered => exact fun name => hrests trivial rfl
  case copy => exact fun index => hrests trivial rfl

/-- Two scripts that count, a copy that is executed twice between them, and a script without its
semicolon. -/
def sixEvents : List Event := [
  .handOver (Bytes.ofString "INVOKE(\"count\");"),
  .copyRegistered (Bytes.ofString "count"),
  .operate 0 (.execute (some 0) []),
  .operate 0 (.execute none []),
  .handOver (Bytes.ofString "INVOKE(\"count\")"),
  .handOver (Bytes.ofString "INVOKE(\"count\");")]

/-- A build with its built-in commands registered, and the counter at its greatest value. -/
def atGreatest (arithmetic : Arithmetic) : Aboard where
  daemon := { registry := (Registry.empty.enlistBuiltins {} arithmetic).2.1 }
  craft := { counter := 4294967295 }

/-- From there they count 0, 1 and 2.  The build that flies reports the 0, and the one that checks its sums
crashes there. -/
theorem count_exact_from_greatest :
    (∀ arithmetic, (atGreatest arithmetic).daemon.registry.OnlyCountCounts arithmetic ∧
      ((atGreatest arithmetic).counts sixEvents).length = 3 ∧
      ((atGreatest arithmetic).run sixEvents).craft.counter.toNat = 2) ∧
    (∀ count, ((atGreatest .wrapping).counts sixEvents)[0]? = some count →
      count.after.counter.toNat = 0 ∧ count.status = some .executed) ∧
    ∀ count, ((atGreatest .checked).counts sixEvents)[0]? = some count →
      count.after.counter.toNat = 0 ∧ count.before.Reports count.after [] := by
  have hregistry : ∀ arithmetic, (atGreatest arithmetic).daemon.registry.OnlyCountCounts arithmetic := by
    intro arithmetic
    have hempty : Registry.empty.OnlyCountCounts arithmetic := by
      simp [Registry.OnlyCountCounts, Registry.empty]
    exact hempty.enlistBuiltins {}
  have hlength : ∀ arithmetic, ((atGreatest arithmetic).counts sixEvents).length = 3 := by
    intro arithmetic
    cases arithmetic <;> decide +kernel
  have hexact := fun arithmetic => count_exact arithmetic (atGreatest arithmetic) sixEvents rfl
    (hregistry arithmetic) (by simp [atGreatest]) (by simp [sixEvents, Event.LeavesCounter])
  refine ⟨fun arithmetic => ⟨hregistry arithmetic, hlength arithmetic, ?_⟩, ?_, ?_⟩
  · have hgreatest : (atGreatest arithmetic).craft.counter.toNat = 4294967295 := rfl
    rw [(hexact arithmetic).1, hlength arithmetic, hgreatest]
    rfl
  · intro count hcount
    obtain ⟨hvalue, htold⟩ := (hexact .wrapping).2.1 0 count hcount
    rw [if_neg (by simp)] at htold
    exact ⟨hvalue, htold.1⟩
  · intro count hcount
    obtain ⟨hvalue, htold⟩ := (hexact .checked).2.1 0 count hcount
    rw [if_pos ⟨rfl, UInt32.toNat_inj.1 hvalue⟩] at htold
    exact ⟨hvalue, htold.2⟩

end Aboard

end Daemon

end FlightScript
