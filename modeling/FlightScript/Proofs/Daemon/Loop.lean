import FlightScript.Proofs.Daemon.Advance
import FlightScript.Proofs.Daemon.AuditTrail
/-!
# The daemon's loop among everything else

A daemon at work is one party among several.  Packets are inserted, time goes by, the ground moves its
side of the link, somebody cancels; and in between the daemon advances.  `World` is all of them
together, and `World.run` takes it through any list of such events.

A run of the loop is a list of direct calls on a new daemon.  `World.Follows` says so with the moments
kept: what happens aboard in the run happens, in the same order, before and within the calls
(`Accompanies`), and there is nothing else there but quiet interludes.  One event keeps it
(`World.Follows.step`), so it holds of every run (`World.follows_run`).
-/

namespace FlightScript

lemma Interlude.Quiet.leavesAudit {interlude : Interlude} (h : interlude.Quiet) :
    interlude.LeavesAudit :=
  fun craft => (Spacecraft.core_eq_iff.1 (h craft)).2.1

lemma Interlude.LeavesAudit.comp {first second : Interlude} (h : first.LeavesAudit)
    (h' : second.LeavesAudit) : Interlude.LeavesAudit (second ∘ first) :=
  fun craft => (h' (first craft)).trans (h craft)

namespace Daemon

/-! ## The daemon in its world -/

/-- What can happen. -/
inductive Event where
  /-- A packet is offered to the uplink, which takes it or refuses it. -/
  | insert (packet : Bytes)
  /-- Something else happens aboard or on the ground: time goes by, a packet is received, the station
  goes out of range. -/
  | meanwhile (interlude : Interlude)
  | cancel
  /-- The daemon goes on.  Where it was cancelled, but could as well go on at the same moment, it is
  told here which of the two it does, in its step and in the look at the pause behind it. -/
  | advance (first second : Bool)

/-- What an event is to the rest of the spacecraft, apart from the uplink and the daemon. -/
def Event.happening? : Event → Option Interlude
  | meanwhile interlude => some interlude
  | _ => none

lemma Event.mem_of_happening? {events : List Event} {interlude : Interlude}
    (h : interlude ∈ events.filterMap happening?) : meanwhile interlude ∈ events := by
  obtain ⟨event, hmem, hhappening⟩ := List.mem_filterMap.1 h
  cases event with
  | meanwhile => exact Option.some.inj hhappening ▸ hmem
  | _ => cases hhappening

/-- The daemon, the spacecraft, and the packets that the uplink has ever taken. -/
structure World where
  task : Task
  craft : Spacecraft
  accepted : List Bytes

end Daemon

/-- The packets that wait on the uplink. -/
def Link.queued : Link → List Bytes
  | queue q => q.uplink
  | steady .. => []

lemma Link.queued_of_uplink? {link : Link} {packets : List Bytes} {readers : List Ticket}
    (h : link.uplink? = some (packets, readers)) : link.queued = packets := by
  cases link with
  | queue q => exact congrArg Prod.fst (Option.some.inj h)
  | steady => cases h

/-- What happens without a change to the uplink. -/
def Interlude.LeavesUplink (interlude : Interlude) : Prop :=
  ∀ craft, (interlude craft).link.uplink? = craft.link.uplink?

namespace Daemon.World

/-- A new daemon that was just started. -/
def start (registry : Registry) (settings : Settings) (craft : Spacecraft) : World where
  task := { daemon := { registry, settings } }
  craft
  accepted := craft.link.queued

def step (world : World) : Event → World
  | .insert packet =>
    let offered := world.craft.insert packet
    { world with
      craft := offered.2
      accepted := world.accepted ++ if offered.1 then [packet] else [] }
  | .meanwhile interlude => { world with craft := interlude world.craft }
  | .cancel => { world with task := world.task.cancel }
  | .advance first second =>
    let turn := world.task.advance first second world.craft
    { world with task := turn.1, craft := turn.2 }

def run (world : World) (events : List Event) : World :=
  events.foldl step world

/-- The packets that were accepted and are not queued any more. -/
def taken (world : World) : List Bytes :=
  world.accepted.take (world.accepted.length - world.craft.link.queued.length)

/-- The packets that were accepted are those that were taken and, behind them, those that are queued;
and a read that is under way has the receiving end for itself. -/
structure Accounts (taken packets : List Bytes) (world : World) : Prop where
  accepted : world.accepted = taken ++ packets
  uplink : world.craft.link.uplink? = some (packets, world.task.phase.readers)
  receives : world.task.phase.Receives

variable {world : World} {taken packets : List Bytes}

lemma Accounts.taken_eq (h : Accounts taken packets world) : world.taken = taken := by
  rw [World.taken, Link.queued_of_uplink? h.uplink, h.accepted, List.length_append, Nat.add_sub_cancel,
    List.take_left]

lemma run_concat (world : World) (events : List Event) (event : Event) :
    world.run (events ++ [event]) = (world.run events).step event := by
  simp [run]

/-! ## Which packets are taken -/

/-- An insertion puts the packet behind those that are queued, or nothing. -/
lemma insert_cases {craft : Spacecraft} {readers : List Link.Ticket}
    (huplink : craft.link.uplink? = some (packets, readers)) (packet : Bytes) :
    (craft.insert packet).2.core = craft.core ∧
      (craft.insert packet).2.link.uplink? =
        some (packets ++ if (craft.insert packet).1 then [packet] else [], readers) := by
  cases hlink : craft.link with
  | steady =>
    rw [hlink] at huplink
    cases huplink
  | queue q =>
    obtain ⟨rfl, rfl⟩ : q.uplink = packets ∧ q.readers = readers := by
      simpa [hlink, Link.uplink?] using huplink
    unfold Spacecraft.insert Link.Queue.insert
    rw [hlink]
    by_cases hroom : q.uplink.length < q.depth
    · simp [hroom, Link.uplink?, Spacecraft.core, hlink, Link.core]
    · simp [hroom, Link.uplink?, Spacecraft.core, hlink, Link.core, Spacecraft.say]

namespace Accounts

lemma insert (h : world.Accounts taken packets) (packet : Bytes) :
    ∃ packets', (world.step (.insert packet)).Accounts taken packets' ∧
      (world.step (.insert packet)).craft.core = world.craft.core := by
  obtain ⟨hcore, huplink⟩ := insert_cases h.uplink packet
  refine ⟨_, ⟨?_, huplink, h.receives⟩, hcore⟩
  show world.accepted ++ _ = taken ++ (packets ++ _)
  rw [h.accepted, List.append_assoc]

lemma meanwhile (h : world.Accounts taken packets) {interlude : Interlude}
    (hleaves : interlude.LeavesUplink) : (world.step (.meanwhile interlude)).Accounts taken packets :=
  ⟨h.accepted, (hleaves world.craft).trans h.uplink, h.receives⟩

lemma cancel (h : world.Accounts taken packets) : (world.step .cancel).Accounts taken packets :=
  ⟨h.accepted, h.uplink, h.receives⟩

/-- The first packet goes over from those that are queued to those that were taken. -/
lemma accepted_cons {packet : Bytes} (h : world.Accounts taken (packet :: packets)) :
    world.accepted = taken ++ [packet] ++ packets := by
  rw [h.accepted, List.append_assoc]
  rfl

/-- What follows a turn of a script takes no packet. -/
lemma exists_look_settle {turn : Progress Script.Interpretation Handled × Daemon × Spacecraft}
    (haccepted : world.accepted = taken ++ packets)
    (huplink : turn.2.2.link.uplink? = some (packets, [])) (look₂ : Bool) :
    ∃ phase craft', Task.look look₂ (world.task.settle turn) =
        ({ world.task with daemon := turn.2.1, phase }, craft') ∧
      Task.Suits world.task.cancelled turn.2.1.settings.pause turn.1 phase ∧
      craft'.core = turn.2.2.core ∧
      Accounts taken packets { world with
        task := { world.task with daemon := turn.2.1, phase }
        craft := craft' } := by
  obtain ⟨phase, craft', hlook, hsuits, hreceives, hcore, hleft⟩ :=
    world.task.look_settle look₂ turn huplink
  exact ⟨phase, craft', hlook, hsuits, hcore, haccepted, hleft, hreceives⟩

/-- **A daemon that listens takes the first packet** of those that are queued, unless it was cancelled. -/
lemma taken_advance {packet : Bytes} (h : world.Accounts taken (packet :: packets))
    (hlistens : world.task.phase.Listens) (hport : world.task.daemon.settings.port = .telecommand)
    (hcancelled : world.task.cancelled = false) (first second : Bool) :
    (world.step (.advance first second)).taken = taken ++ [packet] := by
  have hafter : ∀ turn, Task.Advances second world.task world.craft (packet :: packets) turn →
      World.taken { world with task := turn.1, craft := turn.2 } = taken ++ [packet] := by
    intro turn hadvances
    cases hadvances with
    | idles _ hempty => cases hempty hlistens hport hcancelled
    | takes _ _ hpackets _ huplink =>
      obtain ⟨rfl, rfl⟩ := List.cons.inj hpackets
      obtain ⟨phase, craft', hlook, -, -, haccounts⟩ :=
        exists_look_settle h.accepted_cons huplink second
      rw [hlook]
      exact haccounts.taken_eq
    | resumes hphase => rw [hphase] at hlistens; exact hlistens.elim
    | crashed hphase => rw [hphase] at hlistens; exact hlistens.elim
  exact hafter _ (Task.advances h.receives h.uplink first second)

/-- **A daemon that goes on waiting for a script has taken all that was accepted.** -/
lemma taken_eq_accepted (h : world.Accounts taken packets) {call : Link.ReadCall}
    (hphase : world.task.phase = .reading call)
    (hready : world.craft.link.readReady world.craft.now call = false) :
    world.taken = world.accepted := by
  have huplink := h.uplink
  obtain ⟨expiry, hstage⟩ : ∃ expiry, call.stage = .receiving expiry := by
    have hreceives := h.receives
    rwa [hphase] at hreceives
  have hpackets : packets = [] := by
    cases hlink : world.craft.link with
    | steady =>
      rw [hlink] at huplink
      cases huplink
    | queue q =>
      rw [hlink] at huplink hready
      simp only [Link.readReady, Link.Queue.readReady, hstage, Bool.or_eq_false_iff, Bool.not_eq_false',
        List.isEmpty_iff] at hready
      rw [← Link.queued_of_uplink? huplink]
      exact hready.1
  rw [h.taken_eq, h.accepted, hpackets, List.append_nil]

end Accounts

end Daemon.World

namespace Daemon

/-! ## How what happens is spread over calls -/

/-- Some happenings, in order, are spread over some calls and what is behind the last of them: they
happen before a call or between two of its turns, and there is nothing else but quiet interludes. -/
inductive Accompanies : List Interlude → List Call → Interlude → Prop where
  | nil : Accompanies [] [] id
  | quiet {happenings : List Interlude} {calls : List Call} {gap interlude : Interlude}
      (h : Accompanies happenings calls gap) (hquiet : interlude.Quiet) :
    Accompanies happenings calls (interlude ∘ gap)
  | happens {happenings : List Interlude} {calls : List Call} {gap : Interlude}
      (h : Accompanies happenings calls gap) (interlude : Interlude) :
    Accompanies (happenings ++ [interlude]) calls (interlude ∘ gap)
  /-- A call begins. -/
  | begins {happenings : List Interlude} {calls : List Call} {lead : Interlude}
      (h : Accompanies happenings calls lead) (script : Bytes) :
    Accompanies happenings (calls ++ [⟨script, lead, []⟩]) id
  /-- The last call has another turn. -/
  | goesOn {happenings : List Interlude} {calls : List Call} {call : Call} {interlude : Interlude}
      (h : Accompanies happenings (calls ++ [call]) interlude) :
    Accompanies happenings
      (calls ++ [{ call with interludes := call.interludes ++ [interlude] }]) id

/-- What is true of all that happens, and of quiet interludes, is true of the calls. -/
lemma Accompanies.forall {P : Interlude → Prop} {happenings : List Interlude} {calls : List Call}
    {gap : Interlude} (h : Accompanies happenings calls gap)
    (hquiet : ∀ interlude : Interlude, interlude.Quiet → P interlude)
    (hcomp : ∀ first second : Interlude, P first → P second → P (second ∘ first))
    (hall : ∀ interlude ∈ happenings, P interlude) :
    (∀ call ∈ calls, P call.lead ∧ ∀ interlude ∈ call.interludes, P interlude) ∧ P gap := by
  have hid : P id := hquiet id Interlude.quiet_id
  induction h with
  | nil => exact ⟨nofun, hid⟩
  | quiet _ hq ih =>
    obtain ⟨hcalls, hgap⟩ := ih hall
    exact ⟨hcalls, hcomp _ _ hgap (hquiet _ hq)⟩
  | happens _ interlude ih =>
    obtain ⟨hearlier, hlast⟩ := List.forall_mem_append.1 hall
    obtain ⟨hcalls, hgap⟩ := ih hearlier
    exact ⟨hcalls, hcomp _ _ hgap (hlast interlude (List.mem_singleton_self interlude))⟩
  | begins _ script ih =>
    obtain ⟨hcalls, hlead⟩ := ih hall
    exact ⟨List.forall_mem_append.2 ⟨hcalls, List.forall_mem_singleton.2 ⟨hlead, nofun⟩⟩, hid⟩
  | goesOn _ ih =>
    obtain ⟨hcalls, hinterlude⟩ := ih hall
    obtain ⟨hearlier, hlast⟩ := List.forall_mem_append.1 hcalls
    refine ⟨List.forall_mem_append.2 ⟨hearlier, ?_⟩, hid⟩
    obtain ⟨hlead, hinterludes⟩ := hlast _ (List.mem_singleton_self _)
    simp only [List.mem_singleton, forall_eq, List.mem_append]
    refine ⟨hlead, ?_⟩
    rintro interlude (hmem | rfl)
    · exact hinterludes interlude hmem
    · exact hinterlude

/-! ## A run of the loop is a run of calls -/

/-- The handling of one more call. -/
def Session.handlingOf (session : Session) (call : Call) : Handling :=
  session.daemon.handling call.script (call.lead session.craft) call.interludes

lemma Session.call_eq (session : Session) (call : Call) :
    session.call call = session.after (session.handlingOf call) := rfl

lemma Session.handles_handlingOf (session : Session) (call : Call) :
    Handles session.daemon call.script (call.lead session.craft) call.interludes
      (session.handlingOf call) :=
  handles_handling ..

/-- The first turn of a call. -/
lemma Session.handlingOf_begins (session : Session) (script : Bytes) (lead : Interlude) :
    session.handlingOf ⟨script, lead, []⟩ =
      .ofTurn (lead session.craft) []
        (session.daemon.handleScript script (lead session.craft)) := rfl

/-- Another turn of a call whose command waits. -/
lemma Session.handlingOf_goesOn {session : Session} {call : Call} {run : Script.Interpretation}
    (h : (session.handlingOf call).progress = .waiting run) (interlude : Interlude) :
    session.handlingOf { call with interludes := call.interludes ++ [interlude] } =
      .ofTurn (interlude (session.handlingOf call).craft) (session.handlingOf call).entered
        ((session.handlingOf call).daemon.resume run (interlude (session.handlingOf call).craft)) := by
  have hnext : session.handlingOf { call with interludes := call.interludes ++ [interlude] } =
      (session.handlingOf call).next interlude :=
    List.foldl_append
  rw [hnext, Handling.next, h]

/-- No call changes how the daemon was set up. -/
lemma Handles.setup {daemon : Daemon} {script : Bytes} {craft : Spacecraft}
    {interludes : List Interlude} {handling : Handling}
    (h : Handles daemon script craft interludes handling) :
    handling.daemon.registry = daemon.registry ∧ handling.daemon.settings = daemon.settings := by
  cases h <;> exact ⟨rfl, rfl⟩

lemma Session.setup_call (session : Session) (call : Call) :
    (session.call call).daemon.registry = session.daemon.registry ∧
      (session.call call).daemon.settings = session.daemon.settings :=
  (session.handles_handlingOf call).setup

lemma Session.settings_run (session : Session) (calls : List Call) :
    (session.run calls).daemon.settings = session.daemon.settings := by
  induction calls generalizing session with
  | nil => rfl
  | cons call calls ih => exact (ih (session.call call)).trans (session.setup_call call).2

/-- The task stands where calls for these scripts have come to. -/
inductive Task.Matches (fresh : Session) (happenings : List Interlude) (scripts : List Bytes)
    (task : Task) (craft : Spacecraft) : Prop where
  /-- Every call has had its end, and the rest has happened since. -/
  | between {calls : List Call} {gap : Interlude} (hopen : task.phase.IsOpen)
      (haccompanies : Accompanies happenings calls gap) (hscripts : calls.map Call.script = scripts)
      (habandoned : (fresh.run calls).abandoned = 0) (hdaemon : (fresh.run calls).daemon = task.daemon)
      (hcraft : gap (fresh.run calls).craft = craft)
  /-- The last call is under way, and its command waits. -/
  | during {calls : List Call} {call : Call} {gap : Interlude} {run : Script.Interpretation}
      (hphase : task.phase = .running run) (haccompanies : Accompanies happenings (calls ++ [call]) gap)
      (hscripts : (calls ++ [call]).map Call.script = scripts)
      (habandoned : (fresh.run calls).abandoned = 0)
      (hprogress : ((fresh.run calls).handlingOf call).progress = .waiting run)
      (hdaemon : ((fresh.run calls).handlingOf call).daemon = task.daemon)
      (hcraft : gap ((fresh.run calls).handlingOf call).craft = craft)
  /-- One of them has taken the task down. -/
  | crashed (hphase : task.phase = .crashed)
      (hsettings : task.daemon.settings = fresh.daemon.settings)

namespace Task

variable {fresh : Session} {happenings : List Interlude} {scripts : List Bytes} {task : Task}
  {craft craft' : Spacecraft}

/-- Between two scripts, the task stands behind calls that have all had their end. -/
lemma Matches.exists_calls (h : task.Matches fresh happenings scripts craft)
    (hopen : task.phase.IsOpen) :
    ∃ calls gap, Accompanies happenings calls gap ∧ calls.map Call.script = scripts ∧
      (fresh.run calls).abandoned = 0 ∧ (fresh.run calls).daemon = task.daemon ∧
      gap (fresh.run calls).craft = craft := by
  cases h with
  | between _ haccompanies hscripts habandoned hdaemon hcraft =>
    exact ⟨_, _, haccompanies, hscripts, habandoned, hdaemon, hcraft⟩
  | during hphase => rw [hphase] at hopen; exact hopen.elim
  | crashed hphase => rw [hphase] at hopen; exact hopen.elim

lemma Matches.settings_eq (h : task.Matches fresh happenings scripts craft) :
    task.daemon.settings = fresh.daemon.settings := by
  cases h with
  | between _ _ _ _ hdaemon => rw [← hdaemon, fresh.settings_run]
  | @during calls call gap run _ _ _ _ _ hdaemon =>
    rw [← hdaemon, ((fresh.run calls).handles_handlingOf call).setup.2, fresh.settings_run]
  | crashed _ hsettings => exact hsettings

/-- Something happens. -/
lemma Matches.happens (h : task.Matches fresh happenings scripts craft) (interlude : Interlude) :
    task.Matches fresh (happenings ++ [interlude]) scripts (interlude craft) := by
  cases h with
  | between hopen haccompanies hscripts habandoned hdaemon hcraft =>
    exact .between hopen (haccompanies.happens interlude) hscripts habandoned hdaemon
      (congrArg interlude hcraft)
  | during hphase haccompanies hscripts habandoned hprogress hdaemon hcraft =>
    exact .during hphase (haccompanies.happens interlude) hscripts habandoned hprogress hdaemon
      (congrArg interlude hcraft)
  | crashed hphase hsettings => exact .crashed hphase hsettings

/-- Nothing that matters happens. -/
lemma Matches.quiet (h : task.Matches fresh happenings scripts craft)
    (hcore : craft'.core = craft.core) : task.Matches fresh happenings scripts craft' := by
  obtain ⟨interlude, hquiet, rfl⟩ := Spacecraft.exists_quiet hcore
  cases h with
  | between hopen haccompanies hscripts habandoned hdaemon hcraft =>
    exact .between hopen (haccompanies.quiet hquiet) hscripts habandoned hdaemon
      (congrArg interlude hcraft)
  | during hphase haccompanies hscripts habandoned hprogress hdaemon hcraft =>
    exact .during hphase (haccompanies.quiet hquiet) hscripts habandoned hprogress hdaemon
      (congrArg interlude hcraft)
  | crashed hphase hsettings => exact .crashed hphase hsettings

/-- It is a matter of the daemon and the phase only. -/
lemma Matches.congr {task' : Task} (h : task.Matches fresh happenings scripts craft)
    (hdaemon : task'.daemon = task.daemon) (hphase : task'.phase = task.phase) :
    task'.Matches fresh happenings scripts craft := by
  cases h with
  | between hopen haccompanies hscripts habandoned hcame hcraft =>
    exact .between (hphase ▸ hopen) haccompanies hscripts habandoned (hcame.trans hdaemon.symm) hcraft
  | during hrunning haccompanies hscripts habandoned hprogress hcame hcraft =>
    exact .during (hphase.trans hrunning) haccompanies hscripts habandoned hprogress
      (hcame.trans hdaemon.symm) hcraft
  | crashed hcrashed hsettings => exact .crashed (hphase.trans hcrashed) (hdaemon ▸ hsettings)

/-- The last call has had a turn. -/
lemma matches_of_suits {calls : List Call} {call : Call} {phase : Phase} {cancelled : Bool} {pause : Nat}
    (haccompanies : Accompanies happenings (calls ++ [call]) id)
    (habandoned : (fresh.run calls).abandoned = 0)
    (hsuits : Suits cancelled pause ((fresh.run calls).handlingOf call).progress phase) :
    Matches fresh happenings ((calls ++ [call]).map Call.script)
      ⟨((fresh.run calls).handlingOf call).daemon, phase, cancelled⟩
      ((fresh.run calls).handlingOf call).craft := by
  cases hprogress : ((fresh.run calls).handlingOf call).progress with
  | ready handled =>
    rw [hprogress] at hsuits
    cases handled with
    | done outcome =>
      have houtcome : ((fresh.run calls).handlingOf call).outcome? = some outcome := by
        unfold Handling.outcome?
        rw [hprogress]
      have hreleased : ((fresh.run calls).handlingOf call).released =
          ((fresh.run calls).handlingOf call).craft := by
        unfold Handling.released
        rw [hprogress]
      have hafter : fresh.run (calls ++ [call]) =
          (fresh.run calls).after ((fresh.run calls).handlingOf call) :=
        Session.run_concat ..
      refine .between hsuits.1 haccompanies rfl ?_ ?_ ?_
      · rw [hafter, Session.abandoned_after, habandoned, houtcome]
        rfl
      · rw [hafter]
        rfl
      · rw [hafter]
        exact hreleased
    | crashed =>
      have hsetup := ((fresh.run calls).handles_handlingOf call).setup
      exact .crashed hsuits (hsetup.2.trans (fresh.settings_run calls))
  | waiting run =>
    rw [hprogress] at hsuits
    exact .during hsuits haccompanies rfl habandoned hprogress rfl rfl

end Task

namespace World

variable {fresh : Session} {happenings : List Interlude} {world : World}

/-- The packets of the world are accounted for, and its daemon stands where calls for those that were
taken have come to. -/
def Follows (fresh : Session) (happenings : List Interlude) (world : World) : Prop :=
  ∃ taken packets, world.Accounts taken packets ∧
    world.task.Matches fresh happenings taken world.craft

/-- A turn of the last call makes of the task what the daemon does. -/
lemma follows_look_settle {turn : Progress Script.Interpretation Handled × Daemon × Spacecraft}
    {taken packets : List Bytes} {calls : List Call} {call : Call}
    (haccepted : world.accepted = taken ++ packets)
    (huplink : turn.2.2.link.uplink? = some (packets, []))
    (haccompanies : Accompanies happenings (calls ++ [call]) id)
    (hscripts : (calls ++ [call]).map Call.script = taken)
    (habandoned : (fresh.run calls).abandoned = 0) {before : Spacecraft} {entered : List Context}
    (hturn : (fresh.run calls).handlingOf call = .ofTurn before entered turn) (look₂ : Bool) :
    Follows fresh happenings { world with
      task := (Task.look look₂ (world.task.settle turn)).1
      craft := (Task.look look₂ (world.task.settle turn)).2 } := by
  obtain ⟨phase, craft, hlook, hsuits, hcore, haccounts⟩ :=
    Accounts.exists_look_settle haccepted huplink look₂
  rw [hlook]
  refine ⟨taken, packets, haccounts, ?_⟩
  have hprogress : ((fresh.run calls).handlingOf call).progress = turn.1 := by
    rw [hturn]
    rfl
  rw [← hprogress] at hsuits
  have hmatches := Task.matches_of_suits haccompanies habandoned hsuits
  rw [hturn, hscripts] at hmatches
  exact hmatches.quiet hcore

/-- **One advance of the daemon keeps this.** -/
lemma Follows.of_advances {taken packets : List Bytes} (haccounts : world.Accounts taken packets)
    (hmatches : world.task.Matches fresh happenings taken world.craft) {look₂ : Bool}
    {turn : Task × Spacecraft} (h : Task.Advances look₂ world.task world.craft packets turn) :
    Follows fresh happenings { world with task := turn.1, craft := turn.2 } := by
  cases h with
  | idles hopen _ hidles =>
    obtain ⟨phase, craft', rfl, hopen', hreceives, -, hcore, huplink⟩ := hidles
    obtain ⟨calls, gap, haccompanies, hscripts, habandoned, hdaemon, hcraft⟩ :=
      hmatches.exists_calls hopen
    have hhere : Task.Matches fresh happenings taken { world.task with phase } world.craft :=
      .between hopen' haccompanies hscripts habandoned hdaemon hcraft
    exact ⟨taken, packets, ⟨haccounts.accepted, huplink, hreceives⟩, hhere.quiet hcore⟩
  | @takes packet rest craft' hopen _ hpackets hcore huplink =>
    subst hpackets
    obtain ⟨calls, gap, haccompanies, hscripts, habandoned, hdaemon, hcraft⟩ :=
      hmatches.exists_calls hopen
    obtain ⟨interlude, hquiet, hhere⟩ := Spacecraft.exists_quiet hcore
    have hturn : (fresh.run calls).handlingOf ⟨packet, interlude ∘ gap, []⟩ =
        .ofTurn craft' [] (world.task.daemon.handleScript packet craft') := by
      rw [Session.handlingOf_begins, hdaemon, Function.comp_apply, hcraft, hhere]
    have hscripts' : (calls ++ [Call.mk packet (interlude ∘ gap) []]).map Call.script =
        taken ++ [packet] := by
      rw [List.map_append, hscripts]
      rfl
    exact follows_look_settle haccounts.accepted_cons huplink
      ((haccompanies.quiet hquiet).begins packet) hscripts' habandoned hturn look₂
  | @resumes run hphase huplink =>
    cases hmatches with
    | between hopen => rw [hphase] at hopen; exact hopen.elim
    | @during calls call gap run' hphase' haccompanies hscripts habandoned hprogress hdaemon hcraft =>
      obtain rfl : run' = run := by
        rw [hphase] at hphase'
        exact (Phase.running.inj hphase').symm
      have hturn := Session.handlingOf_goesOn hprogress gap
      rw [hdaemon, hcraft] at hturn
      have hscripts' : (calls ++ [{ call with interludes := call.interludes ++ [gap] }]).map
          Call.script = taken := by
        rw [← hscripts, List.map_append, List.map_append]
        rfl
      exact follows_look_settle haccounts.accepted huplink haccompanies.goesOn hscripts' habandoned hturn
        look₂
    | crashed hphase' =>
      rw [hphase] at hphase'
      cases hphase'
  | crashed hphase => exact ⟨taken, packets, haccounts, hmatches⟩

/-- **One event keeps this.** -/
lemma Follows.step (h : world.Follows fresh happenings) (event : Event)
    (hleaves : ∀ interlude, event = .meanwhile interlude → interlude.LeavesUplink) :
    (world.step event).Follows fresh (happenings ++ event.happening?.toList) := by
  obtain ⟨taken, packets, haccounts, hmatches⟩ := h
  have hnone : happenings ++ (none : Option Interlude).toList = happenings := List.append_nil happenings
  cases event with
  | insert packet =>
    obtain ⟨packets', haccounts', hcore⟩ := haccounts.insert packet
    show Follows fresh (happenings ++ none.toList) _
    rw [hnone]
    exact ⟨taken, packets', haccounts', hmatches.quiet hcore⟩
  | meanwhile interlude =>
    exact ⟨taken, packets, haccounts.meanwhile (hleaves interlude rfl), hmatches.happens interlude⟩
  | cancel =>
    show Follows fresh (happenings ++ none.toList) _
    rw [hnone]
    exact ⟨taken, packets, haccounts.cancel, hmatches.congr rfl rfl⟩
  | advance first second =>
    show Follows fresh (happenings ++ none.toList) _
    rw [hnone]
    exact .of_advances haccounts hmatches
      (Task.advances haccounts.receives haccounts.uplink first second)

/-! ## Runs -/

/-- At its start, with no other read under way, the world has not taken anything. -/
lemma follows_start (registry : Registry) (settings : Settings) {craft : Spacecraft}
    {packets : List Bytes} (huplink : craft.link.uplink? = some (packets, [])) :
    (start registry settings craft).Follows { daemon := { registry, settings }, craft } [] := by
  have haccounts : (start registry settings craft).Accounts [] packets :=
    ⟨Link.queued_of_uplink? huplink, huplink, trivial⟩
  exact ⟨[], packets, haccounts, .between trivial .nil rfl rfl rfl rfl⟩

/-- **Every run of the loop is a run of calls.** -/
lemma follows_run (h : world.Follows fresh []) (events : List Event)
    (hleaves : ∀ interlude, .meanwhile interlude ∈ events → interlude.LeavesUplink) :
    (world.run events).Follows fresh (events.filterMap Event.happening?) := by
  induction events using List.reverseRecOn with
  | nil => exact h
  | append_singleton events event ih =>
    have hearlier := ih fun interlude hmem => hleaves interlude (List.mem_append_left [event] hmem)
    have hlast : ∀ interlude, event = .meanwhile interlude → interlude.LeavesUplink := by
      rintro interlude rfl
      exact hleaves interlude (by simp)
    have hstep := hearlier.step event hlast
    have hhappening : (events ++ [event]).filterMap Event.happening? =
        events.filterMap Event.happening? ++ event.happening?.toList := by
      cases hevent : event.happening? <;> simp [List.filterMap_append, hevent]
    rw [run_concat, hhappening]
    exact hstep

end World

end Daemon

end FlightScript
