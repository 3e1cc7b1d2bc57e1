import FlightScript.Daemon.Task
import FlightScript.Proofs.Link.Uplink
/-!
# One advance of the daemon

A daemon at work takes one step after another, and between two of them anything may happen.  Only one
thing cannot: behind a script the daemon looks at the pause that begins there before anything else has
its turn, the clock included.  So a step and that look are taken together (`Task.advance`).

What an advance can do is said once, here.  It does nothing that matters, or it takes the first packet
and hands it over, or it goes on with a command, or its task is down (`Task.advances`).  A packet comes
out of the buffer as a script that is given directly does (`Task.receive_eq_handle_delivered`).  A turn of
a script is followed by a wait for its command or by a pause, and a daemon that was cancelled stops there
(`Task.look_settle`).
-/

namespace FlightScript

namespace Daemon

namespace Phase

/-- No command is under way, and none has taken the task down. -/
def IsOpen : Phase → Prop
  | running _ => False
  | crashed => False
  | _ => True

instance : DecidablePred IsOpen
  | running _ => .isFalse id
  | crashed => .isFalse id
  | starting => .isTrue trivial
  | idle => .isTrue trivial
  | reading _ => .isTrue trivial
  | pausing _ => .isTrue trivial
  | stopped => .isTrue trivial

/-- The daemon waits for a script, or is about to. -/
def Listens : Phase → Prop
  | idle => True
  | reading _ => True
  | _ => False

/-- The daemon has been started, or its pause is over. -/
def IsDue (now : Nat) : Phase → Prop
  | starting => True
  | pausing limit => limit ≤ now
  | _ => False

/-- The reads that the daemon has under way. -/
def readers : Phase → List Link.Ticket
  | reading call => [call.ticket]
  | _ => []

/-- A read that is under way has the receiving end. -/
def Receives : Phase → Prop
  | reading call => ∃ expiry, call.stage = .receiving expiry
  | _ => True

end Phase

/-! ## One step -/

namespace Task

/-- Looks at a pause that has just begun. -/
def look (cancelFirst : Bool) (turn : Task × Spacecraft) : Task × Spacecraft :=
  match turn.1.phase with
  | .pausing _ => turn.1.step cancelFirst turn.2
  | _ => turn

/-- The daemon takes a step.  Between a script and the first look at the pause behind it there is no
wait, so both are one advance, in which the clock stands still. -/
def advance (first second : Bool) (task : Task) (craft : Spacecraft) : Task × Spacecraft :=
  look second (task.step first craft)

variable {task : Task} {craft : Spacecraft} {packets : List Bytes} {turn : Task × Spacecraft}

/-- Nothing that matters has happened: the daemon is where it was or elsewhere between two scripts, with
the same books and the same packets ahead of it, and the core of the spacecraft is what it was. -/
def Idles (task : Task) (craft : Spacecraft) (packets : List Bytes) (turn : Task × Spacecraft) :
    Prop :=
  ∃ phase craft', turn = ({ task with phase }, craft') ∧ phase.IsOpen ∧ phase.Receives ∧
    (task.phase = .stopped → phase = .stopped) ∧ craft'.core = craft.core ∧
    craft'.link.uplink? = some (packets, phase.readers)

/-- Nor does a look at a pause change that. -/
lemma Idles.look (h : Idles task craft packets turn) (cancelFirst : Bool) :
    Idles task craft packets (look cancelFirst turn) := by
  obtain ⟨phase, craft', rfl, hopen, hreceives, hstopped, hcore, huplink⟩ := h
  cases phase with
  | pausing limit =>
    have hphase : task.phase ≠ .stopped := fun h => nomatch hstopped h
    simp only [Task.look, step]
    split
    · exact ⟨.stopped, _, rfl, trivial, trivial, fun _ => rfl, hcore, huplink⟩
    · split
      · exact ⟨.idle, _, rfl, trivial, trivial, fun h => absurd h hphase, hcore, huplink⟩
      · exact ⟨.pausing limit, _, rfl, trivial, trivial, fun h => absurd h hphase, hcore, huplink⟩
  | _ => exact ⟨_, craft', rfl, hopen, hreceives, hstopped, hcore, huplink⟩

/-- The ways that an advance goes while the daemon has these packets ahead of it.  One that listens does
not pass a packet by, unless it was cancelled. -/
inductive Advances (look₂ : Bool) (task : Task) (craft : Spacecraft) (packets : List Bytes) :
    Task × Spacecraft → Prop where
  | idles {turn : Task × Spacecraft} (hopen : task.phase.IsOpen)
      (hempty : task.phase.Listens → task.daemon.settings.port = .telecommand →
        task.cancelled = false → packets = [])
      (hidles : Idles task craft packets turn) : Advances look₂ task craft packets turn
  | takes {packet : Bytes} {rest : List Bytes} {craft' : Spacecraft} (hopen : task.phase.IsOpen)
      (hphase : task.phase ≠ .stopped) (hpackets : packets = packet :: rest)
      (hcore : craft'.core = craft.core)
      (huplink : (task.daemon.handleScript packet craft').2.2.link.uplink? = some (rest, [])) :
    Advances look₂ task craft packets
      (look look₂ (task.settle (task.daemon.handleScript packet craft')))
  | resumes {run : Script.Interpretation} (hphase : task.phase = .running run)
      (huplink : (task.daemon.resume run craft).2.2.link.uplink? = some (packets, [])) :
    Advances look₂ task craft packets (look look₂ (task.settle (task.daemon.resume run craft)))
  | crashed (hphase : task.phase = .crashed) : Advances look₂ task craft packets (task, craft)

/-- A daemon that stops gives up its read, if it has one under way. -/
lemma idles_stop (task : Task) {craft' : Spacecraft} (hcore : craft'.core = craft.core)
    (huplink : craft'.link.uplink? = some (packets, [])) :
    Idles task craft packets (task.stop craft') :=
  ⟨.stopped, _, rfl, trivial, trivial, fun _ => rfl, hcore, huplink⟩

/-- What a read comes to. -/
lemma advances_afterRead (task : Task) {progress : Progress Link.ReadCall (Option Bytes) × Link}
    {listens : Prop} (hopen : task.phase.IsOpen) (hphase : task.phase ≠ .stopped)
    (hlistens : task.daemon.settings.port = .telecommand → listens)
    (hreads : craft.link.Reads listens packets progress) (look₂ : Bool) :
    Advances look₂ task craft packets (look look₂ (task.afterRead craft progress)) := by
  cases hreads with
  | packet hpackets hcore huplink =>
    exact .takes hopen hphase hpackets (Spacecraft.core_withLink hcore)
      ((uplink?_handleScript ..).trans huplink)
  | @nothing left hempty hcore huplink =>
    have hidles : Idles task craft packets (task.afterRead craft (.ready none, left)) :=
      ⟨.pausing _, _, rfl, trivial, trivial, fun h => absurd h hphase,
        Spacecraft.core_withLink hcore, huplink⟩
    exact .idles hopen (fun _ hport _ => hempty (hlistens hport)) (hidles.look look₂)
  | @waits ticket expiry left hpackets hcore huplink =>
    subst hpackets
    have hidles : Idles task craft []
        (task.afterRead craft (.waiting ⟨ticket, .receiving expiry⟩, left)) := by
      unfold afterRead
      by_cases hcancelled : task.cancelled = true
      · obtain ⟨hdropped, hcore'⟩ := Link.uplink?_dropRead ⟨ticket, .receiving expiry⟩ huplink
        simp only [if_pos hcancelled]
        exact task.idles_stop (Spacecraft.core_withLink (hcore'.trans hcore)) hdropped
      · simp only [if_neg hcancelled]
        exact ⟨.reading ⟨ticket, .receiving expiry⟩, _, rfl, trivial, ⟨expiry, rfl⟩,
          fun h => absurd h hphase, Spacecraft.core_withLink hcore, huplink⟩
    exact .idles hopen (fun _ _ _ => rfl) (hidles.look look₂)

/-- **Every advance goes one of these ways.** -/
lemma advances (hreceives : task.phase.Receives)
    (huplink : craft.link.uplink? = some (packets, task.phase.readers)) (first second : Bool) :
    Advances second task craft packets (task.advance first second craft) := by
  obtain ⟨daemon, phase, cancelled⟩ := task
  unfold advance
  cases phase with
  | starting =>
    have hidles : Idles ⟨daemon, .starting, cancelled⟩ craft packets
        (step first ⟨daemon, .starting, cancelled⟩ craft) :=
      ⟨.idle, _, rfl, trivial, trivial, nofun, rfl, huplink⟩
    exact .idles trivial nofun (hidles.look second)
  | idle =>
    simp only [step]
    split
    · next hstops =>
      have hidles := idles_stop ⟨daemon, .idle, cancelled⟩ rfl huplink
      refine .idles trivial (fun _ _ hnot => ?_) (hidles.look second)
      simp [show cancelled = false from hnot] at hstops
    · have hread := Link.reads_beginRead huplink craft.now daemon.settings.port
        daemon.settings.readTimeout
      exact advances_afterRead ⟨daemon, .idle, cancelled⟩ trivial nofun id hread second
  | reading call =>
    obtain ⟨ticket, stage⟩ := call
    obtain ⟨expiry, rfl⟩ : ∃ expiry, stage = .receiving expiry := hreceives
    simp only [step]
    split
    · next hstops =>
      obtain ⟨hdropped, hcore⟩ := Link.uplink?_dropRead ⟨ticket, .receiving expiry⟩ huplink
      have hidles := idles_stop ⟨daemon, .reading ⟨ticket, .receiving expiry⟩, cancelled⟩
        (Spacecraft.core_withLink hcore) hdropped
      refine .idles trivial (fun _ _ hnot => ?_) (hidles.look second)
      simp [show cancelled = false from hnot] at hstops
    · have hread := Link.reads_resumeRead huplink craft.now expiry
      exact advances_afterRead ⟨daemon, .reading ⟨ticket, .receiving expiry⟩, cancelled⟩ trivial nofun
        (fun _ => trivial) hread second
  | running run => exact .resumes rfl ((uplink?_resume ..).trans huplink)
  | pausing limit =>
    have hhere : Idles ⟨daemon, .pausing limit, cancelled⟩ craft packets
        (⟨daemon, .pausing limit, cancelled⟩, craft) :=
      ⟨.pausing limit, craft, rfl, trivial, trivial, nofun, rfl, huplink⟩
    exact .idles trivial nofun ((hhere.look first).look second)
  | stopped =>
    exact .idles trivial nofun ⟨.stopped, craft, rfl, trivial, trivial, fun _ => rfl, rfl, huplink⟩
  | crashed => exact .crashed rfl

/-- **A daemon that is due listens next**, unless it was cancelled. -/
lemma listens_advance (hdue : task.phase.IsDue craft.now) (hcancelled : task.cancelled = false)
    (first second : Bool) : (task.advance first second craft).1.phase.Listens := by
  obtain ⟨daemon, phase, cancelled⟩ := task
  obtain rfl : cancelled = false := hcancelled
  cases phase with
  | starting => trivial
  | pausing limit =>
    have hover : limit ≤ craft.now := hdue
    have hidle : step first ⟨daemon, .pausing limit, false⟩ craft = (⟨daemon, .idle, false⟩, craft) := by
      simp [step, hover]
    rw [advance, hidle]
    trivial
  | _ => exact hdue.elim

/-! ### What a read makes of the buffer -/

/-- **A packet that is read is handled as a script that is given directly.**  A read leaves its packet in
the buffer, cut to what fits, and says how long it is; and one that brought nothing leaves the buffer as
it was. -/
lemma receive_eq_handle_delivered (task : Task) (result : Option Bytes) (craft : Spacecraft) :
    ∃ (length : Nat) (buffer : ReceiveBuffer),
      Link.Queue.delivered task.daemon.buffer.bytes result = (length, buffer.bytes) ∧
      task.receive result craft = task.settle ({ task.daemon with buffer }.handle length craft) := by
  cases result with
  | none => exact ⟨0, task.daemon.buffer, rfl, rfl⟩
  | some packet =>
    have hlength : min packet.length task.daemon.buffer.bytes.length = ReceiveBuffer.received packet :=
      congrArg (min packet.length) task.daemon.buffer.length_eq
    exact ⟨ReceiveBuffer.received packet, task.daemon.buffer.receive packet, Prod.ext hlength rfl, rfl⟩

/-! ### What a turn of a script makes of the task -/

/-- The phase behind a turn of a script fits what the turn has come to.  A daemon that was cancelled
stops behind a script, if it would pause at all. -/
def Suits (cancelled : Bool) (pause : Nat) : Progress Script.Interpretation Handled → Phase → Prop
  | .ready (.done _), phase => phase.IsOpen ∧ (cancelled = true → 0 < pause → phase = .stopped)
  | .ready .crashed, phase => phase = .crashed
  | .waiting run, phase => phase = .running run

lemma look_pausing (task : Task) (limit : Nat) (craft : Spacecraft) (look₂ : Bool) :
    look look₂ ({ task with phase := .pausing limit }, craft) =
      if task.cancelled && (look₂ || craft.now < limit) then
        stop { task with phase := .pausing limit } craft
      else if limit ≤ craft.now then ({ task with phase := .idle }, craft)
      else ({ task with phase := .pausing limit }, craft) := rfl

/-- **What follows a turn of a script** is a pause and a look at it, or a wait for the command.  It
matters only for the phase. -/
lemma look_settle (task : Task) (look₂ : Bool)
    (turn : Progress Script.Interpretation Handled × Daemon × Spacecraft)
    (huplink : turn.2.2.link.uplink? = some (packets, [])) :
    ∃ phase craft', look look₂ (task.settle turn) = ({ task with daemon := turn.2.1, phase }, craft') ∧
      Suits task.cancelled turn.2.1.settings.pause turn.1 phase ∧ phase.Receives ∧
      craft'.core = turn.2.2.core ∧ craft'.link.uplink? = some (packets, phase.readers) := by
  obtain ⟨progress, daemon, craft⟩ := turn
  cases progress with
  | ready handled =>
    cases handled with
    | done outcome =>
      have hlook : look look₂ (task.settle (.ready (.done outcome), daemon, craft)) = _ :=
        look_pausing { task with daemon } (craft.now + daemon.settings.pause)
          (craft.sayAll (outcomeLines outcome)) look₂
      by_cases hstops : (task.cancelled &&
          (look₂ || craft.now < craft.now + daemon.settings.pause : Bool)) = true
      · rw [hlook.trans (if_pos hstops)]
        exact ⟨.stopped, _, rfl, ⟨trivial, fun _ _ => rfl⟩, trivial, rfl, huplink⟩
      · -- a cancelled daemon goes on only if the pause is over as soon as it begins
        have hnoPause : task.cancelled = true → ¬ 0 < daemon.settings.pause := by
          intro hcancelled hpause
          have hbegun : craft.now < craft.now + daemon.settings.pause := Nat.lt_add_of_pos_right hpause
          simp [hcancelled, hbegun] at hstops
        replace hlook := hlook.trans (if_neg hstops)
        by_cases hover : craft.now + daemon.settings.pause ≤ craft.now
        · rw [hlook.trans (if_pos hover)]
          exact ⟨.idle, _, rfl, ⟨trivial, fun h h' => absurd h' (hnoPause h)⟩, trivial, rfl, huplink⟩
        · rw [hlook.trans (if_neg hover)]
          exact ⟨.pausing _, _, rfl, ⟨trivial, fun h h' => absurd h' (hnoPause h)⟩, trivial, rfl,
            huplink⟩
    | crashed => exact ⟨.crashed, craft, rfl, rfl, trivial, rfl, huplink⟩
  | waiting run => exact ⟨.running run, craft, rfl, rfl, trivial, rfl, huplink⟩

end Task

end Daemon

end FlightScript
