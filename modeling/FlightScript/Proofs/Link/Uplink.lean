import FlightScript.Proofs.Daemon.Session
import FlightScript.Proofs.Link.Sides
/-!
# The two sides of the link

The daemon reads from the uplink, and its commands write to the downlink.  Either leaves the other side
alone, and that is what this file is about.

`Spacecraft.core` is what is left of a spacecraft without its clocks, its log and its uplink: all that
commands have an effect on, apart from log lines.  A `Quiet` interlude leaves the core alone.  Time that
goes by is quiet, and so are an insertion and a read.  Conversely, whatever leaves the core alone can be
had by a quiet interlude (`Spacecraft.exists_quiet`).

`Link.uplink?` is what is queued on the uplink, with the reads under way.  No command touches it
(`Daemon.uplink?_handleScript`, `Daemon.uplink?_resume`), and a read that has the receiving end for
itself goes one of three ways (`Link.Reads`).
-/

namespace FlightScript

/-! ## The core of a spacecraft -/

namespace Link

/-- The link without its uplink, and without the number of the next call on it. -/
def core : Link → Link
  | queue q => queue { q with uplink := [], readers := [], nextTicket := 0 }
  | steady written inRange => steady written inRange

/-- What is queued on the uplink, and the reads under way.  A steady link has no uplink. -/
def uplink? : Link → Option (List Bytes × List Ticket)
  | queue q => some (q.uplink, q.readers)
  | steady .. => none

/-- The link with the uplink of another one. -/
def withUplinkOf : Link → Link → Link
  | queue q, queue q' =>
    queue { q with uplink := q'.uplink, readers := q'.readers, nextTicket := q'.nextTicket }
  | link, _ => link

@[simp] lemma core_withUplinkOf (link other : Link) : (link.withUplinkOf other).core = link.core := by
  cases link <;> cases other <;> rfl

lemma withUplinkOf_of_core {link other : Link} (h : other.core = link.core) :
    link.withUplinkOf other = other := by
  cases link with
  | queue q =>
    cases other with
    | queue q' =>
      obtain ⟨depth, inRange, uplink, readers, downlink, consumer, granted, writers, next⟩ := q'
      simp only [core, Link.queue.injEq, Queue.mk.injEq, true_and, and_true] at h
      obtain ⟨rfl, rfl, rfl, rfl, rfl, rfl⟩ := h
      rfl
    | steady => cases h
  | steady =>
    cases other with
    | queue q' => cases h
    | steady => exact h.symm

end Link

namespace Spacecraft

/-- A spacecraft without its clocks, its log and its uplink. -/
def core (craft : Spacecraft) : Spacecraft :=
  { craft with now := 0, uptime := 0, date := 0, link := craft.link.core, log := [] }

lemma core_eq_iff {a b : Spacecraft} :
    a.core = b.core ↔ a.link.core = b.link.core ∧ a.audit = b.audit ∧ a.counter = b.counter ∧
      a.allowances = b.allowances ∧ a.journal = b.journal := by
  simp [core]

lemma core_withLink {craft : Spacecraft} {link : Link} (h : link.core = craft.link.core) :
    { craft with link }.core = craft.core := by
  simp [core, h]

end Spacecraft

/-- What happens aboard without a trace in the core. -/
def Interlude.Quiet (interlude : Interlude) : Prop :=
  ∀ craft, (interlude craft).core = craft.core

lemma Interlude.quiet_id : Interlude.Quiet id := fun _ => rfl

lemma Interlude.Quiet.comp {first second : Interlude} (h : first.Quiet) (h' : second.Quiet) :
    Interlude.Quiet (second ∘ first) :=
  fun craft => (h' (first craft)).trans (h craft)

/-- **Whatever leaves the core alone can be had by a quiet interlude.** -/
lemma Spacecraft.exists_quiet {before after : Spacecraft} (h : after.core = before.core) :
    ∃ interlude : Interlude, interlude.Quiet ∧ interlude before = after := by
  refine ⟨fun craft => { craft with
    now := after.now, uptime := after.uptime, date := after.date, log := after.log
    link := craft.link.withUplinkOf after.link }, ?_, ?_⟩
  · intro craft
    simp [core]
  · obtain ⟨now, uptime, date, link, audit, counter, allowances, journal, log⟩ := before
    obtain ⟨now', uptime', date', link', audit', counter', allowances', journal', log'⟩ := after
    obtain ⟨hlink, rfl, rfl, rfl, rfl⟩ := core_eq_iff.1 h
    simp only [Spacecraft.mk.injEq, true_and, and_true]
    exact Link.withUplinkOf_of_core hlink

/-! ## What commands leave of the uplink -/

namespace Link

@[simp] lemma uplink?_beginWrite (link : Link) (now : Nat) (packet : Packet) (timeout : Option Nat) :
    (link.beginWrite now packet timeout).2.uplink? = link.uplink? := by
  cases link with
  | queue q =>
    have honly := q.writesOnly_beginWrite now packet timeout
    simp [beginWrite, uplink?, honly.uplink, honly.readers]
  | steady => rfl

@[simp] lemma uplink?_resumeWrite (link : Link) (now : Nat) (call : WriteCall) :
    (link.resumeWrite now call).2.uplink? = link.uplink? := by
  cases link with
  | queue q =>
    have honly := q.writesOnly_resumeWrite now call
    simp [resumeWrite, uplink?, honly.uplink, honly.readers]
  | steady => rfl

@[simp] lemma uplink?_dropWrite (link : Link) (call : WriteCall) :
    (link.dropWrite call).uplink? = link.uplink? := by
  cases link with
  | queue q =>
    have honly := q.writesOnly_endWrite call.ticket
    simp [dropWrite, uplink?, honly.uplink, honly.readers]
  | steady => rfl

end Link

lemma Activity.uplink?_run (activity : Activity) (craft : Spacecraft) :
    (activity.run craft).2.link.uplink? = craft.link.uplink? := by
  induction activity generalizing craft with
  | finish ending => rfl
  | log line next ih => exact ih (craft.say line)
  | note text next ih => exact ih (craft.enter (.note text))
  | count next ih => exact ih craft.counter { craft with counter := craft.counter + 1 }
  | observe next ih => exact ih craft.readings craft
  | write payload port timeout next ih =>
    have hwrite := craft.link.uplink?_beginWrite craft.now ⟨port, payload⟩ timeout
    unfold run
    split
    · next written link hturn =>
      rw [hturn] at hwrite
      exact (ih written { craft with link }).trans hwrite
    · next call link hturn =>
      rw [hturn] at hwrite
      exact hwrite
  | pause milliseconds next ih =>
    unfold run
    split
    · exact ih craft
    · rfl
  | never => rfl
  | crash => rfl

lemma Wait.uplink?_resume (wait : Wait) (craft : Spacecraft) :
    (wait.resume craft).2.link.uplink? = craft.link.uplink? := by
  cases wait with
  | time limit next =>
    simp only [resume]
    split
    · exact next.uplink?_run craft
    · rfl
  | place call next =>
    have hwrite := craft.link.uplink?_resumeWrite craft.now call
    simp only [resume]
    split
    · next written link hturn =>
      rw [hturn] at hwrite
      exact ((next written).uplink?_run { craft with link }).trans hwrite
    · next call' link hturn =>
      rw [hturn] at hwrite
      exact hwrite
  | forever => rfl

@[simp] lemma Wait.uplink?_drop (wait : Wait) (craft : Spacecraft) :
    (wait.drop craft).link.uplink? = craft.link.uplink? := by
  cases wait with
  | place call next => exact craft.link.uplink?_dropWrite call
  | _ => rfl

@[simp] lemma Command.link_recordStatus (command : Command) (craft : Spacecraft) :
    (command.recordStatus craft).link = craft.link := by
  unfold recordStatus
  split <;> rfl

@[simp] lemma Command.link_conclude (command : Command) (ending : Ending) (craft : Spacecraft) :
    (command.conclude ending craft).2.link = craft.link := by
  simp only [conclude, link_recordStatus]
  rfl

lemma Execution.uplink?_settle (command : Command) (deadline : Option Deadline)
    (turn : Activity.Turn) :
    (settle command deadline turn).2.link.uplink? = turn.2.link.uplink? := by
  unfold settle
  split
  · next ending craft => exact congrArg Link.uplink? (command.link_conclude ending craft)
  · rfl
  · next wait craft =>
    split
    · rfl
    · split
      · next limit _ =>
        exact (congrArg Link.uplink? (command.link_conclude (overdue limit) (wait.drop craft))).trans
          (wait.uplink?_drop craft)
      · rfl

namespace Daemon

lemma uplink?_settle (daemon : Daemon) (script : Script)
    (turn : Progress Execution Executed × Spacecraft) :
    (daemon.settle (script.around turn)).2.2.link.uplink? = turn.2.link.uplink? := by
  obtain ⟨progress, craft⟩ := turn
  cases progress with
  | ready executed => cases executed <;> rfl
  | waiting execution => rfl

/-- **A command that goes on leaves the uplink alone.** -/
lemma uplink?_resume (daemon : Daemon) (run : Script.Interpretation) (craft : Spacecraft) :
    (daemon.resume run craft).2.2.link.uplink? = craft.link.uplink? :=
  calc
    _ = (run.execution.resume craft).2.link.uplink? := uplink?_settle ..
    _ = (run.execution.wait.resume craft).2.link.uplink? := Execution.uplink?_settle ..
    _ = craft.link.uplink? := Wait.uplink?_resume ..

lemma uplink?_interpret (script : Script) (allowed : Option Nat) (craft : Spacecraft) (daemon : Daemon) :
    (daemon.settle (script.interpret allowed craft)).2.2.link.uplink? = craft.link.uplink? := by
  rw [Script.interpret, uplink?_settle]
  unfold Command.execute
  split
  · rfl
  · rw [Execution.uplink?_settle, Activity.uplink?_run]
    exact congrArg Link.uplink? (Command.link_recordStatus ..)

/-- **So does one that is entered.** -/
lemma uplink?_handleScript (daemon : Daemon) (script : Bytes) (craft : Spacecraft) :
    (daemon.handleScript script craft).2.2.link.uplink? = craft.link.uplink? := by
  unfold handleScript handle
  split
  · rfl
  · simp only
    split
    · rfl
    · exact uplink?_interpret ..

end Daemon

/-! ## Reading -/

namespace Link

/-- The three ways that a read goes which has the receiving end for itself, with all that it leaves
behind.  `packets` is what is queued, and `listens` says whether the read can get any of it. -/
inductive Reads (listens : Prop) (link : Link) (packets : List Bytes) :
    Progress ReadCall (Option Bytes) × Link → Prop where
  | packet {first : Bytes} {rest : List Bytes} {left : Link} (hpackets : packets = first :: rest)
      (hcore : left.core = link.core) (huplink : left.uplink? = some (rest, [])) :
    Reads listens link packets (.ready (some first), left)
  | nothing {left : Link} (hempty : listens → packets = []) (hcore : left.core = link.core)
      (huplink : left.uplink? = some (packets, [])) :
    Reads listens link packets (.ready none, left)
  | waits {ticket : Ticket} {expiry : Option Nat} {left : Link} (hpackets : packets = [])
      (hcore : left.core = link.core) (huplink : left.uplink? = some ([], [ticket])) :
    Reads listens link packets (.waiting ⟨ticket, .receiving expiry⟩, left)

lemma reads_receiveScript {listens : Prop} {link : Link} {q : Queue} {ticket : Ticket}
    (hcore : (queue q).core = link.core)
    (hreaders : q.readers = [ticket]) (now : Nat) (expiry : Option Nat) :
    Reads listens link q.uplink
      ((q.receiveScript now ticket expiry).1, queue (q.receiveScript now ticket expiry).2) := by
  unfold Queue.receiveScript
  split
  · next first rest hpackets =>
    exact .packet hpackets hcore (by simp [uplink?, Queue.endRead, hreaders])
  · next hpackets =>
    split
    · exact .nothing (fun _ => hpackets) hcore (by simp [uplink?, Queue.endRead, hreaders])
    · exact .waits hpackets hcore (by simp [uplink?, hpackets, hreaders])

/-- A read that begins while no other is under way. -/
lemma reads_beginRead {link : Link} {packets : List Bytes} (h : link.uplink? = some (packets, []))
    (now : Nat) (port : Port) (timeout : Option Nat) :
    Reads (port = .telecommand) link packets (link.beginRead now port timeout) := by
  cases link with
  | steady => cases h
  | queue q =>
    obtain ⟨rfl, hreaders⟩ : q.uplink = packets ∧ q.readers = [] := by simpa [uplink?] using h
    unfold beginRead
    by_cases hport : port = Port.telecommand
    · have hfirst : q.beginRead now timeout =
          { q with readers := [q.nextTicket], nextTicket := q.nextTicket + 1 }.receiveScript now
            q.nextTicket (timeout.map (now + ·)) := by
        simp [Queue.beginRead, Queue.resumeRead, hreaders]
      have hcore : (queue { q with readers := [q.nextTicket], nextTicket := q.nextTicket + 1 }).core =
          (queue q).core := rfl
      simp only [if_pos hport, hfirst]
      exact reads_receiveScript hcore rfl now _
    · simp only [if_neg hport]
      exact .nothing (absurd · hport) rfl h

/-- A read that goes on while it has the receiving end. -/
lemma reads_resumeRead {link : Link} {packets : List Bytes} {ticket : Ticket}
    (h : link.uplink? = some (packets, [ticket])) (now : Nat) (expiry : Option Nat) :
    Reads True link packets (link.resumeRead now ⟨ticket, .receiving expiry⟩) := by
  cases link with
  | steady => cases h
  | queue q =>
    obtain ⟨rfl, hreaders⟩ : q.uplink = packets ∧ q.readers = [ticket] := by simpa [uplink?] using h
    exact reads_receiveScript rfl hreaders now expiry

/-- A read that is dropped leaves the receiving end to nobody. -/
lemma uplink?_dropRead {link : Link} {packets : List Bytes} (call : ReadCall)
    (h : link.uplink? = some (packets, [call.ticket])) :
    (link.dropRead call).uplink? = some (packets, []) ∧ (link.dropRead call).core = link.core := by
  cases link with
  | steady => cases h
  | queue q =>
    obtain ⟨rfl, hreaders⟩ : q.uplink = packets ∧ q.readers = [call.ticket] := by
      simpa [uplink?] using h
    exact ⟨by simp [dropRead, uplink?, Queue.endRead, hreaders], rfl⟩

end Link

end FlightScript
