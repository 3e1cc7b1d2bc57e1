import FlightScript.Proofs.Daemon.Session
/-!
# The books of a daemon

A daemon keeps three counters and an id for its next command.  They are changed at different points
of the handling of a script: the script is counted as received before it is read, the id is used up
before the command starts, and the script is counted as executed only once its command has ended.  In
between the call may be over, for good.

`Books` says what all this amounts to between two calls.  Every call keeps it (`Books.after`), so it
holds after every run of calls on a new daemon (`books_run`), however many of its commands were given
up half way and however often the ids have gone round.
-/

namespace FlightScript.Daemon

namespace Outcome

def isExecuted : Outcome → Bool
  | executed .. => true
  | _ => false

def isDropped : Outcome → Bool
  | dropped _ => true
  | _ => false

end Outcome

/-- What a call reports fits the commands that it has started.  One that reports no outcome has
started a command too. -/
def Handling.IsNumbered (handling : Handling) : Prop :=
  match handling.outcome? with
  | some (.executed id _ _) => handling.entered.map Context.id = [id]
  | some (.dropped _) => handling.entered = []
  | some .empty => handling.entered = []
  | none => handling.entered.length = 1

/-- The ids of the commands that were started, in order. -/
def Session.ids (session : Session) : List UInt32 :=
  (session.handled.flatMap Handling.entered).map Context.id

/-- What the books of a daemon say about the calls that it has had. -/
structure Books (calls : List Call) (session : Session) : Prop where
  received : session.daemon.stats.received = calls.countP (·.script ≠ [])
  executed : session.daemon.stats.executed = session.outcomes.countP Outcome.isExecuted
  dropped : session.daemon.stats.dropped = session.outcomes.countP Outcome.isDropped
  balance : session.daemon.stats.received =
    session.daemon.stats.executed + session.daemon.stats.dropped + session.abandoned
  /-- An id has 32 bits, so ids go round. -/
  nextId : session.daemon.nextId.toNat =
    (1 + (session.daemon.stats.executed + session.abandoned)) % UInt32.size
  /-- The `k`-th command that was started has got the id `k`, as far as ids go. -/
  ids : session.ids.map UInt32.toNat =
    (List.range (session.daemon.stats.executed + session.abandoned)).map
      fun k => (k + 1) % UInt32.size
  numbered : ∀ handling ∈ session.handled, handling.IsNumbered

/-! ## One call -/

namespace Handles

variable {daemon : Daemon} {script : Bytes} {craft : Spacecraft} {interludes : List Interlude}
  {handling : Handling}

/-- Anything that is received is counted, whatever comes of it. -/
lemma received_eq (h : Handles daemon script craft interludes handling) :
    handling.daemon.stats.received = daemon.stats.received + if script = [] then 0 else 1 := by
  cases h with
  | empty hscript => rw [if_pos hscript]; rfl
  | dropped hscript => rw [if_neg hscript]
  | executed hscript => rw [if_neg hscript]
  | unfinished hscript => rw [if_neg hscript]

/-- A script is counted as executed exactly if it is reported so. -/
lemma executed_eq (h : Handles daemon script craft interludes handling) :
    handling.daemon.stats.executed =
      daemon.stats.executed + handling.outcome?.toList.countP Outcome.isExecuted := by
  cases h with
  | unfinished _ _ _ _ hprogress => rw [Handling.outcome?_eq_none hprogress]; rfl
  | _ => rfl

lemma dropped_eq (h : Handles daemon script craft interludes handling) :
    handling.daemon.stats.dropped =
      daemon.stats.dropped + handling.outcome?.toList.countP Outcome.isDropped := by
  cases h with
  | unfinished _ _ _ _ hprogress => rw [Handling.outcome?_eq_none hprogress]; rfl
  | _ => rfl

/-- What a call reports fits what it has entered. -/
lemma isNumbered (h : Handles daemon script craft interludes handling) : handling.IsNumbered := by
  cases h with
  | unfinished _ _ _ _ hprogress =>
    rw [Handling.IsNumbered, Handling.outcome?_eq_none hprogress]
    rfl
  | _ => rfl

/-- A script that was received is executed or dropped, or its command has no end. -/
lemma balance (h : Handles daemon script craft interludes handling) :
    handling.daemon.stats.received + daemon.stats.executed + daemon.stats.dropped =
      daemon.stats.received + handling.daemon.stats.executed + handling.daemon.stats.dropped +
        if handling.outcome?.isNone then 1 else 0 := by
  cases h with
  | empty => rfl
  | dropped =>
    simp only [Handling.outcome?, Option.isNone_some, Bool.false_eq_true, if_false]
    omega
  | executed =>
    simp only [Handling.outcome?, Option.isNone_some, Bool.false_eq_true, if_false]
    omega
  | unfinished _ _ _ _ hprogress =>
    rw [Handling.outcome?_eq_none hprogress]
    simp only [Option.isNone_none, if_true]
    omega

/-- A call starts no command and leaves the id for the next, or it starts one, which gets that id and
is either executed or left without an end. -/
lemma started_or (h : Handles daemon script craft interludes handling) :
    (handling.entered = [] ∧ handling.daemon.nextId = daemon.nextId ∧
      handling.daemon.stats.executed = daemon.stats.executed ∧ handling.outcome?.isNone = false) ∨
    (handling.entered.map Context.id = [daemon.nextId] ∧
      handling.daemon.nextId = daemon.nextId + 1 ∧
      handling.daemon.stats.executed + (if handling.outcome?.isNone then 1 else 0) =
        daemon.stats.executed + 1) := by
  cases h with
  | empty => exact .inl ⟨rfl, rfl, rfl, rfl⟩
  | dropped => exact .inl ⟨rfl, rfl, rfl, rfl⟩
  | executed => exact .inr ⟨rfl, rfl, rfl⟩
  | unfinished _ _ _ _ hprogress =>
    rw [Handling.outcome?_eq_none hprogress]
    exact .inr ⟨rfl, rfl, rfl⟩

end Handles

/-- A daemon that has used up one id more than `n` of them has handed them out in order. -/
lemma numbered_succ {n : Nat} {id : UInt32} {ids : List UInt32}
    (hid : id.toNat = (1 + n) % UInt32.size)
    (hids : ids.map UInt32.toNat = (List.range n).map fun k => (k + 1) % UInt32.size) :
    (id + 1).toNat = (1 + (n + 1)) % UInt32.size ∧
      (ids ++ [id]).map UInt32.toNat = (List.range (n + 1)).map fun k => (k + 1) % UInt32.size := by
  constructor
  · calc
      (id + 1).toNat = (id.toNat + 1) % UInt32.size := UInt32.toNat_add id 1
      _ = (1 + (n + 1)) % UInt32.size := by rw [hid, Nat.mod_add_mod, Nat.add_assoc]
  · rw [List.range_succ, List.map_append, List.map_append, hids, List.map_singleton, hid,
      List.map_singleton, Nat.add_comm]

@[simp] lemma Session.ids_after (session : Session) (handling : Handling) :
    (session.after handling).ids = session.ids ++ handling.entered.map Context.id := by
  simp [ids, after]

/-- **One more call keeps the books.** -/
lemma Books.after {calls : List Call} {session : Session} {call : Call} {craft : Spacecraft}
    {interludes : List Interlude} {handling : Handling} (h : Books calls session)
    (hhandles : Handles session.daemon call.script craft interludes handling) :
    Books (calls ++ [call]) (session.after handling) := by
  have hnumbering :
      (session.after handling).daemon.nextId.toNat =
          (1 + ((session.after handling).daemon.stats.executed +
            (session.after handling).abandoned)) % UInt32.size ∧
        (session.after handling).ids.map UInt32.toNat =
          (List.range ((session.after handling).daemon.stats.executed +
            (session.after handling).abandoned)).map fun k => (k + 1) % UInt32.size := by
    rw [Session.daemon_after, Session.ids_after, Session.abandoned_after]
    rcases hhandles.started_or with ⟨hentered, hid, hexecuted, hreported⟩ | ⟨hentered, hid, hcount⟩
    · rw [hentered, hid, hexecuted, hreported]
      simpa using ⟨h.nextId, h.ids⟩
    · have hone : handling.daemon.stats.executed +
          (session.abandoned + if handling.outcome?.isNone then 1 else 0) =
            session.daemon.stats.executed + session.abandoned + 1 := by
        omega
      rw [hentered, hid, hone]
      exact numbered_succ h.nextId h.ids
  refine {
    received := ?received, executed := ?executed, dropped := ?dropped, balance := ?balance,
    nextId := ?nextId, ids := ?ids, numbered := ?numbered }
  case received =>
    rw [List.countP_append, ← h.received, Session.daemon_after, hhandles.received_eq]
    by_cases hscript : call.script = [] <;> simp [hscript]
  case executed =>
    rw [Session.outcomes_after, List.countP_append, ← h.executed, Session.daemon_after,
      hhandles.executed_eq]
  case dropped =>
    rw [Session.outcomes_after, List.countP_append, ← h.dropped, Session.daemon_after,
      hhandles.dropped_eq]
  case balance =>
    have hbefore := h.balance
    have hcall := hhandles.balance
    rw [Session.daemon_after, Session.abandoned_after]
    omega
  case nextId => exact hnumbering.1
  case ids => exact hnumbering.2
  case numbered =>
    intro handled hmem
    rcases List.mem_append.1 hmem with hearlier | hlast
    · exact h.numbered handled hearlier
    · rw [List.mem_singleton.1 hlast]
      exact hhandles.isNumbered

/-- The books of a new daemon are empty. -/
lemma Books.fresh (registry : Registry) (settings : Settings) (craft : Spacecraft) :
    Books [] { daemon := { registry, settings }, craft } where
  received := rfl
  executed := rfl
  dropped := rfl
  balance := rfl
  nextId := rfl
  ids := rfl
  numbered := List.forall_mem_nil _

/-- More calls keep the books. -/
lemma Books.run {earlier : List Call} {session : Session} (h : Books earlier session)
    (calls : List Call) : Books (earlier ++ calls) (session.run calls) := by
  induction calls using List.reverseRecOn with
  | nil =>
    rw [List.append_nil]
    exact h
  | append_singleton calls call ih =>
    rw [← List.append_assoc, Session.run_concat]
    exact ih.after (handles_handling ..)

/-- **The books of a new daemon are right after every run.**  Whatever it is called with, whatever
happens aboard before and during the calls, and whichever of them are over while their command is
executing: every call that brought anything was counted and is in exactly one of three heaps, executed,
dropped or abandoned; and the commands that were started, abandoned ones included, have got the ids
from 1 on in the order of the calls, round and round, while no other script has used one up. -/
theorem books_run (registry : Registry) (settings : Settings) (craft : Spacecraft)
    (calls : List Call) :
    Books calls (Session.run { daemon := { registry, settings }, craft } calls) := by
  exact (Books.fresh registry settings craft).run calls

/-- The second of three calls is over while its command pauses.  Its id is gone. -/
example :
    let pause : Command := {
      kind := 9
      behavior := {
        start := fun context => .pause context.argument.length (.finish (.completed "awake"))
        copying := .always } }
    let session := Session.run {
      daemon := { registry := { prototypes := [(Bytes.ofString "pause", pause)] } }
      craft := {} } [
      { script := Bytes.ofString "INVOKE(\"pause\");" },
      { script := Bytes.ofString "INVOKE(\"pause\", \"long\");" },
      { script := Bytes.ofString "INVOKE(\"pause\");" }]
    session.outcomes = [.executed 1 9 .executed, .executed 3 9 .executed] ∧
      session.daemon.stats = ⟨3, 2, 0⟩ ∧ session.abandoned = 1 ∧ session.daemon.nextId = 4 := by
  decide +kernel

end FlightScript.Daemon
