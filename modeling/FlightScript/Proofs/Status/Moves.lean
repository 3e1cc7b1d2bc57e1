import FlightScript.Status
import Mathlib.Tactic.Lemma
/-!
# A status only moves forward

Whatever events a command is told of, and however often, its status moves twice at most: into executing,
and from there into the status that the end of the execution brought.  Every other event is refused where
it comes, and might as well not have come.

One event can do three things (`process_cases`), and all of them keep the status at the end of a path:
what was reported as reached on the way is known from the status alone (`path_process`), and so it is of a
whole sequence of events (`path_after`).

Which status a sequence leads to is read off the events by themselves, by the first start among them and
the first end behind that (`Course`).  There is one such reading of every sequence, and it is where the
moves lead (`course_iff`).
-/

namespace FlightScript.Status

/-- The status that an event brings, if it is the end of an execution. -/
def Event.verdict? : Event → Option Status
  | .started => none
  | .completed => some .executed
  | .failed failure => some (.ended failure)

/-- The status that an answer reports as reached. -/
def Answer.reached? : Answer → Option Status
  | .moved reached => some reached
  | .refused .. => none

/-- The statuses that a command has been moved into, up to the one it is in. -/
def path : Status → List Status
  | pending => []
  | executing => [executing]
  | status => [executing, status]

/-- What a sequence of events comes to.  Only the first start counts, and behind it only the first
end. -/
inductive Course : List Event → Status → Prop where
  | unstarted {events : List Event} (h : .started ∉ events) : Course events pending
  | unended {before behind : List Event} (hbefore : .started ∉ before)
      (hbehind : ∀ event ∈ behind, event.verdict? = none) :
      Course (before ++ .started :: behind) executing
  | ended {before middle behind : List Event} {event : Event} {verdict : Status}
      (hbefore : .started ∉ before) (hmiddle : ∀ event ∈ middle, event.verdict? = none)
      (h : event.verdict? = some verdict) :
      Course (before ++ .started :: (middle ++ event :: behind)) verdict

variable {status reached verdict : Status} {event : Event} {events before middle : List Event}

/-! ## One event -/

lemma next?_pending_of_ne (h : event ≠ .started) : pending.next? event = none := by
  cases event with
  | started => exact absurd rfl h
  | completed => rfl
  | failed failure => rfl

lemma next?_executing (event : Event) : executing.next? event = event.verdict? := by
  cases event <;> rfl

lemma isTerminal_of_verdict? (h : event.verdict? = some verdict) : verdict.IsTerminal := by
  cases event with
  | started => cases h
  | completed =>
    obtain rfl := Option.some.inj h
    decide
  | failed failure =>
    obtain rfl := Option.some.inj h
    exact ⟨nofun, nofun⟩

lemma process_of_next?_eq_some (h : status.next? event = some reached) :
    status.process event = (.moved reached, reached) := by
  rw [process, h]

lemma process_of_next?_eq_none (h : status.next? event = none) :
    status.process event = (.refused status event, status) := by
  rw [process, h]

/-- **What one event can do.**  It starts a pending command, it ends one that is executing, or it is
refused and leaves the status as it was. -/
lemma process_cases (status : Status) (event : Event) :
    (status = pending ∧ event = .started ∧
      status.process event = (.moved executing, executing)) ∨
    (status = executing ∧ ∃ verdict, event.verdict? = some verdict ∧
      status.process event = (.moved verdict, verdict)) ∨
    status.process event = (.refused status event, status) := by
  -- A terminal status refuses everything, so there are two statuses to look at.
  by_cases hterminal : status.IsTerminal
  · exact .inr (.inr (process_of_next?_eq_none (next?_of_isTerminal hterminal event)))
  · cases status with
    | pending =>
      by_cases hstarted : event = .started
      · subst hstarted
        exact .inl ⟨rfl, rfl, rfl⟩
      · exact .inr (.inr (process_of_next?_eq_none (next?_pending_of_ne hstarted)))
    | executing =>
      have hnext := next?_executing event
      cases hverdict : event.verdict? with
      | none => exact .inr (.inr (process_of_next?_eq_none (hnext.trans hverdict)))
      | some verdict =>
        exact .inr (.inl ⟨rfl, verdict, rfl, process_of_next?_eq_some (hnext.trans hverdict)⟩)
    | executed => exact absurd ⟨nofun, nofun⟩ hterminal
    | ended failure => exact absurd ⟨nofun, nofun⟩ hterminal

lemma path_of_isTerminal (h : status.IsTerminal) : status.path = [executing, status] := by
  obtain ⟨notPending, notExecuting⟩ := h
  cases status with
  | pending => exact absurd rfl notPending
  | executing => exact absurd rfl notExecuting
  | executed => rfl
  | ended failure => rfl

/-- A path has two statuses at most, and only the second one is terminal. -/
lemma path_isPrefix (status : Status) :
    ∃ verdict : Status, verdict.IsTerminal ∧ status.path <+: [executing, verdict] := by
  cases status with
  | pending => exact ⟨executed, by decide, List.nil_prefix⟩
  | executing => exact ⟨executed, by decide, [executed], rfl⟩
  | executed => exact ⟨executed, by decide, List.prefix_rfl⟩
  | ended failure => exact ⟨ended failure, ⟨nofun, nofun⟩, List.prefix_rfl⟩

/-- **An event adds to the path what its answer reports.** -/
lemma path_process (status : Status) (event : Event) :
    (status.process event).2.path = status.path ++ (status.process event).1.reached?.toList := by
  rcases process_cases status event with
    ⟨rfl, rfl, -⟩ | ⟨rfl, verdict, hverdict, hprocess⟩ | hprocess
  · rfl
  · rw [hprocess, path_of_isTerminal (isTerminal_of_verdict? hverdict)]
    rfl
  · rw [hprocess]
    exact (List.append_nil _).symm

/-! ## A sequence of events -/

lemma after_append (status : Status) (before behind : List Event) :
    status.after (before ++ behind) = (status.after before).after behind :=
  List.foldl_append

/-- The answer to each event is the one it has in the status that the events before it led to. -/
lemma getElem?_processAll (status : Status) (events : List Event) (i : Nat) :
    (status.processAll events)[i]? = events[i]?.map (status.after (events.take i)).process := by
  induction events generalizing status i with
  | nil => rfl
  | cons event rest ih =>
    cases i with
    | zero => rfl
    | succ i => exact ih (status.process event).2 i

lemma after_take_succ (status : Status) (i : Fin events.length) :
    status.after (events.take (i.val + 1)) =
      ((status.after (events.take i)).process events[i]).2 := by
  rw [← List.take_append_getElem i.isLt, after_append]
  rfl

/-- **The statuses reported are those on the path.** -/
lemma path_after (status : Status) (events : List Event) :
    (status.after events).path =
      status.path ++ (status.processAll events).filterMap (·.1.reached?) := by
  induction events generalizing status with
  | nil => exact (List.append_nil _).symm
  | cons event rest ih =>
    calc ((status.process event).2.after rest).path
        = (status.process event).2.path ++
            ((status.process event).2.processAll rest).filterMap (·.1.reached?) := ih _
      _ = status.path ++ ((status.process event).1.reached?.toList ++
            ((status.process event).2.processAll rest).filterMap (·.1.reached?)) := by
        rw [path_process, List.append_assoc]
      _ = status.path ++ (status.processAll (event :: rest)).filterMap (·.1.reached?) := by
        rw [processAll, List.filterMap_cons]
        cases (status.process event).1.reached? <;> rfl

/-- Events that are all refused lead nowhere. -/
lemma after_eq_self (h : ∀ event ∈ events, status.next? event = none) :
    status.after events = status := by
  induction events with
  | nil => rfl
  | cons event rest ih =>
    obtain ⟨hevent, hrest⟩ := List.forall_mem_cons.1 h
    show (status.process event).2.after rest = status
    rw [process_of_next?_eq_none hevent]
    exact ih hrest

lemma after_of_isTerminal (h : status.IsTerminal) (events : List Event) :
    status.after events = status :=
  after_eq_self fun event _ => next?_of_isTerminal h event

lemma after_pending_of_started_notMem (h : .started ∉ events) : pending.after events = pending :=
  after_eq_self fun _ hmem => next?_pending_of_ne fun heq => h (heq ▸ hmem)

lemma after_executing_of_forall (h : ∀ event ∈ events, event.verdict? = none) :
    executing.after events = executing :=
  after_eq_self fun event hmem => (next?_executing event).trans (h event hmem)

lemma after_pending_of_started (h : .started ∉ before) (behind : List Event) :
    pending.after (before ++ .started :: behind) = executing.after behind := by
  rw [after_append, after_pending_of_started_notMem h]
  rfl

lemma after_executing_of_verdict (hmiddle : ∀ event ∈ middle, event.verdict? = none)
    (h : event.verdict? = some verdict) (behind : List Event) :
    executing.after (middle ++ event :: behind) = verdict := by
  rw [after_append, after_executing_of_forall hmiddle]
  show (executing.process event).2.after behind = verdict
  rw [process_of_next?_eq_some ((next?_executing event).trans h)]
  exact after_of_isTerminal (isTerminal_of_verdict? h) behind

/-! ## Where the moves lead -/

lemma exists_course (events : List Event) : ∃ status, Course events status := by
  -- The sequence is cut at its first start, and what is behind that at its first end.
  by_cases hstarted : .started ∈ events
  · obtain ⟨before, behind, rfl, hbefore⟩ := List.eq_append_cons_of_mem hstarted
    cases hverdict : behind.findSome? Event.verdict? with
    | none => exact ⟨_, .unended hbefore (List.findSome?_eq_none_iff.1 hverdict)⟩
    | some verdict =>
      obtain ⟨middle, event, rest, rfl, hevent, hmiddle⟩ := List.findSome?_eq_some_iff.1 hverdict
      exact ⟨_, .ended hbefore hmiddle hevent⟩
  · exact ⟨_, .unstarted hstarted⟩

lemma Course.after_eq (h : Course events status) : pending.after events = status := by
  cases h with
  | unstarted h => exact after_pending_of_started_notMem h
  | unended hbefore hbehind =>
    exact (after_pending_of_started hbefore _).trans (after_executing_of_forall hbehind)
  | ended hbefore hmiddle h =>
    exact (after_pending_of_started hbefore _).trans (after_executing_of_verdict hmiddle h _)

/-- **The moves lead where the events say.** -/
lemma course_iff : Course events status ↔ pending.after events = status := by
  constructor
  · exact Course.after_eq
  · rintro rfl
    obtain ⟨status, hcourse⟩ := exists_course events
    rwa [hcourse.after_eq]

lemma course_pending_iff : Course events pending ↔ .started ∉ events := by
  constructor
  · intro hcourse
    cases hcourse with
    | unstarted h => exact h
    | ended _ _ h => exact absurd rfl (isTerminal_of_verdict? h).1
  · exact .unstarted

lemma course_executing_iff :
    Course events executing ↔ ∃ before behind, events = before ++ .started :: behind ∧
      .started ∉ before ∧ ∀ event ∈ behind, event.verdict? = none := by
  constructor
  · intro hcourse
    cases hcourse with
    | unended hbefore hbehind => exact ⟨_, _, rfl, hbefore, hbehind⟩
    | ended _ _ h => exact absurd rfl (isTerminal_of_verdict? h).2
  · rintro ⟨before, behind, rfl, hbefore, hbehind⟩
    exact .unended hbefore hbehind

lemma course_terminal_iff (hterminal : status.IsTerminal) :
    Course events status ↔ ∃ before middle event behind,
      events = before ++ .started :: (middle ++ event :: behind) ∧ .started ∉ before ∧
      (∀ event ∈ middle, event.verdict? = none) ∧ event.verdict? = some status := by
  constructor
  · intro hcourse
    cases hcourse with
    | unstarted _ => exact absurd rfl hterminal.1
    | unended _ _ => exact absurd rfl hterminal.2
    | ended hbefore hmiddle h => exact ⟨_, _, _, _, rfl, hbefore, hmiddle, h⟩
  · rintro ⟨before, middle, event, behind, rfl, hbefore, hmiddle, h⟩
    exact .ended hbefore hmiddle h

/-- **A status only moves forward.**  Let a pending command be told of any events, in any order.

Each of them starts the command if it is pending, ends its execution if it is executing, and is refused
otherwise, with the status it came in; a refused event leaves that status as it was.  So the statuses
that are reported as reached are executing and one terminal status, or a front of these two, and they
are the path to the last status.

That is pending exactly if there was no start, and executing exactly if there was one and no end behind
the first.  Else it is the one that the first end behind the first start brought, whatever came before
that start, between the two, or later. -/
theorem moves_only_forward (events : List Event) :
    let answers := pending.processAll events
    let reports := answers.filterMap (·.1.reached?)
    let last := pending.after events
    answers.length = events.length ∧
    (∀ i : Fin events.length,
      let current := pending.after (events.take i)
      let next := pending.after (events.take (i.val + 1))
      (current = pending ∧ events[i] = .started ∧ next = executing ∧
        answers[i.val]? = some (.moved next, next)) ∨
      (current = executing ∧ events[i].verdict? = some next ∧
        answers[i.val]? = some (.moved next, next)) ∨
      (next = current ∧ answers[i.val]? = some (.refused current events[i], current))) ∧
    (∃ verdict : Status, verdict.IsTerminal ∧ reports <+: [executing, verdict]) ∧
    reports = last.path ∧
    (last = pending ↔ .started ∉ events) ∧
    (last = executing ↔ ∃ before behind, events = before ++ .started :: behind ∧
      .started ∉ before ∧ ∀ event ∈ behind, event.verdict? = none) ∧
    ∀ verdict : Status, verdict.IsTerminal →
      (last = verdict ↔ ∃ before middle event behind,
        events = before ++ .started :: (middle ++ event :: behind) ∧ .started ∉ before ∧
        (∀ event ∈ middle, event.verdict? = none) ∧ event.verdict? = some verdict) := by
  intro answers reports last
  have hreports : reports = last.path := (path_after pending events).symm
  refine ⟨length_processAll _ _, ?answer, ?reports, hreports, ?pending, ?executing, ?terminal⟩
  case answer =>
    intro i current next
    have hanswer : answers[i.val]? = some (current.process events[i]) := by
      rw [getElem?_processAll, List.getElem?_eq_getElem i.isLt]
      rfl
    have hnext : next = (current.process events[i]).2 := after_take_succ pending i
    rw [hanswer, hnext]
    rcases process_cases current events[i] with
      ⟨hcurrent, hevent, hprocess⟩ | ⟨hcurrent, verdict, hverdict, hprocess⟩ | hprocess
    · rw [hprocess]
      exact .inl ⟨hcurrent, hevent, rfl, rfl⟩
    · rw [hprocess]
      exact .inr (.inl ⟨hcurrent, hverdict, rfl⟩)
    · rw [hprocess]
      exact .inr (.inr ⟨rfl, rfl⟩)
  case reports =>
    rw [hreports]
    exact path_isPrefix last
  case pending => exact course_iff.symm.trans course_pending_iff
  case executing => exact course_iff.symm.trans course_executing_iff
  case terminal => exact fun verdict hterminal => course_iff.symm.trans (course_terminal_iff hterminal)

/-- Around an execution that overflows there are an end that comes too early, a start that comes twice,
and an end and a start that come too late. -/
theorem moves_only_forward_past_stray_events :
    let events : List Event :=
      [.completed, .started, .started, .failed .overflow, .completed, .started]
    pending.after events = ended .overflow ∧
      (pending.processAll events).filterMap (·.1.reached?) = [executing, ended .overflow] ∧
      (pending.processAll events)[2]? = some (.refused executing .started, executing) := by
  intro events
  obtain ⟨-, hanswer, -, hreports, -, -, hterminal⟩ := moves_only_forward events
  have hlast : pending.after events = ended .overflow :=
    (hterminal (ended .overflow) (by decide)).2
      ⟨[.completed], [.started], .failed .overflow, [.completed, .started], rfl, by decide, by decide,
        rfl⟩
  refine ⟨hlast, ?_, ?_⟩
  · rw [hreports, hlast]
    rfl
  · rcases hanswer ⟨2, by decide⟩ with ⟨hpending, -⟩ | ⟨-, hverdict, -⟩ | ⟨-, hrefused⟩
    · cases hpending
    · cases hverdict
    · exact hrefused

end FlightScript.Status
