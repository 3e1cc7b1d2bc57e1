import FlightScript.Proofs.Link.Line
import Mathlib.Data.ENat.Basic
import Mathlib.Algebra.Order.BigOperators.Group.List
/-!
# How long a read waits

The time limit of a read counts from the moment it has the receiving end.  So how long it waits depends on those
before it in line, and it is over no later than when they and it have used up all the time they have left
(`timeLeft`), one after another.  A read that is alone keeps its own limit; one behind a read without a limit may
wait for ever.

Nothing of this could be said of a link whose reads are not tried again in time.  So runs are `Traffic.Prompt`
here, which lets no time go by while a read could get any further.

What carries the proof is that while a read waits, the time by which all before it and it are over is never put
off (`Traffic.add_timeLeft_step_le`): time goes by only while the first in line has the receiving end, and then
it is the time of this read that is used up.
-/

namespace FlightScript.Link

/-! ## Time limits -/

/-- A time limit as a span of time: without one, for ever. -/
def span : Option Nat → ℕ∞
  | none => ⊤
  | some milliseconds => milliseconds

/-- How much of its time a read that waits has left, once it has the receiving end.  Until then that is all. -/
def Reading.timeLeft (now : Nat) (reading : Reading) : ℕ∞ :=
  match reading.fate with
  | .waits ⟨_, .queued timeout⟩ => span timeout
  | .waits ⟨_, .receiving expiry⟩ => span (expiry.map (· - now))
  | _ => 0

/-- The time that some reads have left, one after another. -/
def timeLeft (now : Nat) (calls : List Reading) : ℕ∞ :=
  (calls.map (Reading.timeLeft now)).sum

lemma Reading.timeLeft_of_isOver {reading : Reading} (h : reading.fate.IsOver) (now : Nat) :
    reading.timeLeft now = 0 := by
  obtain ⟨request, buffer, fate⟩ := reading
  cases fate with
  | waits call => cases h
  | ended | dropped => rfl

/-- No read has more time left later. -/
lemma Reading.timeLeft_mono (reading : Reading) {now later : Nat} (hle : now ≤ later) :
    reading.timeLeft later ≤ reading.timeLeft now := by
  obtain ⟨request, buffer, fate⟩ := reading
  cases fate with
  | waits call =>
    obtain ⟨ticket, stage⟩ := call
    cases stage with
    | queued timeout => exact le_rfl
    | receiving expiry =>
      cases expiry with
      | none => exact le_rfl
      | some limit => exact Nat.cast_le.2 (Nat.sub_le_sub_left hle limit)
  | ended | dropped => exact le_rfl

/-- A turn of a read gives it no more time. -/
lemma Queue.LineTurn.timeLeft_le {queue : Queue} {now : Nat} {call : ReadCall}
    {turn : Progress ReadCall (Option Bytes) × Queue} (h : queue.LineTurn now call turn)
    (old : Reading) (hold : old.fate = .waits call) (request : ReadRequest) (buffer : Bytes) :
    (Reading.ofTurn request buffer turn.1).timeLeft now ≤ old.timeLeft now := by
  obtain ⟨request', buffer', fate⟩ := old
  obtain rfl : fate = .waits call := hold
  cases h with
  | ends => exact zero_le
  | waits => exact le_rfl
  | @receives timeout hstage hfirst =>
    obtain ⟨ticket, stage⟩ := call
    obtain rfl : stage = .queued timeout := hstage
    cases timeout with
    | none => exact le_rfl
    | some limit => exact Nat.cast_le.2 (Nat.add_sub_cancel_left ..).le

variable {now ms n : Nat} {front back calls : List Reading} {old new : Reading}

lemma timeLeft_append (now : Nat) (front back : List Reading) :
    timeLeft now (front ++ back) = timeLeft now front + timeLeft now back := by
  simp [timeLeft]

lemma timeLeft_cons (now : Nat) (reading : Reading) (calls : List Reading) :
    timeLeft now (reading :: calls) = reading.timeLeft now + timeLeft now calls := by
  simp [timeLeft]

/-- Where one read is replaced by one with no more time, there is no more time left. -/
lemma timeLeft_take_le (h : new.timeLeft now ≤ old.timeLeft now) (n : Nat) :
    timeLeft now ((front ++ new :: back).take n) ≤ timeLeft now ((front ++ old :: back).take n) := by
  rw [List.take_append, List.take_append, timeLeft_append, timeLeft_append]
  cases n - front.length with
  | zero => exact le_rfl
  | succ m =>
    rw [List.take_succ_cons, List.take_succ_cons, timeLeft_cons, timeLeft_cons]
    gcongr

/-- While one of some reads has its time running, so have they together. -/
lemma timeLeft_add_le (hmem : new ∈ calls) (h : new.timeLeft (now + ms) + ms ≤ new.timeLeft now) :
    timeLeft (now + ms) calls + ms ≤ timeLeft now calls := by
  obtain ⟨front, back, rfl⟩ := List.append_of_mem hmem
  have hle : now ≤ now + ms := Nat.le_add_right _ _
  have hmono (calls : List Reading) : timeLeft (now + ms) calls ≤ timeLeft now calls :=
    List.sum_le_sum fun reading _ => reading.timeLeft_mono hle
  rw [timeLeft_append, timeLeft_append, timeLeft_cons, timeLeft_cons]
  calc
    _ = timeLeft (now + ms) front + (new.timeLeft (now + ms) + ms + timeLeft (now + ms) back) := by
      ac_rfl
    _ ≤ timeLeft now front + (new.timeLeft now + timeLeft now back) := by
      gcongr
      · exact hmono front
      · exact hmono back

/-! ## Time goes by -/

/-- A read is over, or it would get no further if it were tried at that moment. -/
def Reading.rests (link : Queue) (moment : Nat) (reading : Reading) : Bool :=
  match reading.fate with
  | .waits call => !link.readReady moment call
  | _ => true

namespace Traffic

variable {traffic : Traffic} {event : Event} {events : List Event} {i n : Nat} {reading : Reading}
  {link : Queue}

/-- Time goes by only while no read could get any further. -/
def Allows (traffic : Traffic) : Event → Prop
  | .aboard (.pass milliseconds) => ∀ elapsed < milliseconds, ∀ reading ∈ traffic.reads.calls,
      reading.rests traffic.link (traffic.now + elapsed)
  | _ => True

instance decidableAllows (traffic : Traffic) : (event : Event) → Decidable (traffic.Allows event)
  | .aboard (.pass milliseconds) =>
    inferInstanceAs (Decidable (∀ elapsed < milliseconds, ∀ reading ∈ traffic.reads.calls, _))
  | .aboard (.read ..) | .aboard (.resumeRead _) | .aboard (.dropRead _) | .aboard (.write ..)
  | .aboard (.resumeWrite _) | .aboard (.dropWrite _) | .ground _ => isTrue trivial

/-- Reads are tried again as soon as they can get any further. -/
def Prompt : Traffic → List Event → Prop
  | _, [] => True
  | traffic, event :: events => traffic.Allows event ∧ Prompt (traffic.step event) events

instance decidablePrompt : (traffic : Traffic) → (events : List Event) →
    Decidable (traffic.Prompt events)
  | _, [] => isTrue trivial
  | traffic, event :: events =>
    have := decidablePrompt (traffic.step event) events
    inferInstanceAs (Decidable (_ ∧ _))

/-- The read that has the receiving end gives up before its time is over only if it is tried again, so as long
as it rests its time runs. -/
lemma timeLeft_add_le_of_rests {first : Reading} {call : ReadCall} {now ms : Nat} {link : Queue}
    (hcall : first.fate = .waits call) (hfirst : link.readers.head? = some call.ticket)
    (hrests : ∀ elapsed < ms, first.rests link (now + elapsed)) (hms : 0 < ms) :
    first.timeLeft (now + ms) + ms ≤ first.timeLeft now := by
  obtain ⟨request, buffer, fate⟩ := first
  obtain ⟨ticket, stage⟩ := call
  obtain rfl : fate = .waits ⟨ticket, stage⟩ := hcall
  cases stage with
  | queued timeout =>
    have hrest := hrests 0 hms
    simp [Reading.rests, Queue.readReady, hfirst] at hrest
  | receiving expiry =>
    cases expiry with
    | none => exact le_top
    | some limit =>
      have hrest := hrests (ms - 1) (by omega)
      have hlimit : now + (ms - 1) < limit := by
        simp [Reading.rests, Queue.readReady, expired] at hrest
        exact hrest.2
      show ((limit - (now + ms) : Nat) : ℕ∞) + ms ≤ ((limit - now : Nat) : ℕ∞)
      norm_cast
      omega

/-- A turn of a read gives those that have begun no more time. -/
lemma TurnOfRead.timeLeft_take_le (hturn : traffic.TurnOfRead i reading link)
    (hn : n ≤ traffic.reads.calls.length) (items : List Bytes) :
    timeLeft traffic.now ((traffic.reads.enter i reading items).calls.take n) ≤
      timeLeft traffic.now (traffic.reads.calls.take n) := by
  cases hturn with
  | begins =>
    rw [Ledger.calls_enter_length, List.take_append_of_le_length hn]
  | @goesOn _ request buffer call hwaits =>
    have hturn := traffic.link.lineTurn_resumeRead traffic.now call
    have hle := hturn.timeLeft_le ⟨request, buffer, .waits call⟩ rfl request buffer
    have hcalls := Ledger.calls_eq_of_getElem? hwaits
    conv_rhs => rw [hcalls]
    exact Link.timeLeft_take_le hle n
  | dropped hwaits =>
    have hcalls := Ledger.calls_eq_of_getElem? hwaits
    conv_rhs => rw [hcalls]
    exact Link.timeLeft_take_le zero_le n

/-- Only what lets time go by changes the clock. -/
lemma pass_or_now_stepAboard (traffic : Traffic) (deed : Aboard) :
    (∃ milliseconds, deed = .pass milliseconds) ∨ (traffic.stepAboard deed).now = traffic.now := by
  cases deed with
  | pass milliseconds => exact .inl ⟨milliseconds, rfl⟩
  | read | write => exact .inr rfl
  | resumeRead i | dropRead i | resumeWrite i | dropWrite i =>
    refine .inr ?_
    simp only [stepAboard]
    split <;> rfl

/-- At one moment, nothing that happens aboard gives those reads that have begun more time. -/
lemma ByAboard.timeLeft_take_le {after : Traffic} (h : traffic.ByAboard after)
    (hnow : after.now = traffic.now) (hn : n ≤ traffic.reads.calls.length) :
    timeLeft traffic.now (after.reads.calls.take n) ≤
      timeLeft traffic.now (traffic.reads.calls.take n) := by
  cases h with
  | nothing | time | write => exact le_rfl
  | read hturn => exact hturn.timeLeft_take_le hn _

/-- **While a read waits, no event puts off the time by which it is over.** -/
lemma add_timeLeft_step_le (h : Line traffic.link traffic.reads.calls) (hallows : traffic.Allows event)
    (hreading : traffic.reads.calls[i]? = some reading) (hwaits : ¬ reading.fate.IsOver) :
    ((traffic.step event).now : ℕ∞) +
        timeLeft (traffic.step event).now ((traffic.step event).reads.calls.take (i + 1)) ≤
      traffic.now + timeLeft traffic.now (traffic.reads.calls.take (i + 1)) := by
  cases event with
  | ground deed => cases deed <;> exact le_rfl
  | aboard deed =>
    obtain ⟨ms, rfl⟩ | hnow := traffic.pass_or_now_stepAboard deed
    · obtain rfl | hms := Nat.eq_zero_or_pos ms
      · exact le_rfl
      · obtain ⟨first, hmem, call, hcall, hfirst⟩ := exists_first h hreading hwaits
        have hrests (elapsed : Nat) (hlt : elapsed < ms) :=
          hallows elapsed hlt first (List.mem_of_mem_take hmem)
        have hruns := timeLeft_add_le hmem (timeLeft_add_le_of_rests hcall hfirst hrests hms)
        calc
          ((traffic.now + ms : Nat) : ℕ∞) +
              timeLeft (traffic.now + ms) (traffic.reads.calls.take (i + 1))
            = traffic.now + (timeLeft (traffic.now + ms) (traffic.reads.calls.take (i + 1)) + ms) := by
              push_cast
              ac_rfl
          _ ≤ traffic.now + timeLeft traffic.now (traffic.reads.calls.take (i + 1)) := by gcongr
    · have hi : i + 1 ≤ traffic.reads.calls.length := (List.getElem?_eq_some_iff.1 hreading).1
      have hle := (traffic.byAboard deed).timeLeft_take_le hnow hi
      show ((traffic.stepAboard deed).now : ℕ∞) + timeLeft (traffic.stepAboard deed).now _ ≤ _
      rw [hnow]
      gcongr
      exact hle

/-- **A read is over by the time at which those before it and it have used up all the time they had left.** -/
lemma now_run_le {last : Reading} (h : Line traffic.link traffic.reads.calls)
    (hprompt : traffic.Prompt events) (hi : i < traffic.reads.calls.length)
    (hlast : (traffic.run events).reads.calls[i]? = some last) (hwaits : ¬ last.fate.IsOver) :
    ((traffic.run events).now : ℕ∞) ≤
      traffic.now + timeLeft traffic.now (traffic.reads.calls.take (i + 1)) := by
  induction events generalizing traffic with
  | nil => exact le_self_add
  | cons event events ih =>
    have hreading := List.getElem?_eq_getElem hi
    have hopen : ¬ traffic.reads.calls[i].fate.IsOver := fun hover => by
      have hkept := ((keepsWhatIsOver_run traffic (event :: events)).reads.kept hreading hover).1
      obtain rfl := Option.some.inj (hkept.symm.trans hlast)
      exact hwaits hover
    obtain ⟨later, hlater, -⟩ := exists_reading_run hreading [event]
    calc
      ((traffic.run (event :: events)).now : ℕ∞)
        ≤ (traffic.step event).now +
            timeLeft (traffic.step event).now ((traffic.step event).reads.calls.take (i + 1)) :=
          ih (line_step h event) hprompt.2 (List.getElem?_eq_some_iff.1 hlater).1 hlast
      _ ≤ traffic.now + timeLeft traffic.now (traffic.reads.calls.take (i + 1)) :=
          add_timeLeft_step_le h hprompt.1 hreading hopen

/-! ## A read that begins -/

/-- A read that begins is the last one, and has no more time left than its limit. -/
lemma exists_step_read (traffic : Traffic) (buffer : Bytes) (timeout : Option Nat) :
    ∃ reading : Reading, reading.request = ⟨.telecommand, timeout, traffic.now, buffer⟩ ∧
      reading.timeLeft traffic.now ≤ span timeout ∧
      (traffic.step (.aboard (.read buffer .telecommand timeout))).reads.calls =
        traffic.reads.calls ++ [reading] := by
  let request : ReadRequest := ⟨.telecommand, timeout, traffic.now, buffer⟩
  let joining : Reading := ⟨request, buffer, .waits ⟨traffic.link.nextTicket, .queued timeout⟩⟩
  have hturn := Queue.lineTurn_resumeRead traffic.link.joined traffic.now
    ⟨traffic.link.nextTicket, .queued timeout⟩
  rw [← Queue.beginReadOn_telecommand] at hturn
  exact ⟨.ofTurn request buffer (traffic.link.beginReadOn traffic.now .telecommand timeout).1,
    Reading.request_ofTurn .., hturn.timeLeft_le joining rfl request buffer,
    Ledger.calls_enter_length ..⟩

/-- With nobody in line no time is left. -/
lemma timeLeft_of_readers_nil (h : Line traffic.link traffic.reads.calls)
    (hreaders : traffic.link.readers = []) : timeLeft traffic.now traffic.reads.calls = 0 := by
  have hnone := h.readers
  rw [hreaders, eq_comm, List.filterMap_eq_nil_iff] at hnone
  refine List.sum_eq_zero fun left hleft => ?_
  obtain ⟨reading, hmem, rfl⟩ := List.mem_map.1 hleft
  refine Reading.timeLeft_of_isOver ?_ traffic.now
  have hticket := hnone reading hmem
  cases hfate : reading.fate with
  | waits call => simp [Reading.ticket?_of_waits hfate] at hticket
  | ended | dropped => trivial

/-- Behind a read that has the receiving end without a time limit, everybody rests until there is a script. -/
lemma rests_behind {first : Reading} {ticket : Ticket} (h : Line traffic.link traffic.reads.calls)
    (hmem : first ∈ traffic.reads.calls) (hfirst : first.fate = .waits ⟨ticket, .receiving none⟩)
    (hempty : traffic.link.uplink = []) (hreading : reading ∈ traffic.reads.calls) (moment : Nat) :
    reading.rests traffic.link moment := by
  have hhead := h.first first hmem hfirst
  obtain ⟨request, buffer, fate⟩ := reading
  cases fate with
  | ended | dropped => rfl
  | waits call =>
    -- whoever is first in line is the read that has the receiving end
    have hsame (heq : call.ticket = ticket) : Fate.waits call = first.fate :=
      congrArg (·.fate) (h.eq_of_ticket hreading hmem (Reading.ticket?_of_waits rfl)
        (heq ▸ Reading.ticket?_of_waits hfirst))
    obtain ⟨ticket', stage⟩ := call
    cases stage with
    | queued limit =>
      have hne : ticket' ≠ ticket := fun heq => by cases (hsame heq).trans hfirst
      simpa [Reading.rests, Queue.readReady, hhead] using hne.symm
    | receiving expiry =>
      have hhead' := h.first _ hreading rfl
      have heq : ticket' = ticket := Option.some.inj (hhead'.symm.trans hhead)
      cases (hsame heq).trans hfirst
      simp [Reading.rests, Queue.readReady, hempty, expired]

/-- **A read is over in time when no other is under way.**  If reads are tried again as soon as they can get any
further, a read with a time limit that begins with nobody in line is over once the limit has passed, and has
brought a packet, or nothing.  One that begins behind others is over once all that they have left of their time,
and its own limit after that, have passed.  Behind a read without a limit that has the receiving end of an empty
queue it waits however long, unless there is a script. -/
theorem read_in_time (depth : Nat) (events : List Event) (buffer : Bytes) (timeout : Option Nat) :
    let before := run { link := { depth } } events
    let begun := before.step (.aboard (.read buffer .telecommand timeout))
    let i := before.reads.calls.length
    (∀ later, begun.Prompt later →
      let last := begun.run later
      ∃ reading, last.reads.calls[i]? = some reading ∧
        reading.request = ⟨.telecommand, timeout, before.now, buffer⟩ ∧
        Reading.Did last.now reading (last.reads.movedBy i) ∧
        (∀ limit, timeout = some limit → before.link.readers = [] → before.now + limit < last.now →
          reading.fate.IsOver) ∧
        (before.now + timeLeft before.now before.reads.calls + span timeout < last.now →
          reading.fate.IsOver)) ∧
    ∀ first ∈ before.reads.calls, ∀ ticket, first.fate = .waits ⟨ticket, .receiving none⟩ →
      before.link.uplink = [] → ∀ milliseconds, begun.Prompt [.aboard (.pass milliseconds)] ∧
        ∃ reading, (begun.step (.aboard (.pass milliseconds))).reads.calls[i]? = some reading ∧
          reading.request = ⟨.telecommand, timeout, before.now, buffer⟩ ∧ ¬ reading.fate.IsOver := by
  intro before begun i
  have hline : Line before.link before.reads.calls := line_run depth events
  have hbegun : Line begun.link begun.reads.calls := line_step hline _
  refine ⟨fun later hprompt => ?_, fun first hmem ticket hfirst hempty ms => ?_⟩
  · intro last
    have hsound : last.UplinkSound depth := by
      have hrun := uplinkSound_run depth (events ++ .aboard (.read buffer .telecommand timeout) :: later)
      rwa [run_append] at hrun
    obtain ⟨new, hrequest, hlimit, hcalls⟩ := before.exists_step_read buffer timeout
    have hnew : begun.reads.calls[i]? = some new := by
      simp only [begun, hcalls, i, List.getElem?_concat_length]
    obtain ⟨reading, hreading, hkept⟩ := exists_reading_run hnew later
    have hover (hlate : before.now + timeLeft before.now before.reads.calls + span timeout < last.now) :
        reading.fate.IsOver := by
      by_contra hwaits
      have hi := (List.getElem?_eq_some_iff.1 hnew).1
      refine absurd hlate (not_lt.2 ?_)
      calc
        (last.now : ℕ∞) ≤ before.now + timeLeft before.now (begun.reads.calls.take (i + 1)) :=
          now_run_le hbegun hprompt hi hreading hwaits
        _ = before.now + timeLeft before.now before.reads.calls + new.timeLeft before.now := by
          simp [begun, hcalls, i, timeLeft, add_assoc]
        _ ≤ before.now + timeLeft before.now before.reads.calls + span timeout := by gcongr
    refine ⟨reading, hreading, hkept.trans hrequest, hsound.reads.calls hreading,
      fun limit htimeout hnobody hlate => hover ?_, hover⟩
    subst htimeout
    rw [timeLeft_of_readers_nil hline hnobody, add_zero]
    show (before.now : ℕ∞) + (limit : ℕ∞) < last.now
    exact_mod_cast hlate
  · obtain ⟨hlink, hjoined⟩ := step_read_behind hline (hline.first first hmem hfirst) buffer timeout
    have hstill : first ∈ begun.reads.calls := hjoined ▸ List.mem_append_left _ hmem
    have hnone : begun.link.uplink = [] := (congrArg (·.uplink) hlink).trans hempty
    refine ⟨⟨fun elapsed _ reading hreading => ?_, trivial⟩, _,
      (congrArg (·[i]?) hjoined).trans List.getElem?_concat_length, rfl, id⟩
    exact rests_behind hbegun hstill hfirst hnone hreading _

/-- A read of nine milliseconds: alone, behind one that has five left, and behind one without a limit. -/
theorem read_in_time_of_nine :
    let reads (timeouts : List (Option Nat)) : Traffic :=
      run { link := { depth := 1 } } (timeouts.map fun timeout => .aboard (.read [0] .telecommand timeout))
    let tryAll : List Event := [.aboard (.resumeRead 0), .aboard (.resumeRead 1)]
    let alone : List Event := .aboard (.pass 9) :: tryAll ++ [.aboard (.pass 1)]
    let behind : List Event := .aboard (.pass 5) :: tryAll ++ .aboard (.pass 9) :: tryAll ++ [.aboard (.pass 1)]
    (∃ reading, ((reads [some 9]).run alone).reads.calls[0]? = some reading ∧ reading.fate.IsOver) ∧
      (∃ reading, ((reads [some 5, some 9]).run behind).reads.calls[1]? = some reading ∧
        reading.fate.IsOver) ∧
      ∃ reading, ((reads [none, some 9]).run [.aboard (.pass 99)]).reads.calls[1]? = some reading ∧
        ¬ reading.fate.IsOver := by
  intro reads tryAll alone behind
  let first (timeout : Option Nat) : List Event := [.aboard (.read [0] .telecommand timeout)]
  obtain ⟨halone, -⟩ := read_in_time 1 [] [0] (some 9)
  obtain ⟨hbehind, -⟩ := read_in_time 1 (first (some 5)) [0] (some 9)
  obtain ⟨-, hnever⟩ := read_in_time 1 (first none) [0] (some 9)
  refine ⟨?_, ?_, ?_⟩
  · obtain ⟨reading, hreading, -, -, hover, -⟩ := halone alone (by decide)
    exact ⟨reading, hreading, hover 9 rfl rfl (by decide)⟩
  · obtain ⟨reading, hreading, -, -, -, hover⟩ := hbehind behind (by decide)
    refine ⟨reading, hreading, hover ?_⟩
    show ((0 : Nat) : ℕ∞) + (((5 : Nat) : ℕ∞) + 0) + ((9 : Nat) : ℕ∞) < ((15 : Nat) : ℕ∞)
    norm_cast
  · obtain ⟨-, reading, hreading, -, hwaits⟩ :=
      hnever ⟨⟨.telecommand, none, 0, [0]⟩, [0], .waits ⟨0, .receiving none⟩⟩ (by decide) 0 rfl rfl 99
    exact ⟨reading, hreading, hwaits⟩

/-- A read with a limit of twenty milliseconds, behind one without, after twenty-one. -/
theorem read_late_behind_unlimited :
    let before := run { link := { depth := 1 } } [.aboard (.read [] .telecommand none)]
    let later : List Event := [.aboard (.read [0, 0, 0, 0] .telecommand (some 20)), .aboard (.pass 21)]
    before.now + 20 < (before.run later).now ∧ before.Prompt later ∧
      (before.run later).reads.calls[1]?.map (·.fate) = some (.waits ⟨1, .queued (some 20)⟩) := by
  decide

end Traffic

end FlightScript.Link
