import FlightScript.Proofs.Link.Reading
import Mathlib.Data.List.Pairwise
/-!
# Reads in line

The uplink has one receiving end, and reads wait in line for it.  Every reachable link has such a line
(`Line`, `Traffic.line_run`): the reads that wait, in the order in which they began, each with a ticket of its
own, and only the first may have the receiving end.  A read joins it when it begins, unless it is for a port
that is not served, and leaves it when it ends or is dropped (`Queue.LineTurn`); whatever else happens on the
link leaves the line alone.
-/

namespace FlightScript.Link

/-! ## Tickets -/

namespace Queue

lemma nextTicket_grantPlace (queue : Queue) : queue.grantPlace.nextTicket = queue.nextTicket := by
  unfold grantPlace
  split <;> rfl

lemma nextTicket_endWrite (queue : Queue) (ticket : Ticket) :
    (queue.endWrite ticket).nextTicket = queue.nextTicket := by
  unfold endWrite
  split
  · exact nextTicket_grantPlace _
  · rfl

lemma nextTicket_resumeWrite (queue : Queue) (now : Nat) (call : WriteCall) :
    (queue.resumeWrite now call).2.nextTicket = queue.nextTicket := by
  unfold resumeWrite
  split
  · exact nextTicket_endWrite _ _
  · split
    · rfl
    · split
      · exact nextTicket_endWrite _ _
      · rfl

lemma nextTicket_le_beginWrite (queue : Queue) (now : Nat) (packet : Packet) (timeout : Option Nat) :
    queue.nextTicket ≤ (queue.beginWrite now packet timeout).2.nextTicket := by
  unfold beginWrite
  split
  · exact Nat.le_refl _
  · split
    · exact Nat.le_refl _
    · simp only [nextTicket_resumeWrite]
      exact Nat.le_succ _

lemma nextTicket_receive (queue : Queue) : queue.receive.2.nextTicket = queue.nextTicket := by
  unfold receive
  split
  · split
    · rfl
    · exact nextTicket_grantPlace _
  · rfl

/-! ## One turn of a read -/

/-- What a turn of a read comes to for those in line: it ends and leaves the line, or it waits, where it was or
with the receiving end by now. -/
inductive LineTurn (queue : Queue) (now : Nat) (call : ReadCall) :
    Progress ReadCall (Option Bytes) × Queue → Prop where
  | ends {result : Option Bytes} {left : Queue}
      (hreaders : left.readers = queue.readers.erase call.ticket)
      (hnext : left.nextTicket = queue.nextTicket) : LineTurn queue now call (.ready result, left)
  | waits : LineTurn queue now call (.waiting call, queue)
  | receives {timeout : Option Nat} (hstage : call.stage = .queued timeout)
      (hfirst : queue.readers.head? = some call.ticket) :
    LineTurn queue now call (.waiting ⟨call.ticket, .receiving (timeout.map (now + ·))⟩, queue)

lemma lineTurn_resumeRead (queue : Queue) (now : Nat) (call : ReadCall) :
    queue.LineTurn now call (queue.resumeRead now call) := by
  obtain ⟨ticket, stage⟩ := call
  cases stage with
  | queued timeout =>
    simp only [resumeRead]
    split
    · next hfirst =>
      unfold receiveScript
      split
      · exact .ends rfl rfl
      · split
        · exact .ends rfl rfl
        · exact .receives rfl hfirst
    · exact .waits
  | receiving expiry =>
    simp only [resumeRead]
    unfold receiveScript
    split
    · exact .ends rfl rfl
    · split
      · exact .ends rfl rfl
      · exact .waits

/-- A queue with one more read in line. -/
def joined (queue : Queue) : Queue :=
  { queue with readers := queue.readers ++ [queue.nextTicket], nextTicket := queue.nextTicket + 1 }

/-- A read that begins joins the line and is tried at once. -/
lemma beginReadOn_telecommand (queue : Queue) (now : Nat) (timeout : Option Nat) :
    queue.beginReadOn now .telecommand timeout =
      queue.joined.resumeRead now ⟨queue.nextTicket, .queued timeout⟩ := by
  rw [beginReadOn, if_pos rfl]
  rfl

end Queue

/-! ## The line -/

/-- The ticket of a read that waits. -/
def Reading.ticket? (reading : Reading) : Option Ticket :=
  match reading.fate with
  | .waits call => some call.ticket
  | _ => none

lemma Reading.exists_waits_of_ticket? {reading : Reading} {ticket : Ticket}
    (h : reading.ticket? = some ticket) : ∃ stage, reading.fate = .waits ⟨ticket, stage⟩ := by
  obtain ⟨request, buffer, fate⟩ := reading
  cases fate with
  | waits call => exact ⟨call.stage, by cases h; rfl⟩
  | ended | dropped => cases h

lemma Reading.ticket?_of_waits {reading : Reading} {call : ReadCall} (h : reading.fate = .waits call) :
    reading.ticket? = some call.ticket := by
  simp [ticket?, h]

/-- The reads in line are those that wait, in the order in which they began, each with a ticket of its own; and
the one that has the receiving end is the first. -/
structure Line (link : Queue) (calls : List Reading) : Prop where
  readers : link.readers = calls.filterMap Reading.ticket?
  nodup : link.readers.Nodup
  fresh : ∀ ticket ∈ link.readers, ticket < link.nextTicket
  first : ∀ reading ∈ calls, ∀ {ticket expiry},
    reading.fate = .waits ⟨ticket, .receiving expiry⟩ → link.readers.head? = some ticket

namespace Line

variable {link left : Queue} {calls front back : List Reading} {old new : Reading} {call : ReadCall}
  {now : Nat}

/-- Whatever leaves the reads alone. -/
lemma congr (h : Line link calls) (hreaders : left.readers = link.readers)
    (hnext : link.nextTicket ≤ left.nextTicket) : Line left calls := by
  refine ⟨hreaders.trans h.readers, hreaders ▸ h.nodup, fun ticket hticket => ?_, ?_⟩
  · exact Nat.lt_of_lt_of_le (h.fresh ticket (hreaders ▸ hticket)) hnext
  · rw [hreaders]
    exact h.first

/-- No two reads in line have the same ticket. -/
lemma eq_of_ticket (h : Line link calls) {a b : Reading} (ha : a ∈ calls) (hb : b ∈ calls)
    {ticket : Ticket} (hat : a.ticket? = some ticket) (hbt : b.ticket? = some ticket) : a = b := by
  have hnodup := h.nodup
  rw [h.readers, List.Nodup, List.pairwise_filterMap] at hnodup
  let Same (a b : Reading) : Prop := a.ticket? = some ticket → b.ticket? = some ticket → a = b
  have hsymm : Std.Symm Same := ⟨fun _ _ hab hb ha => (hab ha hb).symm⟩
  have hsame : calls.Pairwise Same := hnodup.imp fun hne ha hb => absurd rfl (hne _ ha _ hb)
  exact hsame.forall_of_forall (fun _ _ _ _ => rfl) ha hb hat hbt

/-- A read joins the line behind all others. -/
lemma join (h : Line link calls) {timeout : Option Nat}
    (hnew : new.fate = .waits ⟨link.nextTicket, .queued timeout⟩) :
    Line link.joined (calls ++ [new]) := by
  refine ⟨?_, ?_, fun ticket hticket => ?_, fun reading hmem ticket expiry hwaits => ?_⟩
  · simp [Queue.joined, h.readers, Reading.ticket?_of_waits hnew]
  · simpa [Queue.joined, List.nodup_append, h.nodup] using fun ticket hticket =>
      Nat.ne_of_lt (h.fresh ticket hticket)
  · obtain hold | rfl := List.mem_append.1 hticket |>.imp_right List.mem_singleton.1
    · exact Nat.lt_succ_of_lt (h.fresh ticket hold)
    · exact Nat.lt_succ_self _
  · obtain hold | rfl := List.mem_append.1 hmem |>.imp_right List.mem_singleton.1
    · have hfirst := h.first reading hold hwaits
      simp [Queue.joined, List.head?_append, hfirst]
    · rw [hnew] at hwaits
      cases hwaits

/-- A read that does not wait is not in line. -/
lemma outside (h : Line link calls) (hnew : new.ticket? = none) : Line link (calls ++ [new]) := by
  refine ⟨?_, h.nodup, h.fresh, fun reading hmem ticket expiry hwaits => ?_⟩
  · simp [h.readers, hnew]
  · obtain hold | rfl := List.mem_append.1 hmem |>.imp_right List.mem_singleton.1
    · exact h.first reading hold hwaits
    · cases hnew.symm.trans (Reading.ticket?_of_waits hwaits)

/-- A read leaves the line. -/
lemma leave (h : Line link (front ++ old :: back)) (hold : old.fate = .waits call)
    (hnew : new.ticket? = none) (hreaders : left.readers = link.readers.erase call.ticket)
    (hnext : left.nextTicket = link.nextTicket) : Line left (front ++ new :: back) := by
  have hsplit : link.readers =
      front.filterMap Reading.ticket? ++ call.ticket :: back.filterMap Reading.ticket? := by
    simp [h.readers, Reading.ticket?_of_waits hold]
  have hnodup := h.nodup
  have hleft : left.readers = (front ++ new :: back).filterMap Reading.ticket? := by
    rw [hsplit] at hnodup
    have hfront : call.ticket ∉ front.filterMap Reading.ticket? := fun hmem =>
      (List.nodup_append.1 hnodup).2.2 _ hmem _ (List.mem_cons_self ..) rfl
    rw [hreaders, hsplit, List.erase_append_right _ hfront, List.erase_cons_head]
    simp [hnew]
  refine ⟨hleft, ?_, fun ticket hticket => ?_, fun reading hmem ticket expiry hwaits => ?_⟩
  · rw [hreaders]
    exact hnodup.erase _
  · rw [hnext]
    exact h.fresh ticket (List.mem_of_mem_erase (hreaders ▸ hticket))
  · -- a read that is still in line has another ticket than the one that left
    have hticket := Reading.ticket?_of_waits hwaits
    have hin : ticket ∈ left.readers := hleft ▸ List.mem_filterMap.2 ⟨reading, hmem, hticket⟩
    have hne : ticket ≠ call.ticket := by
      rintro rfl
      rw [hreaders] at hin
      exact hnodup.not_mem_erase hin
    have hstays : reading ∈ front ++ old :: back := by
      simp only [List.mem_append, List.mem_cons] at hmem ⊢
      obtain hmem | rfl | hmem := hmem
      · exact .inl hmem
      · cases hnew.symm.trans hticket
      · exact .inr (.inr hmem)
    have hfirst := h.first reading hstays hwaits
    cases hlist : link.readers with
    | nil => simp [hlist] at hfirst
    | cons first rest =>
      obtain rfl : first = ticket := by simpa [hlist] using hfirst
      rw [hreaders, hlist, List.erase_cons_tail (by simpa using hne)]
      rfl

/-- A read waits on, or has the receiving end now. -/
lemma stay (h : Line link (front ++ old :: back)) (hold : old.ticket? = new.ticket?)
    (hfirst : ∀ {ticket expiry}, new.fate = .waits ⟨ticket, .receiving expiry⟩ →
      link.readers.head? = some ticket) : Line link (front ++ new :: back) := by
  refine ⟨?_, h.nodup, h.fresh, fun reading hmem => ?_⟩
  · rw [h.readers, List.filterMap_append, List.filterMap_append, List.filterMap_cons,
      List.filterMap_cons, hold]
  · simp only [List.mem_append, List.mem_cons] at hmem
    obtain hmem | rfl | hmem := hmem
    · exact h.first reading (by simp [hmem])
    · exact hfirst
    · exact h.first reading (by simp [hmem])

/-- A turn of a read in line. -/
lemma turn (h : Line link (front ++ old :: back)) (hold : old.fate = .waits call)
    {progress : Progress ReadCall (Option Bytes)} (hturn : link.LineTurn now call (progress, left))
    (request : ReadRequest) (buffer : Bytes) :
    Line left (front ++ .ofTurn request buffer progress :: back) := by
  have hticket := Reading.ticket?_of_waits hold
  cases hturn with
  | ends hreaders hnext => exact h.leave hold rfl hreaders hnext
  | waits =>
    refine h.stay hticket fun {ticket expiry} hwaits => ?_
    exact h.first old (by simp) (hold.trans hwaits)
  | receives hstage hfirst =>
    refine h.stay hticket fun {ticket expiry} hwaits => ?_
    cases hwaits
    exact hfirst

end Line

/-! ## Turns of reads -/

namespace Traffic

variable {traffic : Traffic} {event : Event} {events : List Event} {i n : Nat} {reading : Reading}
  {link : Queue}

/-- **A turn of a read keeps the line.** -/
lemma TurnOfRead.line (hturn : traffic.TurnOfRead i reading link)
    (h : Line traffic.link traffic.reads.calls) (items : List Bytes) :
    Line link (traffic.reads.enter i reading items).calls := by
  cases hturn with
  | begins buffer port timeout =>
    rw [Ledger.calls_enter_length]
    by_cases hport : port = .telecommand
    · subst hport
      let request : ReadRequest := ⟨.telecommand, timeout, traffic.now, buffer⟩
      let joining : Reading := ⟨request, buffer, .waits ⟨traffic.link.nextTicket, .queued timeout⟩⟩
      have hline : Line traffic.link.joined (traffic.reads.calls ++ [joining]) := h.join rfl
      rw [Queue.beginReadOn_telecommand]
      exact hline.turn rfl (Queue.lineTurn_resumeRead _ _ _) request buffer
    · rw [Queue.beginReadOn, if_neg hport]
      exact h.outside rfl
  | @goesOn _ request buffer call hwaits =>
    have hline := Ledger.calls_eq_of_getElem? hwaits ▸ h
    exact hline.turn rfl (Queue.lineTurn_resumeRead _ _ _) request buffer
  | dropped hwaits =>
    have hline := Ledger.calls_eq_of_getElem? hwaits ▸ h
    exact hline.leave rfl rfl rfl rfl

/-! ## Every reachable link has a line -/

lemma TurnOfWrite.nextTicket_le {writing : Writing} (h : traffic.TurnOfWrite i writing link) :
    traffic.link.nextTicket ≤ link.nextTicket := by
  cases h with
  | begins packet timeout => apply Queue.nextTicket_le_beginWrite
  | goesOn hwaits => exact Nat.le_of_eq (Queue.nextTicket_resumeWrite ..).symm
  | dropped hwaits => exact Nat.le_of_eq (Queue.nextTicket_endWrite ..).symm

lemma line_stepAboard (h : Line traffic.link traffic.reads.calls) (deed : Aboard) :
    Line (traffic.stepAboard deed).link (traffic.stepAboard deed).reads.calls := by
  have hafter := traffic.byAboard deed
  generalize traffic.stepAboard deed = after at hafter
  cases hafter with
  | nothing | time => exact h
  | read hturn => exact hturn.line h _
  | write hturn => exact h.congr hturn.writesOnly.readers hturn.nextTicket_le

lemma line_stepGround (h : Line traffic.link traffic.reads.calls) (deed : Ground) :
    Line (traffic.stepGround deed).link (traffic.stepGround deed).reads.calls := by
  cases deed with
  | setInRange => exact h.congr rfl (Nat.le_refl _)
  | receive =>
    exact h.congr traffic.link.downlinkOnly_receive.readers
      (Nat.le_of_eq traffic.link.nextTicket_receive.symm)
  | insert script =>
    simp only [stepGround, Queue.insert]
    split <;> exact h.congr rfl (Nat.le_refl _)
  | takeDownlink =>
    simp only [stepGround, Queue.takeDownlink]
    split <;> exact h.congr rfl (Nat.le_refl _)
  | dropDownlink =>
    simp only [stepGround, Queue.dropDownlink]
    split <;> exact h.congr rfl (Nat.le_refl _)

lemma line_step (h : Line traffic.link traffic.reads.calls) (event : Event) :
    Line (traffic.step event).link (traffic.step event).reads.calls := by
  cases event with
  | aboard deed => exact line_stepAboard h deed
  | ground deed => exact line_stepGround h deed

lemma line_run (depth : Nat) (events : List Event) :
    Line (run { link := { depth } } events).link (run { link := { depth } } events).reads.calls :=
  run_induction (P := fun traffic => Line traffic.link traffic.reads.calls)
    ⟨rfl, List.nodup_nil, by simp, by simp⟩ line_step events

/-! ## What a read was asked for stays -/

/-- The requests of the reads that have begun are there, in their order. -/
def KeepsRequests (before after : Traffic) : Prop :=
  before.reads.calls.map (·.request) <+: after.reads.calls.map (·.request)

lemma TurnOfRead.keepsRequests (h : traffic.TurnOfRead i reading link) :
    KeepsRequests traffic (traffic.afterRead i reading link) := by
  unfold KeepsRequests afterRead
  cases h with
  | begins =>
    rw [Ledger.calls_enter_length, List.map_append]
    exact List.prefix_append _ _
  | @goesOn _ request buffer call hwaits =>
    conv_lhs => rw [Ledger.calls_eq_of_getElem? hwaits]
    simp [Ledger.enter, Reading.request_ofTurn]
  | dropped hwaits =>
    conv_lhs => rw [Ledger.calls_eq_of_getElem? hwaits]
    simp [Ledger.enter]

lemma keepsRequests_step (traffic : Traffic) (event : Event) :
    KeepsRequests traffic (traffic.step event) := by
  cases event with
  | ground deed => cases deed <;> exact List.prefix_rfl
  | aboard deed =>
    have hafter := traffic.byAboard deed
    show KeepsRequests traffic (traffic.stepAboard deed)
    generalize traffic.stepAboard deed = after at hafter
    cases hafter with
    | nothing | time | write => exact List.prefix_rfl
    | read hturn => exact hturn.keepsRequests

lemma keepsRequests_run (traffic : Traffic) (events : List Event) :
    KeepsRequests traffic (traffic.run events) :=
  run_induction List.prefix_rfl (fun h event => h.trans (keepsRequests_step _ event)) events

/-- A read that has begun is there at any later time. -/
lemma exists_reading_run {reading : Reading} (hreading : traffic.reads.calls[i]? = some reading)
    (events : List Event) :
    ∃ later, (traffic.run events).reads.calls[i]? = some later ∧ later.request = reading.request := by
  obtain ⟨more, hmore⟩ := keepsRequests_run traffic events
  have hrequest : (traffic.reads.calls.map (·.request))[i]? = some reading.request := by
    simp [hreading]
  have hlater : ((traffic.run events).reads.calls.map (·.request))[i]? = some reading.request := by
    rw [← hmore]
    exact List.getElem?_append_left (List.getElem?_eq_some_iff.1 hrequest).1 |>.trans hrequest
  simpa using hlater

/-! ## Who is first -/

/-- While a read waits, there is one among it and those before it that has the receiving end. -/
lemma exists_first (h : Line traffic.link traffic.reads.calls)
    (hreading : traffic.reads.calls[i]? = some reading) (hwaits : ¬ reading.fate.IsOver) :
    ∃ first ∈ traffic.reads.calls.take (i + 1), ∃ call, first.fate = .waits call ∧
      traffic.link.readers.head? = some call.ticket := by
  have hmem : reading ∈ traffic.reads.calls.take (i + 1) := by
    obtain ⟨hi, rfl⟩ := List.getElem?_eq_some_iff.1 hreading
    exact List.mem_take_iff_getElem.2 ⟨i, by omega, rfl⟩
  obtain ⟨call, hcall⟩ : ∃ call, reading.fate = .waits call := by
    cases hfate : reading.fate with
    | waits call => exact ⟨call, rfl⟩
    | ended | dropped => simp [hfate, Fate.IsOver] at hwaits
  have hticket : call.ticket ∈ (traffic.reads.calls.take (i + 1)).filterMap Reading.ticket? :=
    List.mem_filterMap.2 ⟨reading, hmem, Reading.ticket?_of_waits hcall⟩
  have hsplit := h.readers
  rw [← List.take_append_drop (i + 1) traffic.reads.calls, List.filterMap_append] at hsplit
  cases hfront : (traffic.reads.calls.take (i + 1)).filterMap Reading.ticket? with
  | nil => simp [hfront] at hticket
  | cons ticket rest =>
    obtain ⟨first, hfirst, hof⟩ := List.mem_filterMap.1 (hfront ▸ List.mem_cons_self ..)
    obtain ⟨stage, hstage⟩ := Reading.exists_waits_of_ticket? hof
    exact ⟨first, hfirst, _, hstage, by simp [hsplit, hfront]⟩

/-- A read that begins while somebody is in line waits behind. -/
lemma step_read_behind {ticket : Ticket} (h : Line traffic.link traffic.reads.calls)
    (hhead : traffic.link.readers.head? = some ticket) (buffer : Bytes) (timeout : Option Nat) :
    let request : ReadRequest := ⟨.telecommand, timeout, traffic.now, buffer⟩
    let after := traffic.step (.aboard (.read buffer .telecommand timeout))
    after.link = traffic.link.joined ∧ after.reads.calls = traffic.reads.calls ++
      [⟨request, buffer, .waits ⟨traffic.link.nextTicket, .queued timeout⟩⟩] := by
  intro request after
  have hmem : ticket ∈ traffic.link.readers := List.mem_of_mem_head? hhead
  have hne : traffic.link.joined.readers.head? ≠ some traffic.link.nextTicket := by
    have hlt := h.fresh ticket hmem
    simpa [Queue.joined, List.head?_append, hhead] using Nat.ne_of_lt hlt
  have hwaits : traffic.link.beginReadOn traffic.now .telecommand timeout =
      (.waiting ⟨traffic.link.nextTicket, .queued timeout⟩, traffic.link.joined) := by
    simp [Queue.beginReadOn_telecommand, Queue.resumeRead, hne]
  have hafter : after = traffic.afterRead traffic.reads.calls.length
      ⟨request, buffer, .waits ⟨traffic.link.nextTicket, .queued timeout⟩⟩ traffic.link.joined := by
    simp only [after, step, stepAboard, hwaits]
    rfl
  rw [hafter]
  exact ⟨rfl, Ledger.calls_enter_length ..⟩

end Traffic

end FlightScript.Link
