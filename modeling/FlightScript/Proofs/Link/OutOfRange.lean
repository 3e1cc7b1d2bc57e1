import FlightScript.Proofs.Link.Writing
/-!
# Writing out of range

A write looks at the range when it begins, and not again.  One that finds a place then is over at once, so that
whatever it puts on the downlink queue it puts there in range.  One that waits for a place is another matter:
the link may go out of range meanwhile, and still the write is carried out as soon as it is given a place and
goes on (`Traffic.HoldsPlace`).

So nothing is transmitted out of range in a run in which no write waits whenever the link goes out of range
(`Traffic.LosesRangeIdle`), because a write that begins out of range never comes to wait.
-/

namespace FlightScript.Link

/-- A call that has ended had its result. -/
lemma Fate.exists_ready_of_ended {ω : Type} {progress : Progress ω Nat}
    (h : ∃ count, ofProgress progress = .ended (count + 1)) : ∃ count, progress = .ready (count + 1) := by
  obtain ⟨count, h⟩ := h
  cases progress with
  | ready result => exact ⟨count, congrArg Progress.ready (Fate.ended.inj h)⟩
  | waiting call => cases h

/-! ## One turn of a write -/

namespace Queue

/-- A turn of a write transmits: it puts something on the downlink queue, or tells that octets were written. -/
def TurnTransmits (queue : Queue) (turn : Progress WriteCall Nat × Queue) : Prop :=
  turn.2.downlink ≠ queue.downlink ∨ ∃ count, turn.1 = .ready (count + 1)

/-- A write that begins out of range does not transmit. -/
lemma inRange_of_turnTransmits {queue : Queue} {now : Nat} {packet : Packet} {timeout : Option Nat}
    (h : queue.TurnTransmits (queue.beginWrite now packet timeout)) : queue.inRange = true := by
  by_contra hout
  have hadmits : queue.admits = false := by simp [admits, hout]
  rw [beginWrite_of_not_admits hadmits] at h
  obtain hmoved | ⟨count, htold⟩ := h
  · exact hmoved rfl
  · cases htold

/-- A write that goes on transmits only at a place that it was granted, and only while the queue is not given
up.  The range is not asked for. -/
lemma granted_of_turnTransmits {queue : Queue} {now : Nat} {call : WriteCall}
    (h : queue.TurnTransmits (queue.resumeWrite now call)) :
    queue.consumer ≠ .dropped ∧ call.ticket ∈ queue.granted := by
  by_contra hnot
  have hnothing {left : Queue} (hleft : left.downlink = queue.downlink) :
      ¬ queue.TurnTransmits (.ready 0, left) := by
    rintro (hmoved | ⟨count, htold⟩)
    · exact hmoved hleft
    · cases htold
  unfold resumeWrite at h
  by_cases hdropped : queue.consumer = .dropped
  · rw [if_pos hdropped] at h
    exact hnothing (queue.downlink_endWrite call.ticket) h
  · rw [if_neg hdropped, if_neg fun hgranted => hnot ⟨hdropped, hgranted⟩] at h
    split at h
    · exact hnothing (queue.downlink_endWrite call.ticket) h
    · obtain hmoved | ⟨count, htold⟩ := h
      · exact hmoved rfl
      · cases htold

end Queue

/-! ## One event -/

namespace Traffic

variable {depth : Nat} {traffic : Traffic} {event : Event} {i : Nat} {writing : Writing} {link : Queue}

/-- In this event a packet is put on the downlink queue, or a write is told that octets were written. -/
def Transmits (traffic : Traffic) (event : Event) : Prop :=
  (traffic.step event).writes.moved ≠ traffic.writes.moved ∨
    ∃ (i : Nat) (writing : Writing) (count : Nat), (traffic.step event).writes.calls[i]? = some writing ∧
      writing.fate = .ended (count + 1) ∧ traffic.writes.calls[i]? ≠ some writing

/-- A write was let in, waits, and was granted a place on a queue that is not given up. -/
def HoldsPlace (traffic : Traffic) (i : Nat) : Prop :=
  ∃ (writing : Writing) (call : WriteCall), traffic.writes.calls[i]? = some writing ∧
    writing.request.admitted ∧ writing.fate = .waits call ∧ call.ticket ∈ traffic.link.granted ∧
    traffic.link.consumer ≠ .dropped

/-- An event without a turn of a write does not transmit. -/
lemma not_transmits_of_writes_eq (h : (traffic.step event).writes = traffic.writes) :
    ¬ traffic.Transmits event := by
  rintro (hmoved | ⟨i, writing, count, hafter, -, hbefore⟩)
  · exact hmoved (congrArg (·.moved) h)
  · exact hbefore (h ▸ hafter)

/-- Where a write has a turn, what counts is what it has done to its queue, and what it was told. -/
lemma Transmits.of_turn (h : traffic.Transmits event) (hi : i ≤ traffic.writes.calls.length)
    (hstep : traffic.step event = traffic.afterWrite i writing link) :
    link.downlink ≠ traffic.link.downlink ∨ ∃ count, writing.fate = .ended (count + 1) := by
  rw [Transmits, hstep] at h
  obtain hmoved | ⟨j, other, count, hafter, htold, hbefore⟩ := h
  · refine .inl fun hsame => hmoved ?_
    simp [afterWrite, Ledger.enter, hsame]
  · simp only [afterWrite, Ledger.calls_enter hi] at hafter
    split at hafter
    · obtain rfl := Option.some.inj hafter
      exact .inr ⟨count, htold⟩
    · exact absurd hafter hbefore

lemma step_resumeWrite (traffic : Traffic) (i : Nat) :
    (∃ request call, traffic.writes.calls[i]? = some ⟨request, .waits call⟩ ∧
      traffic.step (.aboard (.resumeWrite i)) = traffic.afterWrite i
        ⟨request, .ofProgress (traffic.link.resumeWrite traffic.now call).1⟩
        (traffic.link.resumeWrite traffic.now call).2) ∨
    traffic.step (.aboard (.resumeWrite i)) = traffic := by
  simp only [step, stepAboard]
  split
  · next request call hwaits => exact .inl ⟨request, call, hwaits, rfl⟩
  · exact .inr rfl

lemma step_dropWrite (traffic : Traffic) (i : Nat) :
    (∃ request call, traffic.writes.calls[i]? = some ⟨request, .waits call⟩ ∧
      traffic.step (.aboard (.dropWrite i)) =
        traffic.afterWrite i ⟨request, .dropped⟩ (traffic.link.endWrite call.ticket)) ∨
    traffic.step (.aboard (.dropWrite i)) = traffic := by
  simp only [step, stepAboard]
  split
  · next request call hwaits => exact .inl ⟨request, call, hwaits, rfl⟩
  · exact .inr rfl

/-- **What transmits is a write that begins in range, or one that holds a place and goes on.** -/
lemma Transmits.inRange_or_holdsPlace (h : traffic.Transmits event)
    (hsound : traffic.DownlinkSound depth) :
    traffic.link.inRange = true ∨ ∃ i, event = .aboard (.resumeWrite i) ∧ traffic.HoldsPlace i := by
  cases event with
  | ground deed =>
    refine absurd h (not_transmits_of_writes_eq ?_)
    cases deed <;> rfl
  | aboard deed =>
    cases deed with
    | read | pass => exact absurd h (not_transmits_of_writes_eq rfl)
    | resumeRead i | dropRead i =>
      refine absurd h (not_transmits_of_writes_eq ?_)
      simp only [step, stepAboard]
      split <;> rfl
    | write packet timeout =>
      have hturn := h.of_turn (Nat.le_refl _) rfl
      exact .inl (Queue.inRange_of_turnTransmits (hturn.imp_right Fate.exists_ready_of_ended))
    | resumeWrite i =>
      obtain ⟨request, call, hwaits, hstep⟩ | hnothing := traffic.step_resumeWrite i
      · have hi := Nat.le_of_lt (List.getElem?_eq_some_iff.1 hwaits).1
        have hturn := h.of_turn hi hstep
        obtain ⟨hopen, hgranted⟩ :=
          Queue.granted_of_turnTransmits (hturn.imp_right Fate.exists_ready_of_ended)
        have hcall := (hsound.writes.calls hwaits).of_waits.2
        exact .inr ⟨i, rfl, _, call, hwaits, hcall.admitted, rfl, hgranted, hopen⟩
      · exact absurd h (not_transmits_of_writes_eq (congrArg (·.writes) hnothing))
    | dropWrite i =>
      obtain ⟨request, call, hwaits, hstep⟩ | hnothing := traffic.step_dropWrite i
      · have hi := Nat.le_of_lt (List.getElem?_eq_some_iff.1 hwaits).1
        obtain hmoved | ⟨count, htold⟩ := h.of_turn hi hstep
        · exact absurd (traffic.link.downlink_endWrite call.ticket) hmoved
        · cases htold
      · exact absurd h (not_transmits_of_writes_eq (congrArg (·.writes) hnothing))

/-- A write that holds a place transmits when it goes on, in range or not. -/
lemma HoldsPlace.transmits (h : traffic.HoldsPlace i) :
    traffic.Transmits (.aboard (.resumeWrite i)) := by
  obtain ⟨⟨request, fate⟩, call, hwaits, -, rfl, hgranted, hopen⟩ := h
  have hresume : traffic.link.resumeWrite traffic.now call =
      (.ready call.packet.payload.length,
        { traffic.link with
          granted := traffic.link.granted.erase call.ticket
          downlink := traffic.link.downlink ++ [call.packet] }) := by
    rw [Queue.resumeWrite, if_neg hopen, if_pos hgranted]
  refine .inl ?_
  simp [step, stepAboard, hwaits, hresume, afterWrite, Ledger.enter]

/-! ## Runs -/

/-- Some write waits. -/
def WriteWaits (traffic : Traffic) : Prop :=
  ∃ writing ∈ traffic.writes.calls, ¬ writing.fate.IsOver

instance decidableWriteWaits (traffic : Traffic) : Decidable traffic.WriteWaits :=
  inferInstanceAs (Decidable (∃ writing ∈ traffic.writes.calls, ¬ writing.fate.IsOver))

/-- No write waits whenever the link goes out of range. -/
def LosesRangeIdle : Traffic → List Event → Prop
  | _, [] => True
  | traffic, event :: events =>
    (event = .ground (.setInRange false) → ¬ traffic.WriteWaits) ∧
      LosesRangeIdle (traffic.step event) events

instance decidableLosesRangeIdle : (traffic : Traffic) → (events : List Event) →
    Decidable (traffic.LosesRangeIdle events)
  | _, [] => isTrue trivial
  | traffic, event :: events =>
    have := decidableLosesRangeIdle (traffic.step event) events
    inferInstanceAs (Decidable (_ ∧ _))

lemma writeWaits_of_waits {request : WriteRequest} {call : WriteCall}
    (hwaits : traffic.writes.calls[i]? = some ⟨request, .waits call⟩) : traffic.WriteWaits :=
  ⟨_, List.mem_of_getElem? hwaits, id⟩

/-- Out of range a turn of a write is one of a write that begins, and it is over at once. -/
lemma TurnOfWrite.isOver_of_out (h : traffic.TurnOfWrite i writing link)
    (hout : traffic.link.inRange = false) (hnone : ¬ traffic.WriteWaits) : writing.fate.IsOver := by
  cases h with
  | begins packet timeout =>
    have hadmits : traffic.link.admits = false := by simp [Queue.admits, hout]
    rw [Queue.beginWrite_of_not_admits hadmits]
    trivial
  | goesOn hwaits | dropped hwaits => exact absurd (writeWaits_of_waits hwaits) hnone

/-- **Out of range no write comes to wait.** -/
lemma not_writeWaits_step (h : traffic.link.inRange = false → ¬ traffic.WriteWaits)
    (hidle : event = .ground (.setInRange false) → ¬ traffic.WriteWaits)
    (hout : (traffic.step event).link.inRange = false) : ¬ (traffic.step event).WriteWaits := by
  cases event with
  | ground deed =>
    cases deed with
    | insert script => exact h ((traffic.link.readsOnly_insert script).inRange.symm.trans hout)
    | takeDownlink => exact h (traffic.link.inRange_takeDownlink.symm.trans hout)
    | dropDownlink => exact h (traffic.link.inRange_dropDownlink.symm.trans hout)
    | receive => exact h (traffic.link.inRange_receive.symm.trans hout)
    | setInRange inRange =>
      obtain rfl : inRange = false := hout
      exact hidle rfl
  | aboard deed =>
    have hafter := traffic.byAboard deed
    have hbefore : traffic.link.inRange = false := hafter.inRange.symm.trans hout
    have hnone := h hbefore
    show ¬ (traffic.stepAboard deed).WriteWaits
    generalize traffic.stepAboard deed = after at hafter
    cases hafter with
    | nothing | time | read => exact hnone
    | write hturn =>
      rintro ⟨other, hother, hwaits⟩
      obtain rfl | hother := Ledger.eq_or_mem_of_mem_enter hother
      · exact hwaits (hturn.isOver_of_out hbefore hnone)
      · exact hnone ⟨other, hother, hwaits⟩

lemma not_writeWaits_run {events : List Event} (h : traffic.link.inRange = false → ¬ traffic.WriteWaits)
    (hidle : traffic.LosesRangeIdle events) :
    (traffic.run events).link.inRange = false → ¬ (traffic.run events).WriteWaits := by
  induction events generalizing traffic with
  | nil => exact h
  | cons event events ih => exact ih (not_writeWaits_step h hidle.1) hidle.2

/-- An event that transmits leaves the range as it is. -/
lemma Transmits.inRange_step (h : traffic.Transmits event) :
    (traffic.step event).link.inRange = traffic.link.inRange := by
  cases event with
  | ground deed =>
    refine absurd h (not_transmits_of_writes_eq ?_)
    cases deed <;> rfl
  | aboard deed => exact (traffic.byAboard deed).inRange

/-- **What is transmitted, is transmitted in range**, in every run in which no write waits whenever the link
goes out of range.  In any run, what is transmitted out of range are exactly the packets of writes that were let
in before, waited, hold a place by now and go on; and it is never the same event that changes the range. -/
theorem transmits_in_range (depth : Nat) (events : List Event) (event : Event) :
    let traffic := run { link := { depth } } events
    (LosesRangeIdle { link := { depth } } events → traffic.Transmits event →
      traffic.link.inRange = true) ∧
    (traffic.link.inRange = false →
      (traffic.Transmits event ↔ ∃ i, event = .aboard (.resumeWrite i) ∧ traffic.HoldsPlace i)) ∧
    (traffic.Transmits event → (traffic.step event).link.inRange = traffic.link.inRange) := by
  intro traffic
  have hsound : traffic.DownlinkSound depth := downlinkSound_run depth events
  refine ⟨fun hidle htransmits => ?_, fun hout => ⟨fun htransmits => ?_, ?_⟩, (·.inRange_step)⟩
  · by_contra hout
    have hfresh : ¬ WriteWaits { link := { depth } } := nofun
    have hnone := not_writeWaits_run (fun _ => hfresh) hidle (Bool.eq_false_iff.2 hout)
    obtain hrange | ⟨i, -, ⟨request, fate⟩, call, hwaits, -, rfl, -⟩ :=
      htransmits.inRange_or_holdsPlace hsound
    · exact hout hrange
    · exact hnone (writeWaits_of_waits hwaits)
  · exact (htransmits.inRange_or_holdsPlace hsound).resolve_left (by simp [hout])
  · rintro ⟨i, rfl, hholds⟩
    exact hholds.transmits

/-- On a queue of one place, a write that runs out of time before the link goes out of range, and one that
waits on and is given a place. -/
theorem transmits_of_two_writes :
    let packet (octet : UInt8) : Packet := ⟨.telemetry, [octet]⟩
    let busy : List Event :=
      [.ground (.setInRange true), .ground .takeDownlink, .aboard (.write (packet 1) none),
        .aboard (.write (packet 2) (some 9)), .aboard (.pass 9)]
    let idle := busy ++ [.aboard (.resumeWrite 1), .ground (.setInRange false), .ground .receive,
      .ground (.setInRange true)]
    let late := busy ++ [.ground (.setInRange false), .ground .receive]
    LosesRangeIdle { link := { depth := 1 } } idle ∧
      (run { link := { depth := 1 } } idle).link.inRange = true ∧
      (run { link := { depth := 1 } } late).link.inRange = false ∧
      (run { link := { depth := 1 } } late).Transmits (.aboard (.resumeWrite 1)) := by
  intro packet busy idle late
  have hidle : LosesRangeIdle { link := { depth := 1 } } idle := by decide
  obtain ⟨hrange, -⟩ := transmits_in_range 1 idle (.aboard (.write (packet 3) none))
  obtain ⟨-, hlate, -⟩ := transmits_in_range 1 late (.aboard (.resumeWrite 1))
  refine ⟨hidle, hrange hidle (.inl (by decide)), by decide, ?_⟩
  refine (hlate (by decide)).2 ⟨1, rfl, ?_⟩
  exact ⟨⟨⟨packet 2, some 9, 0, true⟩, .waits ⟨0, packet 2, some 9⟩⟩, ⟨0, packet 2, some 9⟩, by decide⟩

/-- A write that waits for a place when the link goes out of range, and is told afterwards that all was
written. -/
theorem written_out_of_range :
    let packet (octet : UInt8) : Packet := ⟨.telemetry, [octet]⟩
    let traffic := run { link := { depth := 1 } }
      [.ground (.setInRange true), .ground .takeDownlink, .aboard (.write (packet 1) none),
        .aboard (.write (packet 2) (some 1000)), .ground (.setInRange false), .ground .receive]
    let after := traffic.step (.aboard (.resumeWrite 1))
    traffic.link.inRange = false ∧ after.link.inRange = false ∧
      after.writes.moved = traffic.writes.moved ++ [(1, packet 2)] ∧
      after.link.downlink = [packet 2] ∧
      traffic.writes.calls[1]?.map (·.fate) = some (.waits ⟨0, packet 2, some 1000⟩) ∧
      after.writes.calls[1]?.map (·.fate) = some (.ended 1) := by
  decide

end Traffic

end FlightScript.Link
