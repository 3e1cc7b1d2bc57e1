import FlightScript.Proofs.Link.Traffic
/-!
# The downlink queue under traffic

A write is all or nothing: it puts its packet on the queue, once, and is told the length of the payload, or it
puts nothing and is told that nothing was written.  That the consumer empties the queue meanwhile, gives it
up, or leaves writes to wait until their time is over, changes which of the two happens and nothing else.

A turn of a write goes one of three ways (`Queue.WriteTurn`), and `Writing.Did` says for every write of a run
how what it was told and what it put on the queue fit together.  `Traffic.DownlinkSound` adds what the queue
holds, and what the consumer received.

## Places

A place that is granted is not yet used, but it is not free either.  So the bound is kept by the places used
and granted together (`Queue.places`), and the length of the queue alone would not carry it: the consumer frees
a place by receiving a packet, and the same place is granted to a write before anything is written.
-/

namespace FlightScript.Link

namespace Queue

variable {queue left : Queue}

/-! ## Places -/

/-- Places of the downlink queue that are used or granted. -/
def places (queue : Queue) : Nat :=
  queue.downlink.length + queue.granted.length

@[simp] lemma downlink_grantPlace (queue : Queue) : queue.grantPlace.downlink = queue.downlink := by
  unfold grantPlace
  split <;> rfl

@[simp] lemma consumer_grantPlace (queue : Queue) : queue.grantPlace.consumer = queue.consumer :=
  queue.writesOnly_grantPlace.consumer

lemma places_grantPlace_le (queue : Queue) : queue.grantPlace.places ≤ queue.places + 1 := by
  unfold grantPlace places
  split
  · omega
  · simp only [List.length_append, List.length_cons, List.length_nil]
    omega

@[simp] lemma downlink_endWrite (queue : Queue) (ticket : Ticket) :
    (queue.endWrite ticket).downlink = queue.downlink := by
  unfold endWrite
  split
  · rw [downlink_grantPlace]
  · rfl

/-- A place that was granted and is not used goes to another write or becomes free. -/
lemma places_endWrite_le (queue : Queue) (ticket : Ticket) :
    (queue.endWrite ticket).places ≤ queue.places := by
  unfold endWrite
  split
  · next hgranted =>
    refine Nat.le_trans (places_grantPlace_le _) ?_
    have hlength := List.length_erase_of_mem hgranted
    have hpos := List.length_pos_of_mem hgranted
    simp only [places]
    omega
  · exact Nat.le_refl _

lemma places_resumeWrite_le (queue : Queue) (now : Nat) (call : WriteCall) :
    (queue.resumeWrite now call).2.places ≤ queue.places := by
  unfold resumeWrite
  split
  · exact queue.places_endWrite_le call.ticket
  · split
    · next hgranted =>
      -- the place was granted before and is used now
      have hlength := List.length_erase_of_mem hgranted
      have hpos := List.length_pos_of_mem hgranted
      simp only [places, List.length_append, List.length_cons, List.length_nil]
      omega
    · split
      · exact queue.places_endWrite_le call.ticket
      · exact Nat.le_refl _

lemma places_beginWrite_le (queue : Queue) (now : Nat) (packet : Packet) (timeout : Option Nat) :
    (queue.beginWrite now packet timeout).2.places ≤ max queue.places queue.depth := by
  unfold beginWrite
  split
  · exact Nat.le_max_left _ _
  · split
    · next hplace =>
      have hfree : queue.downlink.length + queue.granted.length < queue.depth := by
        simpa [hasPlace] using hplace
      simp only [places, List.length_append, List.length_cons, List.length_nil]
      omega
    · exact Nat.le_trans (places_resumeWrite_le _ _ _) (Nat.le_max_left _ _)

/-! ## One turn of a write -/

/-- A write that waits is one that was let in, and its time limit counts from when it began. -/
structure WriteCall.Serves (request : WriteRequest) (call : WriteCall) : Prop where
  packet : call.packet = request.packet
  expiry : call.expiry = request.timeout.map (request.begun + ·)
  admitted : request.admitted

variable {request : WriteRequest} {now : Nat} {turn : Progress WriteCall Nat × Queue}

/-- The ways that a turn of a write goes. -/
inductive WriteTurn (request : WriteRequest) (now : Nat) (queue : Queue) :
    Progress WriteCall Nat × Queue → Prop where
  | written {left : Queue} (hadmitted : request.admitted) (hopen : queue.consumer ≠ .dropped)
      (hqueue : left.downlink = queue.downlink ++ [request.packet]) :
    WriteTurn request now queue (.ready request.packet.payload.length, left)
  | refused {left : Queue}
      (hwhy : request.admitted = false ∨ OutOfTime request.begun request.timeout now ∨
        queue.consumer = .dropped)
      (hqueue : left.downlink = queue.downlink) : WriteTurn request now queue (.ready 0, left)
  | waits {call : WriteCall} {left : Queue} (hcall : call.Serves request)
      (hqueue : left.downlink = queue.downlink) :
    WriteTurn request now queue (.waiting call, left)

/-- Only what is queued matters, and whether the queue was given up. -/
lemma WriteTurn.congr {queue' : Queue} (h : WriteTurn request now queue turn)
    (hdownlink : queue.downlink = queue'.downlink) (hconsumer : queue.consumer = queue'.consumer) :
    WriteTurn request now queue' turn := by
  cases h with
  | written hadmitted hopen hqueue =>
    exact .written hadmitted (hconsumer ▸ hopen) (hdownlink ▸ hqueue)
  | refused hwhy hqueue => exact .refused (hconsumer ▸ hwhy) (hqueue.trans hdownlink)
  | waits hcall hqueue => exact .waits hcall (hqueue.trans hdownlink)

lemma writeTurn_resumeWrite (queue : Queue) (now : Nat) {call : WriteCall}
    (hcall : call.Serves request) :
    WriteTurn request now queue (queue.resumeWrite now call) := by
  obtain ⟨ticket, packet, expiry⟩ := call
  obtain ⟨rfl, rfl, hadmitted⟩ := hcall
  unfold resumeWrite
  by_cases hdropped : queue.consumer = .dropped
  · rw [if_pos hdropped]
    exact .refused (.inr (.inr hdropped)) (queue.downlink_endWrite ticket)
  · rw [if_neg hdropped]
    split
    · exact .written hadmitted hdropped rfl
    · split
      · next hexpired =>
        have hover := outOfTime_of_expired (Nat.le_refl request.begun) hexpired
        exact .refused (.inr (.inl hover)) (queue.downlink_endWrite ticket)
      · exact .waits ⟨rfl, rfl, hadmitted⟩ rfl

/-- What a link does not admit ends at once. -/
lemma beginWrite_of_not_admits (h : queue.admits = false) (now : Nat) (packet : Packet)
    (timeout : Option Nat) : queue.beginWrite now packet timeout = (.ready 0, queue) := by
  have hclosed : (!queue.inRange || queue.consumer ≠ .taken) = true := by
    simpa [admits, imp_iff_not_or] using h
  rw [beginWrite, if_pos hclosed]

/-- What a link admits that has a free place is written at once. -/
lemma beginWrite_of_places_lt (h : queue.admits) (hplace : queue.places < queue.depth) (now : Nat)
    (packet : Packet) (timeout : Option Nat) :
    (queue.beginWrite now packet timeout).2.downlink = queue.downlink ++ [packet] := by
  have htaken : queue.inRange = true ∧ queue.consumer = .taken := by simpa [admits] using h
  have hfree : queue.downlink.length + queue.granted.length < queue.depth := hplace
  simp [beginWrite, hasPlace, htaken, hfree]

lemma writeTurn_beginWrite (queue : Queue) (now : Nat) (packet : Packet) (timeout : Option Nat) :
    WriteTurn ⟨packet, timeout, now, queue.admits⟩ now queue
      (queue.beginWrite now packet timeout) := by
  cases hadmits : queue.admits with
  | false =>
    rw [beginWrite_of_not_admits hadmits]
    exact .refused (.inl rfl) rfl
  | true =>
    have htaken : queue.inRange = true ∧ queue.consumer = .taken := by simpa [admits] using hadmits
    have hopen : ¬ (!queue.inRange || queue.consumer ≠ .taken) = true := by simp [htaken]
    rw [beginWrite, if_neg hopen]
    split
    · exact .written rfl (by simp [htaken]) rfl
    · have hcall : WriteCall.Serves ⟨packet, timeout, now, true⟩
          ⟨queue.nextTicket, packet, timeout.map (now + ·)⟩ := ⟨rfl, rfl, rfl⟩
      exact (writeTurn_resumeWrite _ now hcall).congr rfl rfl

/-- What a turn puts on the queue is what the queue has gained at its end. -/
lemma WriteTurn.downlink_eq (h : WriteTurn request now queue turn) :
    turn.2.downlink = queue.downlink ++ putOn queue.downlink turn.2.downlink := by
  cases h with
  | written hadmitted hopen hqueue =>
    show _ = queue.downlink ++ putOn queue.downlink _
    rw [hqueue, putOn_append]
  | refused hwhy hqueue | waits hcall hqueue =>
    rw [hqueue, putOn_self, List.append_nil]

/-- Nothing is put on a queue that was given up. -/
lemma WriteTurn.downlink_eq_of_dropped (h : WriteTurn request now queue turn)
    (hdropped : queue.consumer = .dropped) : turn.2.downlink = queue.downlink := by
  cases h with
  | written hadmitted hopen hqueue => exact absurd hdropped hopen
  | refused hwhy hqueue | waits hcall hqueue => exact hqueue

/-! ## The consumer -/

/-- The two ways that receiving goes. -/
inductive ReceiveTurn (queue : Queue) : Option Packet × Queue → Prop where
  | nothing : ReceiveTurn queue (none, queue)
  | packet {packet : Packet} {left : Queue} (htaken : queue.consumer = .taken)
      (hqueue : queue.downlink = packet :: left.downlink) (hconsumer : left.consumer = .taken)
      (hplaces : left.places ≤ queue.places) : ReceiveTurn queue (some packet, left)

lemma receiveTurn (queue : Queue) : queue.ReceiveTurn queue.receive := by
  unfold receive
  split
  · next htaken =>
    split
    · exact .nothing
    · next packet rest hpackets =>
      refine .packet htaken ?_ ?_ ?_
      · rw [hpackets, downlink_grantPlace]
      · rw [consumer_grantPlace]
        exact htaken
      · refine Nat.le_trans (places_grantPlace_le _) ?_
        simp only [places, hpackets, List.length_cons]
        omega
  · exact .nothing

end Queue

/-! ## What a write did -/

/-- How what a write was told and what it put on the queue fit together. -/
inductive Writing.Did (now : Nat) (consumer : Consumer) : Writing → List Packet → Prop where
  | waits {request : WriteRequest} {call : WriteCall} (hcall : call.Serves request) :
    Did now consumer ⟨request, .waits call⟩ []
  | dropped {request : WriteRequest} : Did now consumer ⟨request, .dropped⟩ []
  /-- All of it: it was let in, its packet was put on the queue, and it was told the full length. -/
  | written {request : WriteRequest} (hadmitted : request.admitted) :
    Did now consumer ⟨request, .ended request.packet.payload.length⟩ [request.packet]
  /-- Nothing: it was not let in, its time is over, or the consumer is gone. -/
  | refused {request : WriteRequest}
      (hwhy : request.admitted = false ∨ OutOfTime request.begun request.timeout now ∨
        consumer = .dropped) : Did now consumer ⟨request, .ended 0⟩ []

namespace Writing

variable {now later : Nat} {consumer consumer' : Consumer} {writing : Writing}
  {request : WriteRequest} {packets : List Packet}

lemma Did.mono (h : Did now consumer writing packets) (hle : now ≤ later)
    (hdropped : consumer = .dropped → consumer' = .dropped) :
    Did later consumer' writing packets := by
  cases h with
  | waits hcall => exact .waits hcall
  | dropped => exact .dropped
  | written hadmitted => exact .written hadmitted
  | refused hwhy => exact .refused (hwhy.imp_right fun hwhy => hwhy.imp (·.mono hle) hdropped)

/-- A write that waits has put nothing on the queue. -/
lemma Did.of_waits {call : WriteCall} (h : Did now consumer ⟨request, .waits call⟩ packets) :
    packets = [] ∧ call.Serves request := by
  cases h with
  | waits hcall => exact ⟨rfl, hcall⟩

/-- After a turn, the answer and the queue fit together. -/
lemma did_ofTurn {queue : Queue} {turn : Progress WriteCall Nat × Queue}
    (h : queue.WriteTurn request now turn) :
    Did now queue.consumer ⟨request, .ofProgress turn.1⟩
      (putOn queue.downlink turn.2.downlink) := by
  cases h with
  | written hadmitted hopen hqueue =>
    rw [hqueue, putOn_append]
    exact .written hadmitted
  | refused hwhy hqueue =>
    rw [hqueue, putOn_self]
    exact .refused hwhy
  | waits hcall hqueue =>
    rw [hqueue, putOn_self]
    exact .waits hcall

end Writing

/-! ## All writes of a run -/

namespace Traffic

variable {depth : Nat} {traffic after : Traffic} {i : Nat} {writing : Writing} {link : Queue}

/-- The downlink queue, the writes and the consumer fit together: what writes have put on the queue was
received, in that order, or is queued, unless the consumer has given it up. -/
structure DownlinkSound (depth : Nat) (traffic : Traffic) : Prop where
  depth_eq : traffic.link.depth = depth
  places : traffic.link.places ≤ depth
  order : traffic.link.consumer ≠ .dropped →
    traffic.writes.moved.map (·.2) = traffic.received ++ traffic.link.downlink
  closed : traffic.link.consumer = .dropped → traffic.link.downlink = []
  received : traffic.received <+: traffic.writes.moved.map (·.2)
  writes : traffic.writes.Tallies (Writing.Did traffic.now traffic.link.consumer)

namespace DownlinkSound

/-- What a turn of a write leaves. -/
lemma turnOfWrite (h : traffic.DownlinkSound depth) (hturn : traffic.TurnOfWrite i writing link) :
    link.downlink = traffic.link.downlink ++ putOn traffic.link.downlink link.downlink ∧
      (traffic.link.consumer = .dropped → link.downlink = traffic.link.downlink) ∧
      link.places ≤ depth ∧
      (traffic.afterWrite i writing link).writes.Tallies
        (Writing.Did traffic.now traffic.link.consumer) := by
  have hdepth := h.depth_eq
  have hplaces := h.places
  cases hturn with
  | begins packet timeout =>
    have hturn := traffic.link.writeTurn_beginWrite traffic.now packet timeout
    have hleft := traffic.link.places_beginWrite_le traffic.now packet timeout
    exact ⟨hturn.downlink_eq, hturn.downlink_eq_of_dropped, by omega,
      h.writes.begins (Writing.did_ofTurn hturn)⟩
  | @goesOn _ request call hwaits =>
    obtain ⟨hnothing, hcall⟩ := (h.writes.calls hwaits).of_waits
    have hturn := traffic.link.writeTurn_resumeWrite traffic.now hcall
    have hleft := traffic.link.places_resumeWrite_le traffic.now call
    exact ⟨hturn.downlink_eq, hturn.downlink_eq_of_dropped, by omega,
      h.writes.goesOn hwaits (fun _ => hnothing) (Writing.did_ofTurn hturn)⟩
  | @dropped _ request call hwaits =>
    obtain ⟨hnothing, hcall⟩ := (h.writes.calls hwaits).of_waits
    have hdownlink := traffic.link.downlink_endWrite call.ticket
    have hleft := traffic.link.places_endWrite_le call.ticket
    have hdid : Writing.Did traffic.now traffic.link.consumer ⟨request, .dropped⟩
        (putOn traffic.link.downlink (traffic.link.endWrite call.ticket).downlink) := by
      rw [hdownlink, putOn_self]
      exact .dropped
    refine ⟨?_, fun _ => hdownlink, by omega, h.writes.goesOn hwaits (fun _ => hnothing) hdid⟩
    rw [hdownlink, putOn_self, List.append_nil]

lemma afterWrite (h : traffic.DownlinkSound depth) (hturn : traffic.TurnOfWrite i writing link) :
    (traffic.afterWrite i writing link).DownlinkSound depth := by
  obtain ⟨hdownlink, hdropped, hplaces, hwrites⟩ := h.turnOfWrite hturn
  have honly := hturn.writesOnly
  have hmoved : (traffic.afterWrite i writing link).writes.moved.map (·.2) =
      traffic.writes.moved.map (·.2) ++ putOn traffic.link.downlink link.downlink :=
    Ledger.map_moved_enter ..
  refine ⟨honly.depth.trans h.depth_eq, hplaces, fun hopen => ?_, fun hclosed => ?_, ?_, ?_⟩
  · show _ = traffic.received ++ link.downlink
    rw [hmoved, hdownlink, putOn_append, ← List.append_assoc]
    rw [h.order (fun hclosed => hopen (honly.consumer.trans hclosed))]
  · have hclosed : traffic.link.consumer = .dropped := honly.consumer.symm.trans hclosed
    exact (hdropped hclosed).trans (h.closed hclosed)
  · rw [hmoved]
    exact h.received.trans (List.prefix_append _ _)
  · show Ledger.Tallies (Writing.Did traffic.now link.consumer) _
    rw [honly.consumer]
    exact hwrites

/-- Whatever leaves the downlink side of the link and the writes alone, and does not turn back time. -/
lemma congr (h : traffic.DownlinkSound depth) (honly : traffic.link.ReadsOnly after.link)
    (hwrites : after.writes = traffic.writes) (hreceived : after.received = traffic.received)
    (hnow : traffic.now ≤ after.now) : after.DownlinkSound depth := by
  obtain ⟨hdepth, -, hdownlink, hconsumer, hgranted, -⟩ := honly
  have hplaces : after.link.places = traffic.link.places := by
    simp only [Queue.places, hdownlink, hgranted]
  refine ⟨hdepth.trans h.depth_eq, Nat.le_trans (Nat.le_of_eq hplaces) h.places, ?_, ?_, ?_, ?_⟩
  · rw [hconsumer, hwrites, hreceived, hdownlink]
    exact h.order
  · rw [hconsumer, hdownlink]
    exact h.closed
  · rw [hreceived, hwrites]
    exact h.received
  · rw [hwrites, hconsumer]
    exact h.writes.mono fun writing packets hdid => hdid.mono hnow id

lemma byAboard (h : traffic.DownlinkSound depth) (hafter : traffic.ByAboard after) :
    after.DownlinkSound depth := by
  cases hafter with
  | nothing => exact h
  | time milliseconds => exact h.congr ⟨rfl, rfl, rfl, rfl, rfl, rfl⟩ rfl rfl (Nat.le_add_right _ _)
  | read hturn => exact h.congr hturn.readsOnly rfl rfl (Nat.le_refl _)
  | write hturn => exact h.afterWrite hturn

/-- The next packet goes from the queue to the consumer. -/
lemma receive (h : traffic.DownlinkSound depth) :
    (traffic.stepGround .receive).DownlinkSound depth := by
  show DownlinkSound depth
    { traffic with
      link := traffic.link.receive.2
      received := traffic.received ++ traffic.link.receive.1.toList }
  have hturn := traffic.link.receiveTurn
  have honly := traffic.link.downlinkOnly_receive
  generalize traffic.link.receive = turn at hturn honly
  cases hturn with
  | nothing => simpa using h
  | @packet packet left htaken hqueue hconsumer hplaces =>
    have hopen : traffic.link.consumer ≠ .dropped := by simp [htaken]
    have horder : traffic.writes.moved.map (·.2) =
        (traffic.received ++ [packet]) ++ left.downlink := by
      rw [h.order hopen, hqueue, List.append_assoc]
      rfl
    refine ⟨honly.depth.trans h.depth_eq, Nat.le_trans hplaces h.places, fun _ => horder, ?_, ?_, ?_⟩
    · simp [hconsumer]
    · exact ⟨left.downlink, horder.symm⟩
    · exact h.writes.mono fun writing packets hdid =>
        hdid.mono (Nat.le_refl _) fun hdropped => absurd hdropped hopen

/-- What the consumer gives up is lost, and it has received what came before. -/
lemma dropDownlink (h : traffic.DownlinkSound depth) :
    (traffic.stepGround .dropDownlink).DownlinkSound depth := by
  simp only [stepGround, Queue.dropDownlink]
  split
  · next htaken =>
    have hplaces := h.places
    refine ⟨h.depth_eq, ?_, fun hopen => absurd rfl hopen, fun _ => rfl, h.received, ?_⟩
    · simp only [Queue.places, List.length_nil] at hplaces ⊢
      omega
    · exact h.writes.mono fun writing packets hdid => hdid.mono (Nat.le_refl _) fun _ => rfl
  · exact h

lemma takeDownlink (h : traffic.DownlinkSound depth) :
    (traffic.stepGround .takeDownlink).DownlinkSound depth := by
  simp only [stepGround, Queue.takeDownlink]
  split
  · next huntaken =>
    have hopen : traffic.link.consumer ≠ .dropped := by simp [huntaken]
    refine ⟨h.depth_eq, h.places, fun _ => h.order hopen, nofun, h.received, ?_⟩
    exact h.writes.mono fun writing packets hdid =>
      hdid.mono (Nat.le_refl _) fun hdropped => absurd hdropped hopen
  · exact h

lemma setInRange (h : traffic.DownlinkSound depth) (inRange : Bool) :
    (traffic.stepGround (.setInRange inRange)).DownlinkSound depth :=
  ⟨h.depth_eq, h.places, h.order, h.closed, h.received, h.writes⟩

/-- **One event keeps the downlink sound.** -/
lemma step (h : traffic.DownlinkSound depth) (event : Event) :
    (traffic.step event).DownlinkSound depth := by
  cases event with
  | aboard deed => exact h.byAboard (traffic.byAboard deed)
  | ground deed =>
    cases deed with
    | insert script => exact h.congr (traffic.link.readsOnly_insert script) rfl rfl (Nat.le_refl _)
    | setInRange inRange => exact h.setInRange inRange
    | takeDownlink => exact h.takeDownlink
    | dropDownlink => exact h.dropDownlink
    | receive => exact h.receive

/-- A link that nobody has used. -/
lemma fresh (depth : Nat) : DownlinkSound depth { link := { depth } } :=
  ⟨rfl, Nat.zero_le _, fun _ => rfl, nofun, List.prefix_refl _, .nil⟩

end DownlinkSound

lemma downlinkSound_run (depth : Nat) (events : List Event) :
    (run { link := { depth } } events).DownlinkSound depth :=
  run_induction (.fresh depth) DownlinkSound.step events

/-- **Writes on the downlink are all or nothing.**  Whatever happens on a link, in whatever order, no more
packets are queued than there are places; the packets that the consumer has received, and then those that
are queued, are the packets that writes have put on the queue, in that order, and once the consumer is gone
what it has received is the front of them.  What a write was told and what it put on the queue fit together,
and once it is over that is for good.  A write that finds the link out of range, or nobody at its downlink, is
told at once that nothing was written; one that is let in and finds a place is written. -/
theorem downlink_all_or_nothing (depth : Nat) (events : List Event) :
    let traffic := run { link := { depth } } events
    traffic.link.downlink.length ≤ depth ∧
    (traffic.link.consumer ≠ .dropped →
      traffic.writes.moved.map (·.2) = traffic.received ++ traffic.link.downlink) ∧
    traffic.received <+: traffic.writes.moved.map (·.2) ∧
    traffic.writes.Tallies (Writing.Did traffic.now traffic.link.consumer) ∧
    (∀ more, KeepsWhatIsOver traffic (traffic.run more)) ∧
    (∀ packet timeout, (traffic.link.inRange = false ∨ traffic.link.consumer ≠ .taken) →
      traffic.link.beginWrite traffic.now packet timeout = (.ready 0, traffic.link)) ∧
    ∀ packet timeout, traffic.link.admits → traffic.link.places < depth →
      (traffic.step (.aboard (.write packet timeout))).writes.movedBy traffic.writes.calls.length =
        [packet] := by
  intro traffic
  have hsound : traffic.DownlinkSound depth := downlinkSound_run depth events
  have hlength : traffic.link.downlink.length ≤ traffic.link.places := Nat.le_add_right _ _
  refine ⟨Nat.le_trans hlength hsound.places, hsound.order, hsound.received, hsound.writes,
    keepsWhatIsOver_run traffic, fun packet timeout hclosed => ?_,
    fun packet timeout hadmits hplace => ?_⟩
  · refine Queue.beginWrite_of_not_admits ?_ traffic.now packet timeout
    simpa [Queue.admits, imp_iff_not_or] using hclosed
  · rw [← hsound.depth_eq] at hplace
    show (traffic.writes.enter _ _ (putOn traffic.link.downlink
      (traffic.link.beginWrite traffic.now packet timeout).2.downlink)).movedBy _ = _
    rw [Ledger.movedBy_enter, if_pos rfl, hsound.writes.none (Nat.le_refl _),
      Queue.beginWrite_of_places_lt hadmits hplace, putOn_append, List.nil_append]

/-- Six writes on a queue of one place.  The first finds nobody at the downlink, the second is written, the
third waits and is written when the consumer has received a packet, the fourth runs out of time, the fifth is
dropped, and the sixth still waits when the link goes out of range.  A write on a queue with room waits for
nothing. -/
theorem downlink_contended :
    let packet (octet : UInt8) : Packet := ⟨.telemetry, [octet]⟩
    let events : List Event :=
      [.ground (.setInRange true), .aboard (.write (packet 1) none), .ground .takeDownlink,
        .aboard (.write (packet 2) none), .aboard (.write (packet 3) (some 9)),
        .aboard (.write (packet 4) (some 9)), .aboard (.write (packet 5) none),
        .aboard (.write (packet 6) none), .ground .receive, .aboard (.resumeWrite 2),
        .aboard (.dropWrite 4), .aboard (.pass 9), .aboard (.resumeWrite 3),
        .ground (.setInRange false)]
    let traffic : Traffic :=
      { link :=
          { depth := 1, downlink := [packet 3], consumer := .taken, writers := [3], nextTicket := 4 }
        now := 9
        writes :=
          { calls :=
              [⟨⟨packet 1, none, 0, false⟩, .ended 0⟩, ⟨⟨packet 2, none, 0, true⟩, .ended 1⟩,
                ⟨⟨packet 3, some 9, 0, true⟩, .ended 1⟩, ⟨⟨packet 4, some 9, 0, true⟩, .ended 0⟩,
                ⟨⟨packet 5, none, 0, true⟩, .dropped⟩,
                ⟨⟨packet 6, none, 0, true⟩, .waits ⟨3, packet 6, none⟩⟩]
            moved := [(1, packet 2), (2, packet 3)] }
        received := [packet 2] }
    let fresh := run { link := { depth := 1 } } [.ground (.setInRange true), .ground .takeDownlink]
    run { link := { depth := 1 } } events = traffic ∧
      [packet 2, packet 3] = traffic.received ++ traffic.link.downlink ∧
      Writing.Did 9 .taken ⟨⟨packet 3, some 9, 0, true⟩, .ended 1⟩ [packet 3] ∧
      Writing.Did 9 .taken ⟨⟨packet 4, some 9, 0, true⟩, .ended 0⟩ [] ∧
      (traffic.run [.aboard (.resumeWrite 3)]).writes.movedBy 3 = [] ∧
      traffic.link.beginWrite 9 (packet 7) none = (.ready 0, traffic.link) ∧
      (fresh.step (.aboard (.write (packet 1) none))).writes.movedBy 0 = [packet 1] := by
  intro packet events traffic fresh
  have hrun : run { link := { depth := 1 } } events = traffic := by decide
  have hsound := downlink_all_or_nothing 1 events
  rw [hrun] at hsound
  obtain ⟨-, horder, -, hwrites, hover, hclosed, -⟩ := hsound
  obtain ⟨-, -, -, -, -, -, hwritten⟩ :=
    downlink_all_or_nothing 1 [.ground (.setInRange true), .ground .takeDownlink]
  exact ⟨hrun, horder (by decide), hwrites.calls (i := 2) rfl, hwrites.calls (i := 3) rfl,
    ((hover _).writes.kept (i := 3) rfl trivial).2, hclosed (packet 7) none (.inl rfl),
    hwritten (packet 1) none (by decide) (by decide)⟩

end Traffic

end FlightScript.Link
