import FlightScript.Proofs.Link.Traffic
/-!
# The uplink queue under traffic

Scripts are read in the order in which they were accepted, each by one read, and none is lost, however many
reads wait, run out of time and are dropped meanwhile.

A turn of a read goes one of three ways (`Queue.ReadTurn`): it takes the first packet, it gives up, or it
waits.  Only the first touches the queue.  What a read has taken and what its caller was told and finds in the
buffer fit together in one of the four ways of `Reading.Did`, and `Traffic.UplinkSound` says so of all reads of
a run at once.  An empty packet, and a buffer of no length, give the same answer as no packet at all, so that
the answer alone does not tell whether a packet was taken; the ledger does.
-/

namespace FlightScript

/-- As many octets of a packet as are received are its front, and they cover as many of the buffer. -/
lemma Bytes.overlay_eq_take_append_drop (packet buffer : Bytes) :
    packet.overlay buffer =
      packet.take (min packet.length buffer.length) ++
        buffer.drop (min packet.length buffer.length) := by
  unfold Bytes.overlay
  by_cases h : packet.length ≤ buffer.length
  · rw [Nat.min_eq_left h, List.take_of_length_le h, List.take_length]
  · have hle : buffer.length ≤ packet.length := by omega
    rw [Nat.min_eq_right hle, List.drop_of_length_le hle, List.drop_length]

namespace Link

/-! ## One turn of a read -/

namespace Queue

/-- A read that waits is one for the port that is served, and its time limit counts from no earlier than
when it began. -/
def ReadCall.Serves (request : ReadRequest) (call : ReadCall) : Prop :=
  request.port = .telecommand ∧
    match call.stage with
    | .queued timeout => timeout = request.timeout
    | .receiving expiry => ∃ start, request.begun ≤ start ∧ expiry = request.timeout.map (start + ·)

variable {request : ReadRequest} {now : Nat} {queue : Queue}
  {turn : Progress ReadCall (Option Bytes) × Queue}

/-- The ways that a turn of a read goes. -/
inductive ReadTurn (request : ReadRequest) (now : Nat) (queue : Queue) :
    Progress ReadCall (Option Bytes) × Queue → Prop where
  | packet {packet : Bytes} {left : Queue} (hport : request.port = .telecommand)
      (hqueue : queue.uplink = packet :: left.uplink) :
    ReadTurn request now queue (.ready (some packet), left)
  | nothing {left : Queue}
      (hwhy : request.port ≠ .telecommand ∨ OutOfTime request.begun request.timeout now)
      (hqueue : left.uplink = queue.uplink) :
    ReadTurn request now queue (.ready none, left)
  | waits {call : ReadCall} {left : Queue} (hcall : call.Serves request)
      (hqueue : left.uplink = queue.uplink) :
    ReadTurn request now queue (.waiting call, left)

/-- Only what is queued matters.  That a read joins the others in line does not. -/
lemma ReadTurn.congr {queue' : Queue} (h : ReadTurn request now queue turn)
    (huplink : queue.uplink = queue'.uplink) : ReadTurn request now queue' turn := by
  cases h with
  | packet hport hqueue => exact .packet hport (huplink.symm.trans hqueue)
  | nothing hwhy hqueue => exact .nothing hwhy (hqueue.trans huplink)
  | waits hcall hqueue => exact .waits hcall (hqueue.trans huplink)

/-- A read that has the receiving end looks at the queue first and at the clock then. -/
lemma readTurn_receiveScript (hport : request.port = .telecommand) {start : Nat}
    (hstart : request.begun ≤ start) (ticket : Ticket) :
    ReadTurn request now queue
      (queue.receiveScript now ticket (request.timeout.map (start + ·))) := by
  unfold receiveScript
  split
  · next packet rest hpackets =>
    exact .packet hport hpackets
  · split
    · next hexpired => exact .nothing (.inr (outOfTime_of_expired hstart hexpired)) rfl
    · exact .waits ⟨hport, start, hstart, rfl⟩ rfl

/-- A read that is tried again. -/
lemma readTurn_resumeRead (queue : Queue) {call : ReadCall} (hcall : call.Serves request)
    (hbegun : request.begun ≤ now) : ReadTurn request now queue (queue.resumeRead now call) := by
  obtain ⟨ticket, stage⟩ := call
  obtain ⟨hport, hstage⟩ := hcall
  cases stage with
  | queued timeout =>
    obtain rfl : timeout = request.timeout := hstage
    simp only [resumeRead]
    split
    · exact readTurn_receiveScript hport hbegun ticket
    · exact .waits ⟨hport, rfl⟩ rfl
  | receiving expiry =>
    obtain ⟨start, hstart, rfl⟩ := hstage
    exact readTurn_receiveScript hport hstart ticket

/-- A read that begins, on any port. -/
lemma readTurn_beginReadOn (queue : Queue) (now : Nat) (port : Port) (timeout : Option Nat)
    (buffer : Bytes) :
    ReadTurn ⟨port, timeout, now, buffer⟩ now queue (queue.beginReadOn now port timeout) := by
  unfold beginReadOn
  split
  · next hport =>
    have hcall : ReadCall.Serves ⟨port, timeout, now, buffer⟩ ⟨queue.nextTicket, .queued timeout⟩ :=
      ⟨hport, rfl⟩
    exact (readTurn_resumeRead _ hcall (Nat.le_refl now)).congr rfl
  · next hport => exact .nothing (.inl hport) rfl

/-- A read that finds a packet, and no other read before it, takes it at once. -/
lemma beginReadOn_of_alone {packet : Bytes} {rest : List Bytes} (hqueue : queue.uplink = packet :: rest)
    (hreaders : queue.readers = []) (now : Nat) (timeout : Option Nat) :
    (queue.beginReadOn now .telecommand timeout).2.uplink = rest := by
  simp [beginReadOn, beginRead, resumeRead, receiveScript, endRead, hqueue, hreaders]

/-- What a turn takes off the queue is what the queue has lost at its front. -/
lemma ReadTurn.uplink_eq (h : ReadTurn request now queue turn) :
    queue.uplink = takenOff queue.uplink turn.2.uplink ++ turn.2.uplink := by
  cases h with
  | packet hport hqueue =>
    rw [hqueue, takenOff_cons]
    rfl
  | nothing hwhy hqueue | waits hcall hqueue =>
    rw [hqueue, takenOff_self]
    rfl

end Queue

/-! ## What a read did -/

/-- How what a read was told, what it finds in its buffer and what it took off the queue fit together. -/
inductive Reading.Did (now : Nat) : Reading → List Bytes → Prop where
  | waits {request : ReadRequest} {call : ReadCall} (hbegun : request.begun ≤ now)
      (hcall : call.Serves request) : Did now ⟨request, request.buffer, .waits call⟩ []
  | dropped {request : ReadRequest} : Did now ⟨request, request.buffer, .dropped⟩ []
  /-- It brought nothing: the port is not served, or the time is over. -/
  | nothing {request : ReadRequest}
      (hwhy : request.port ≠ .telecommand ∨ OutOfTime request.begun request.timeout now) :
    Did now ⟨request, request.buffer, .ended 0⟩ []
  /-- It brought a packet, as much of it as fits, and the rest of the buffer is as it was. -/
  | packet {request : ReadRequest} {packet : Bytes} {count : Nat}
      (hport : request.port = .telecommand)
      (hcount : count = min packet.length request.buffer.length) :
    Did now ⟨request, packet.take count ++ request.buffer.drop count, .ended count⟩ [packet]

namespace Reading

variable {now later : Nat} {reading : Reading} {request : ReadRequest} {packets : List Bytes}

lemma Did.mono (h : Did now reading packets) (hle : now ≤ later) : Did later reading packets := by
  cases h with
  | waits hbegun hcall => exact .waits (Nat.le_trans hbegun hle) hcall
  | dropped => exact .dropped
  | nothing hwhy => exact .nothing (hwhy.imp_right (·.mono hle))
  | packet hport hcount => exact .packet hport hcount

/-- A read that waits has taken nothing and left the buffer alone. -/
lemma Did.of_waits {buffer : Bytes} {call : ReadCall}
    (h : Did now ⟨request, buffer, .waits call⟩ packets) :
    packets = [] ∧ buffer = request.buffer ∧ request.begun ≤ now ∧ call.Serves request := by
  cases h with
  | waits hbegun hcall => exact ⟨rfl, rfl, hbegun, hcall⟩

/-- After a turn, the answer, the buffer and the queue fit together. -/
lemma did_ofTurn {queue : Queue} {turn : Progress ReadCall (Option Bytes) × Queue}
    (h : queue.ReadTurn request now turn) (hbegun : request.begun ≤ now) :
    Did now (.ofTurn request request.buffer turn.1) (takenOff queue.uplink turn.2.uplink) := by
  cases h with
  | @packet packet left hport hqueue =>
    rw [hqueue, takenOff_cons]
    show Did now ⟨request, packet.overlay request.buffer, _⟩ [packet]
    rw [Bytes.overlay_eq_take_append_drop]
    exact .packet hport rfl
  | nothing hwhy hqueue =>
    rw [hqueue, takenOff_self]
    exact .nothing hwhy
  | waits hcall hqueue =>
    rw [hqueue, takenOff_self]
    exact .waits hbegun hcall

end Reading

/-! ## All reads of a run -/

namespace Traffic

variable {depth : Nat} {traffic after : Traffic} {i : Nat} {reading : Reading} {link : Queue}

/-- The uplink queue and the reads fit together: what was accepted was taken by reads, in that order, or is
queued, and there are never more scripts queued than the queue has places. -/
structure UplinkSound (depth : Nat) (traffic : Traffic) : Prop where
  depth_eq : traffic.link.depth = depth
  bounded : traffic.link.uplink.length ≤ depth
  order : traffic.accepted = traffic.reads.moved.map (·.2) ++ traffic.link.uplink
  reads : traffic.reads.Tallies (Reading.Did traffic.now)

/-- A full queue refuses a script, and nothing has changed. -/
lemma stepGround_insert_of_full (h : ¬ traffic.link.uplink.length < traffic.link.depth)
    (script : Bytes) : traffic.stepGround (.insert script) = traffic := by
  simp [stepGround, Queue.insert, h]

namespace UplinkSound

/-- A turn of a read takes what it takes off the front of the queue, and accounts for it. -/
lemma turnOfRead (h : traffic.UplinkSound depth) (hturn : traffic.TurnOfRead i reading link) :
    traffic.link.uplink = takenOff traffic.link.uplink link.uplink ++ link.uplink ∧
      (traffic.afterRead i reading link).reads.Tallies (Reading.Did traffic.now) := by
  cases hturn with
  | begins buffer port timeout =>
    have hturn := traffic.link.readTurn_beginReadOn traffic.now port timeout buffer
    exact ⟨hturn.uplink_eq, h.reads.begins (Reading.did_ofTurn hturn (Nat.le_refl _))⟩
  | goesOn hwaits =>
    obtain ⟨hnothing, rfl, hbegun, hcall⟩ := (h.reads.calls hwaits).of_waits
    have hturn := traffic.link.readTurn_resumeRead hcall hbegun
    exact ⟨hturn.uplink_eq,
      h.reads.goesOn hwaits (fun _ => hnothing) (Reading.did_ofTurn hturn hbegun)⟩
  | @dropped _ request buffer call hwaits =>
    obtain ⟨hnothing, rfl, -, -⟩ := (h.reads.calls hwaits).of_waits
    have huplink : (traffic.link.endRead call.ticket).uplink = traffic.link.uplink := rfl
    have hdid : Reading.Did traffic.now ⟨request, request.buffer, .dropped⟩
        (takenOff traffic.link.uplink (traffic.link.endRead call.ticket).uplink) := by
      rw [huplink, takenOff_self]
      exact .dropped
    refine ⟨?_, h.reads.goesOn hwaits (fun _ => hnothing) hdid⟩
    rw [huplink, takenOff_self]
    rfl

lemma afterRead (h : traffic.UplinkSound depth) (hturn : traffic.TurnOfRead i reading link) :
    (traffic.afterRead i reading link).UplinkSound depth := by
  obtain ⟨huplink, hreads⟩ := h.turnOfRead hturn
  have hlength := congrArg List.length huplink
  rw [List.length_append] at hlength
  have hbounded := h.bounded
  refine ⟨hturn.readsOnly.depth.trans h.depth_eq, ?_, ?_, hreads⟩
  · show link.uplink.length ≤ depth
    omega
  · show traffic.accepted =
      (traffic.reads.enter i reading (takenOff traffic.link.uplink link.uplink)).moved.map (·.2) ++
        link.uplink
    rw [Ledger.map_moved_enter, List.append_assoc, ← huplink]
    exact h.order

/-- Whatever leaves the uplink side of the link and the reads alone, and does not turn back time. -/
lemma congr (h : traffic.UplinkSound depth) (hdepth : after.link.depth = traffic.link.depth)
    (huplink : after.link.uplink = traffic.link.uplink) (hreads : after.reads = traffic.reads)
    (haccepted : after.accepted = traffic.accepted) (hnow : traffic.now ≤ after.now) :
    after.UplinkSound depth := by
  refine ⟨hdepth.trans h.depth_eq, ?_, ?_, ?_⟩
  · rw [huplink]
    exact h.bounded
  · rw [haccepted, hreads, huplink]
    exact h.order
  · rw [hreads]
    exact h.reads.mono fun reading packets hdid => hdid.mono hnow

lemma byAboard (h : traffic.UplinkSound depth) (hafter : traffic.ByAboard after) :
    after.UplinkSound depth := by
  cases hafter with
  | nothing => exact h
  | time milliseconds => exact h.congr rfl rfl rfl rfl (Nat.le_add_right _ _)
  | read hturn => exact h.afterRead hturn
  | write hturn =>
    have honly := hturn.writesOnly
    exact h.congr honly.depth honly.uplink rfl rfl (Nat.le_refl _)

/-- An insertion is told that its script is queued exactly if it is, and there is no place too many. -/
lemma insert (h : traffic.UplinkSound depth) (script : Bytes) :
    (traffic.stepGround (.insert script)).UplinkSound depth := by
  have hdepth := h.depth_eq
  by_cases hroom : traffic.link.uplink.length < traffic.link.depth
  · have hinsert : traffic.stepGround (.insert script) =
        { traffic with
          link := { traffic.link with uplink := traffic.link.uplink ++ [script] }
          accepted := traffic.accepted ++ [script] } := by
      simp [stepGround, Queue.insert, hroom]
    rw [hinsert]
    refine ⟨hdepth, ?_, ?_, h.reads⟩
    · simp only [List.length_append, List.length_cons, List.length_nil]
      omega
    · simp only [h.order, List.append_assoc]
  · rw [stepGround_insert_of_full hroom]
    exact h

/-- **One event keeps the uplink sound.** -/
lemma step (h : traffic.UplinkSound depth) (event : Event) : (traffic.step event).UplinkSound depth := by
  cases event with
  | aboard deed => exact h.byAboard (traffic.byAboard deed)
  | ground deed =>
    have hother {link : Queue} {received : List Packet} (honly : traffic.link.DownlinkOnly link) :
        { traffic with link, received }.UplinkSound depth :=
      h.congr honly.depth honly.uplink rfl rfl (Nat.le_refl _)
    cases deed with
    | insert script => exact h.insert script
    | setInRange inRange => exact hother (traffic.link.downlinkOnly_setInRange inRange)
    | takeDownlink => exact hother traffic.link.downlinkOnly_takeDownlink
    | dropDownlink => exact hother traffic.link.downlinkOnly_dropDownlink
    | receive => exact hother traffic.link.downlinkOnly_receive

/-- A link that nobody has used. -/
lemma fresh (depth : Nat) : UplinkSound depth { link := { depth } } :=
  ⟨rfl, Nat.zero_le _, rfl, .nil⟩

end UplinkSound

lemma uplinkSound_run (depth : Nat) (events : List Event) :
    (run { link := { depth } } events).UplinkSound depth :=
  run_induction (.fresh depth) UplinkSound.step events

/-- **The uplink queue is a bounded queue that loses nothing.**  Whatever happens on a link, in whatever
order, the scripts that were accepted are those that reads have taken, in the order in which they were
taken, and then those that are queued.  A script is refused exactly when there is no place left, and then
nothing has changed.  What a read was told, what it finds in its buffer and what it took fit together, and
once a read is over that is for good.  A read that finds a packet, and no other read before it, takes it. -/
theorem uplink_fifo (depth : Nat) (events : List Event) :
    let traffic := run { link := { depth } } events
    traffic.accepted = traffic.reads.moved.map (·.2) ++ traffic.link.uplink ∧
    (∀ script, (traffic.link.insert script).1 = false ↔ traffic.link.uplink.length = depth) ∧
    (∀ script, (traffic.link.insert script).1 = false →
      traffic.step (.ground (.insert script)) = traffic) ∧
    traffic.reads.Tallies (Reading.Did traffic.now) ∧
    (∀ more, KeepsWhatIsOver traffic (traffic.run more)) ∧
    ∀ packet rest buffer timeout, traffic.link.uplink = packet :: rest → traffic.link.readers = [] →
      (traffic.step (.aboard (.read buffer .telecommand timeout))).reads.movedBy
        traffic.reads.calls.length = [packet] := by
  intro traffic
  have hsound : traffic.UplinkSound depth := uplinkSound_run depth events
  have hrefused (script : Bytes) :
      (traffic.link.insert script).1 = false ↔ ¬ traffic.link.uplink.length < traffic.link.depth := by
    unfold Queue.insert
    split <;> simp_all
  refine ⟨hsound.order, fun script => ?_, fun script hfull => ?_, hsound.reads,
    keepsWhatIsOver_run traffic, fun packet rest buffer timeout hqueue hreaders => ?_⟩
  · have hbounded := hsound.bounded
    rw [hrefused, hsound.depth_eq]
    omega
  · exact stepGround_insert_of_full ((hrefused script).1 hfull) script
  · show (traffic.reads.enter _ _ (takenOff traffic.link.uplink
      (traffic.link.beginReadOn traffic.now .telecommand timeout).2.uplink)).movedBy _ = _
    rw [Ledger.movedBy_enter, if_pos rfl, hsound.reads.none (Nat.le_refl _), hqueue,
      Queue.beginReadOn_of_alone hqueue hreaders, takenOff_cons, List.nil_append]

/-- Six reads on a queue of two places: one takes a packet, one asks for another port, one takes the empty
packet, one runs out of time while two wait behind it, of which one is dropped and the other is left with
less room than its packet needs.  Then the queue is full. -/
theorem uplink_fifo_contended :
    let events : List Event :=
      [.ground (.insert [1]), .ground (.insert []), .ground (.insert [2]),
        .aboard (.read [9, 9] .telecommand none), .aboard (.read [9] .telemetry none),
        .aboard (.read [9] .telecommand (some 5)), .aboard (.read [9] .telecommand (some 5)),
        .aboard (.read [9] .telecommand none), .aboard (.read [9, 9] .telecommand none),
        .aboard (.dropRead 4), .aboard (.pass 5), .aboard (.resumeRead 3), .ground (.insert [3, 4, 5]),
        .aboard (.resumeRead 5), .ground (.insert [6]), .ground (.insert [7])]
    let traffic := run { link := { depth := 2 } } events
    traffic.reads.calls.map (·.fate) =
        [.ended 1, .ended 0, .ended 0, .ended 0, .dropped, .ended 2] ∧
      traffic.accepted = [[1], [], [3, 4, 5]] ++ [[6], [7]] ∧
      traffic.step (.ground (.insert [8])) = traffic ∧
      Reading.Did 5 ⟨⟨.telecommand, some 5, 0, [9]⟩, [9], .ended 0⟩ [[]] ∧
      Reading.Did 5 ⟨⟨.telecommand, some 5, 0, [9]⟩, [9], .ended 0⟩ [] ∧
      Reading.Did 5 ⟨⟨.telecommand, none, 0, [9, 9]⟩, [3, 4], .ended 2⟩ [[3, 4, 5]] ∧
      (traffic.run [.aboard (.resumeRead 4)]).reads.movedBy 4 = [] ∧
      (traffic.step (.aboard (.read [] .telecommand none))).reads.movedBy 6 = [[6]] := by
  intro events traffic
  obtain ⟨horder, -, hrefused, hdid, hover, htakes⟩ := uplink_fifo 2 events
  have hdropped : traffic.reads.calls[4]? =
      some ⟨⟨.telecommand, none, 0, [9]⟩, [9], .dropped⟩ := by decide
  refine ⟨by decide, horder.trans (by decide), hrefused [8] (by decide), hdid.calls (i := 2) (by decide),
    hdid.calls (i := 3) (by decide), hdid.calls (i := 5) (by decide), ?_,
    htakes [6] [[7]] [] none (by decide) (by decide)⟩
  exact ((hover _).reads.kept hdropped trivial).2.trans (by decide)

end Traffic

end Link

end FlightScript
