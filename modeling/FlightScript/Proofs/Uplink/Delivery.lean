import FlightScript.Proofs.Uplink.Carryover
import FlightScript.Proofs.Uplink.Isolation
/-!
# What a station is sent

While a station is served, the packets on the downlink queue are sent to it, each as one frame, in the order in
which they were put there.  A station that takes all it is sent, and gives the uplink no reason of its own to
leave it (`Contact.Attends`), is served on, and reads off its stream exactly the packets that were sent,
whatever the pieces in which the stream arrives.

That holds as long as every packet that comes up fits a frame.  The queue does not ask for that when a packet is
written, and a packet that does not fit costs the station its connection, at the moment when it is taken off
the queue to be sent (`Contact.step_transmit_of_long`).

## What is due

What is due to a station, from some moment on, is what is queued then and what is put on the queue later.
Of this the front has been sent and the rest is queued, at every moment; that is all there is to say about the
order of packets, and it comes from the order in which the queue hands them on (`Contact.InStep.order`).
-/

namespace FlightScript

/-! ## Frames back to back, in pieces -/

namespace Frame

variable {packets : List Packet}

/-- Whole frames and nothing else: they are all read, and nothing is left. -/
lemma drain_octets (hfits : ∀ packet ∈ packets, packet.payload.length ≤ Limits.framePayload) :
    drain (packets.flatMap octets) = ⟨packets, none, []⟩ := by
  have hnothing : decode [] = .ok none := rfl
  rw [← List.append_nil (packets.flatMap octets), drain_octets_append hfits, drain_of_none hnothing,
    List.append_nil]

end Frame

/-- A new decoder recovers the packets from their frames, in whatever pieces these arrive. -/
lemma Decoder.readPieces_octets {packets : List Packet} {pieces : List Bytes}
    (hfits : ∀ packet ∈ packets, packet.payload.length ≤ Limits.framePayload)
    (hpieces : pieces.flatten = packets.flatMap Frame.octets) :
    readPieces {} pieces = (packets, none, {}) := by
  have hnew : drain {} = ([], none, {}) := by
    have hnothing : Frame.decode [] = .ok none := rfl
    simp [drain, Frame.drain_of_none hnothing]
  rw [readPieces, foldl_readPiece pieces hnew, hpieces]
  simp [drain, Frame.drain_octets hfits]

namespace Uplink

/-- What was sent, and to which station. -/
def Effect.sent? : Effect → Option (Station × Packet × Bytes)
  | sent station packet frame => some (station, packet, frame)
  | offered .. => none
  | left .. => none

lemma filterMap_sent?_offerAll (offers : List Bytes) (link : Link.Queue) :
    (offerAll offers link).1.filterMap Effect.sent? = [] := by
  induction offers generalizing link with
  | nil => rfl
  | cons script offers ih => simp only [offerAll, List.filterMap_cons, Effect.sent?, ih]

end Uplink

namespace Link.Traffic

lemma received_foldl_insert (traffic : Traffic) (scripts : List Bytes) :
    ((scripts.map .insert).foldl stepGround traffic).received = traffic.received := by
  induction scripts generalizing traffic with
  | nil => rfl
  | cons script scripts ih =>
    rw [List.map_cons, List.foldl_cons, ih]
    rfl

end Link.Traffic

namespace Contact

open Uplink (Phase Effect)

variable {contact : Contact} {depth : Nat} {S : Station} {move : Move} {moves : List Move}
  {packet : Packet} {rest : List Packet}

/-! ## A station that stays -/

/-- A move that gives no reason to stop serving a station, other than a packet that cannot be sent: the station
takes what it is sent, it does not hang up, it sends no length that no frame has, and the uplink is not shut
down. -/
def Attends (contact : Contact) : Move → Prop
  | .uplink .hangUp | .uplink .readError | .uplink .shutdown | .uplink (.transmit false) => False
  | .uplink (.bytes piece) =>
    match contact.phase with
    | .serving _ decoder => (decoder.feed piece).drain.2.1 = none
    | _ => True
  | _ => True

/-- No move gives one. -/
def AttendsAll : Contact → List Move → Prop
  | _, [] => True
  | contact, move :: moves => contact.Attends move ∧ AttendsAll (contact.step move) moves

lemma exists_serving (hserved : contact.station? = some S) :
    ∃ decoder, contact.phase = .serving S decoder := by
  obtain ⟨traffic, phase, backlog, effects, origins, targets⟩ := contact
  cases phase with
  | serving station decoder =>
    obtain rfl : station = S := Option.some.inj hserved
    exact ⟨decoder, rfl⟩
  | listening | ended => cases hserved

/-- What is sent from one moment to another, in which the station is served on: every packet that is taken off the
queue, as one frame. -/
structure Sends (S : Station) (contact after : Contact) (sent : List Packet) : Prop where
  served : after.station? = some S
  received : after.traffic.received = contact.traffic.received ++ sent
  effects : ∃ effects, after.effects = contact.effects ++ effects ∧
    effects.filterMap Effect.sent? = sent.map fun packet => (S, packet, Frame.octets packet)

namespace Sends

variable {after last : Contact} {sent more : List Packet}

lemma refl (hserved : contact.station? = some S) : Sends S contact contact [] :=
  ⟨hserved, (List.append_nil _).symm, [], (List.append_nil _).symm, rfl⟩

lemma trans (h : Sends S contact after sent) (h' : Sends S after last more) :
    Sends S contact last (sent ++ more) := by
  obtain ⟨effects, heffects, hsent⟩ := h.effects
  obtain ⟨effects', heffects', hsent'⟩ := h'.effects
  refine ⟨h'.served, ?_, effects ++ effects', ?_, ?_⟩
  · rw [h'.received, h.received, List.append_assoc]
  · rw [heffects', heffects, List.append_assoc]
  · rw [List.filterMap_append, hsent, hsent', List.map_append]

end Sends

/-! ### One move -/

/-- What the station sends does not send it anything. -/
lemma sends_step_bytes (hserved : contact.station? = some S) {piece : Bytes}
    (hattends : contact.Attends (.uplink (.bytes piece))) :
    Sends S contact (contact.step (.uplink (.bytes piece))) [] := by
  obtain ⟨decoder, hphase⟩ := exists_serving hserved
  obtain ⟨traffic, phase, backlog, effects, origins, targets⟩ := contact
  obtain rfl : phase = .serving S decoder := hphase
  have hfault : (decoder.feed piece).drain.2.1 = none := hattends
  refine ⟨?_, ?_, (Uplink.offerAll (Uplink.scripts (decoder.feed piece).drain.1) traffic.link).1, ?_, ?_⟩
  · simp [step, stepUplink, uplink, Uplink.step, hfault, station?, Phase.station?]
  · simp [step, stepUplink, uplink, Uplink.deeds, hfault, Link.Traffic.received_foldl_insert]
  · simp [step, stepUplink, uplink, Uplink.step, hfault]
  · exact Uplink.filterMap_sent?_offerAll _ _

/-- The packet that is first in the queue is received, whether or not it can be sent. -/
lemma received_step_transmit {decoder : Decoder} (hphase : contact.phase = .serving S decoder)
    (htaken : contact.traffic.link.consumer = .taken)
    (hqueue : contact.traffic.link.downlink = packet :: rest) :
    (contact.step (.uplink (.transmit true))).traffic.received =
      contact.traffic.received ++ [packet] := by
  cases hframe : Frame.encode packet <;>
    simp [step, stepUplink, uplink, Uplink.deeds, Link.Traffic.stepGround, Link.Queue.receive, hphase,
      htaken, hqueue, hframe]

/-- With nothing queued, nothing is sent. -/
lemma step_transmit_of_nil (htaken : contact.traffic.link.consumer = .taken)
    (hqueue : contact.traffic.link.downlink = []) :
    contact.step (.uplink (.transmit true)) = contact := by
  obtain ⟨traffic, phase, backlog, effects, origins, targets⟩ := contact
  have hreceive : traffic.link.receive = (none, traffic.link) := by
    simp_all [Link.Queue.receive]
  cases phase <;> simp [step, stepUplink, uplink, Uplink.step, Uplink.deeds, hreceive]

/-- The next packet is sent, if there is one. -/
lemma sends_step_transmit (h : contact.InStep depth) (hserved : contact.station? = some S)
    (hfits : ∀ packet ∈ contact.traffic.link.downlink.head?,
      packet.payload.length ≤ Limits.framePayload) :
    Sends S contact (contact.step (.uplink (.transmit true)))
      contact.traffic.link.downlink.head?.toList := by
  obtain ⟨decoder, hphase⟩ := exists_serving hserved
  have htaken := h.taken (by simp [hphase])
  cases hqueue : contact.traffic.link.downlink with
  | nil =>
    rw [step_transmit_of_nil htaken hqueue]
    exact .refl hserved
  | cons packet rest =>
    rw [hqueue] at hfits
    obtain ⟨hphase', -, -, heffects, -, -⟩ := step_transmit hphase htaken hqueue (hfits packet rfl)
    exact ⟨congrArg Phase.station? hphase', received_step_transmit hphase htaken hqueue,
      _, heffects, rfl⟩

/-- **A move sends the packet that is next, or nothing**, and the station is served on. -/
lemma exists_sends_step (h : contact.InStep depth) (hserved : contact.station? = some S)
    (hattends : contact.Attends move)
    (hfits : ∀ packet ∈ contact.traffic.link.downlink.head?,
      packet.payload.length ≤ Limits.framePayload) :
    ∃ sent, Sends S contact (contact.step move) sent ∧
      (move = .uplink (.transmit true) → sent = contact.traffic.link.downlink.head?.toList) := by
  cases move with
  | aboard deed =>
    have hreceived := (contact.traffic.byAboard deed).books.2.1
    exact ⟨[], ⟨hserved, by simpa [step, stepAboard] using hreceived, [], (List.append_nil _).symm, rfl⟩,
      by simp⟩
  | uplink event =>
    cases event with
    | arrive station =>
      exact ⟨[], ⟨hserved, (List.append_nil _).symm, [], rfl, rfl⟩, by simp⟩
    | accept =>
      obtain ⟨decoder, hphase⟩ := exists_serving hserved
      have hnothing : contact.step (.uplink .accept) = contact := by
        obtain ⟨traffic, phase, backlog, effects, origins, targets⟩ := contact
        obtain rfl : phase = .serving S decoder := hphase
        simp [step, stepUplink, uplink, Uplink.step, Uplink.deeds]
      refine ⟨[], ?_, by simp⟩
      rw [hnothing]
      exact .refl hserved
    | bytes piece => exact ⟨[], sends_step_bytes hserved hattends, by simp⟩
    | transmit taken =>
      cases taken with
      | false => cases hattends
      | true => exact ⟨_, sends_step_transmit h hserved hfits, fun _ => rfl⟩
    | hangUp | readError | shutdown => cases hattends

/-- **A packet that does not fit a frame costs the station its connection**, and it is gone. -/
lemma step_transmit_of_long (h : contact.InStep depth) (hserved : contact.station? = some S)
    (hqueue : contact.traffic.link.downlink = packet :: rest)
    (hlong : Limits.framePayload < packet.payload.length) (taken : Bool) :
    let after := contact.step (.uplink (.transmit taken))
    after.station? = none ∧ after.traffic.link.downlink = rest ∧
      after.effects = contact.effects ++
        [.left S (.badFrame (.payloadTooLarge packet.payload.length))] := by
  obtain ⟨decoder, hphase⟩ := exists_serving hserved
  have htaken := h.taken (by simp [hphase])
  have hreceive : contact.traffic.link.receive =
      (some packet, { contact.traffic.link with downlink := rest }.grantPlace) := by
    simp [Link.Queue.receive, htaken, hqueue]
  have hframe : Frame.encode packet = .error (.payloadTooLarge packet.payload.length) := if_pos hlong
  refine ⟨?_, ?_, ?_⟩ <;>
    simp [step, stepUplink, uplink, Uplink.step, Uplink.deeds, Uplink.leave, Link.Traffic.stepGround,
      Link.Queue.setInRange, hphase, hreceive, hframe, station?, Phase.station?]

/-! ### All moves -/

/-- The packets that are due from one moment to another: those that were queued, and those that have been put on
the queue since. -/
def due (contact last : Contact) : List Packet :=
  (last.traffic.writes.moved.drop contact.traffic.received.length).map (·.2)

lemma moved_prefix_run (contact : Contact) (moves : List Move) :
    contact.traffic.writes.moved <+: (contact.run moves).traffic.writes.moved := by
  induction moves generalizing contact with
  | nil => exact List.prefix_rfl
  | cons move moves ih =>
    refine List.IsPrefix.trans ?_ (ih (contact.step move))
    cases move with
    | uplink event =>
      have hwrites := (contact.traffic.books_foldl_stepGround (contact.uplink.deeds event)).1
      exact (congrArg (·.moved) hwrites) ▸ List.prefix_rfl
    | aboard deed => exact (contact.traffic.byAboard deed).books.1

/-- What was received and what is queued is all that was put on the queue. -/
lemma InStep.order (h : contact.InStep depth) (hserved : contact.station? = some S) :
    contact.traffic.writes.moved.map (·.2) =
      contact.traffic.received ++ contact.traffic.link.downlink := by
  obtain ⟨decoder, hphase⟩ := exists_serving hserved
  exact h.sound.order (by simp [h.taken (by simp [hphase])])

/-- Of what is due, the front is queued already. -/
lemma exists_due_run (h : contact.InStep depth) (hserved : contact.station? = some S)
    (moves : List Move) :
    ∃ later, due contact (contact.run moves) = contact.traffic.link.downlink ++ later := by
  obtain ⟨more, hmore⟩ := contact.moved_prefix_run moves
  refine ⟨more.map (·.2), ?_⟩
  rw [due, ← hmore, List.map_drop, List.map_append, h.order hserved, List.append_assoc,
    List.drop_left]

namespace Sends

variable {after last : Contact} {sent : List Packet}

/-- What is due, less what was sent, is due afterwards. -/
lemma due_eq (h : Sends S contact after sent) (last : Contact) :
    due after last = (due contact last).drop sent.length := by
  rw [due, due, h.received, List.length_append, ← List.map_drop, List.drop_drop]

/-- **Of what is due, the front was sent and the rest is queued.** -/
lemma due_eq_append (h : Sends S contact after sent) (hstep : after.InStep depth) :
    due contact after = sent ++ after.traffic.link.downlink := by
  rw [due, List.map_drop, hstep.order h.served, h.received, List.append_assoc, List.drop_left]

end Sends

/-- What was queued was sent, or is queued still. -/
lemma InStep.length_downlink_le (h : contact.InStep depth) (hserved : contact.station? = some S)
    (moves : List Move) {sent : List Packet} (hsends : Sends S contact (contact.run moves) sent) :
    contact.traffic.link.downlink.length ≤
      sent.length + (contact.run moves).traffic.link.downlink.length := by
  obtain ⟨since, hsince⟩ := exists_due_run h hserved moves
  have hlength := congrArg List.length (hsince.symm.trans (hsends.due_eq_append (h.run moves)))
  simp only [List.length_append] at hlength
  omega

/-- **A run sends what comes up**, at least one packet each time while there are any. -/
lemma exists_sends_run (h : contact.InStep depth) (hserved : contact.station? = some S)
    (hattends : contact.AttendsAll moves)
    (hfits : ∀ packet ∈ due contact (contact.run moves), packet.payload.length ≤ Limits.framePayload) :
    ∃ sent, Sends S contact (contact.run moves) sent ∧
      min (moves.count (.uplink (.transmit true))) contact.traffic.link.downlink.length ≤
        sent.length := by
  induction moves generalizing contact with
  | nil => exact ⟨[], .refl hserved, Nat.min_le_left _ _⟩
  | cons move moves ih =>
    obtain ⟨later, hlater⟩ := exists_due_run h hserved (move :: moves)
    have hhead (packet : Packet) (hmem : packet ∈ contact.traffic.link.downlink.head?) :=
      hfits packet (hlater ▸ List.mem_append_left _ (List.mem_of_mem_head? hmem))
    obtain ⟨sent, hsends, htransmit⟩ := exists_sends_step h hserved hattends.1 hhead
    have hfits' (packet : Packet) (hmem : packet ∈ due (contact.step move) (contact.run (move :: moves))) :=
      hfits packet (List.mem_of_mem_drop (hsends.due_eq _ ▸ hmem))
    obtain ⟨more, hmore, hcount⟩ := ih (h.step move) hsends.served hattends.2 hfits'
    refine ⟨sent ++ more, hsends.trans hmore, ?_⟩
    have hqueued : contact.traffic.link.downlink.length ≤
        sent.length + (contact.step move).traffic.link.downlink.length :=
      h.length_downlink_le hserved [move] hsends
    rw [List.count_cons, List.length_append]
    by_cases hmove : move = .uplink (.transmit true)
    · have hsent := congrArg List.length (htransmit hmove)
      rw [hmove, beq_self_eq_true, if_pos rfl]
      cases hqueue : contact.traffic.link.downlink with
      | nil => simp
      | cons packet rest =>
        rw [hqueue] at hqueued hsent
        simp only [List.length_cons, List.head?_cons, Option.toList_some, List.length_nil] at hqueued hsent ⊢
        omega
    · have hother : (move == .uplink (.transmit true)) = false := by simpa using hmove
      rw [hother]
      simp only [Bool.false_eq_true, if_false]
      omega

/-- **A station is sent what fits, and recovers it.**  From any moment at which a station is served, and as long
as it gives no reason to leave it: if every packet that is due fits a frame, then the station is served on; the
packets that are due were sent to it, each as one frame, or are queued, in the order in which they were put on
the queue, and each time that something can be sent, something is; and the station's decoder reads just these
packets off the stream, whatever the pieces.  What is put on the queue fits together with what writes were told.
But if the packet that comes up does not fit, the station is left and the packet is gone. -/
theorem delivers_what_fits (hstart : start { link := { depth } } = .ok contact) (front more : List Move)
    (S : Station) :
    let base := contact.run front
    let last := base.run more
    base.station? = some S →
    (base.AttendsAll more →
      (∀ packet ∈ due base last, packet.payload.length ≤ Limits.framePayload) →
      last.station? = some S ∧
      last.traffic.writes.Tallies (Link.Writing.Did last.traffic.now .taken) ∧
      ∃ sent effects, due base last = sent ++ last.traffic.link.downlink ∧
        min (more.count (.uplink (.transmit true))) base.traffic.link.downlink.length ≤ sent.length ∧
        last.effects = base.effects ++ effects ∧
        effects.filterMap Effect.sent? = sent.map (fun packet => (S, packet, Frame.octets packet)) ∧
        ∀ pieces : List Bytes, pieces.flatten = sent.flatMap Frame.octets →
          Decoder.readPieces {} pieces = (sent, none, {})) ∧
    ∀ packet rest taken, base.traffic.link.downlink = packet :: rest →
      Limits.framePayload < packet.payload.length →
      let next := base.step (.uplink (.transmit taken))
      next.station? = none ∧ next.traffic.link.downlink = rest ∧
        next.effects = base.effects ++
          [.left S (.badFrame (.payloadTooLarge packet.payload.length))] := by
  intro base last hserved
  have hbase : base.InStep depth := (InStep.of_start hstart).run front
  refine ⟨fun hattends hfits => ?_, fun packet rest taken hqueue hlong =>
    step_transmit_of_long hbase hserved hqueue hlong taken⟩
  have hlast : last.InStep depth := hbase.run more
  obtain ⟨sent, hsends, hcount⟩ := exists_sends_run hbase hserved hattends hfits
  obtain ⟨effects, heffects, hsent⟩ := hsends.effects
  have hdue := hsends.due_eq_append hlast
  obtain ⟨decoder, hphase⟩ := exists_serving hsends.served
  have htaken := hlast.taken (by simp [last, hphase])
  refine ⟨hsends.served, htaken ▸ hlast.sound.writes, sent, effects, hdue, hcount, heffects, hsent,
    fun pieces hpieces => ?_⟩
  refine Decoder.readPieces_octets (fun packet hmem => ?_) hpieces
  exact hfits packet (hdue ▸ List.mem_append_left _ hmem)

/-- Two packets, of which one is empty, that the station gets in three pieces; and one octet too many. -/
theorem delivers_two_packets :
    let full : Packet := ⟨.telemetry, [7]⟩
    let empty : Packet := ⟨.telemetry, []⟩
    let long : Packet := ⟨.telemetry, List.replicate 4097 120⟩
    let contact : Contact := { traffic := { link := { depth := 20, consumer := .taken } } }
    let front (packet : Packet) : List Move :=
      [.uplink (.arrive 1), .uplink .accept, .aboard (.write packet none)]
    let more : List Move :=
      [.aboard (.write empty none), .uplink (.transmit true), .uplink (.arrive 2),
        .uplink (.transmit true)]
    ((contact.run (front full)).run more).station? = some 1 ∧
      due (contact.run (front full)) ((contact.run (front full)).run more) = [full, empty] ∧
      Decoder.readPieces {} [[2], [0, 1, 7, 2, 0], [0]] = ([full, empty], none, {}) ∧
      ((contact.run (front long)).step (.uplink (.transmit true))).station? = none := by
  intro full empty long contact front more
  have hstart : start { link := { depth := 20 } } = .ok contact := rfl
  obtain ⟨hfits, -⟩ := delivers_what_fits hstart (front full) more 1 (by decide)
  obtain ⟨-, hlong⟩ := delivers_what_fits hstart (front long) [] 1 rfl
  obtain ⟨hserved, -, sent, effects, hdue, -, -, -, hread⟩ :=
    hfits ⟨trivial, trivial, trivial, trivial, trivial⟩ (by decide)
  have hall : due (contact.run (front full)) ((contact.run (front full)).run more) = [full, empty] := by
    decide
  have hnone : ((contact.run (front full)).run more).traffic.link.downlink = [] := by decide
  rw [hall, hnone, List.append_nil] at hdue
  subst hdue
  have hlength : long.payload.length = 4097 := List.length_replicate
  have hlong' : Limits.framePayload < long.payload.length := Nat.lt_of_lt_of_eq (by decide) hlength.symm
  exact ⟨hserved, hall, hread _ (by decide), (hlong long [] true rfl hlong').1⟩

/-- A write that is told that all of its 4097 octets are written while a station is served, and then costs this
station its connection. -/
theorem long_packet_costs_connection :
    let long : Packet := ⟨.telemetry, List.replicate 4097 120⟩
    let contact : Contact := { traffic := { link := { depth := 20, consumer := .taken } } }
    let written := contact.run [.uplink (.arrive 1), .uplink .accept, .aboard (.write long none)]
    let after := written.step (.uplink (.transmit true))
    start { link := { depth := 20 } } = .ok contact ∧ written.station? = some 1 ∧
      written.traffic.writes.calls = [⟨⟨long, none, 0, true⟩, .ended 4097⟩] ∧
      written.traffic.link.downlink = [long] ∧
      after.station? = none ∧ after.effects = [.left 1 (.badFrame (.payloadTooLarge 4097))] := by
  intro long contact written after
  have hlength : long.payload.length = 4097 := List.length_replicate
  have hlong : Limits.framePayload < long.payload.length := Nat.lt_of_lt_of_eq (by decide) hlength.symm
  have hstart : start { link := { depth := 20 } } = .ok contact := rfl
  have hstep : written.InStep 20 := (InStep.of_start hstart).run _
  have hqueue : written.traffic.link.downlink = [long] := rfl
  obtain ⟨hleft, -, heffects⟩ := step_transmit_of_long hstep (S := 1) rfl hqueue hlong true
  rw [hlength] at heffects
  refine ⟨hstart, rfl, ?_, hqueue, hleft, heffects⟩
  rw [← hlength]
  rfl

end Contact

end FlightScript
