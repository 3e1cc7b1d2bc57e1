import FlightScript.Proofs.Uplink.Contact
/-!
# What a station leaves behind

The downlink queue belongs to the link and outlives the stations.  A packet that is written while a station is
served, and is still queued when this station is left, is sent to the next one (`Contact.run_handover`).  Every
packet reaches the station for which it was written, or none, as long as nothing is queued whenever a station
is left (`Contact.LeavesNothing`, `Contact.Matched`).

## Places in the order

Packets are taken off the queue in the order in which they were put there.  So the targets of a contact belong
to the same packets as the first of its origins, one by one, and the origins beyond are those of the packets
that are queued (`Contact.InStep.length_origins`).
-/

namespace FlightScript

/-! ## What a step leaves of the books -/

namespace Link.Traffic

variable {traffic after : Traffic}

lemma ByAboard.books (h : traffic.ByAboard after) :
    traffic.writes.moved <+: after.writes.moved ∧ after.received = traffic.received ∧
      after.link.consumer = traffic.link.consumer := by
  cases h with
  | nothing | time => exact ⟨List.prefix_refl _, rfl, rfl⟩
  | read hturn => exact ⟨List.prefix_refl _, rfl, hturn.readsOnly.consumer⟩
  | write hturn => exact ⟨List.prefix_append _ _, rfl, hturn.writesOnly.consumer⟩

lemma books_foldl_stepGround (traffic : Traffic) (deeds : List Ground) :
    (deeds.foldl stepGround traffic).writes = traffic.writes ∧
      traffic.received <+: (deeds.foldl stepGround traffic).received := by
  induction deeds generalizing traffic with
  | nil => exact ⟨rfl, List.prefix_refl _⟩
  | cons deed deeds ih =>
    obtain ⟨hwrites, hreceived⟩ := ih (traffic.stepGround deed)
    have hdeed : (traffic.stepGround deed).writes = traffic.writes ∧
        traffic.received <+: (traffic.stepGround deed).received := by
      cases deed with
      | receive => exact ⟨rfl, List.prefix_append _ _⟩
      | insert | setInRange | takeDownlink | dropDownlink => exact ⟨rfl, List.prefix_refl _⟩
    exact ⟨hwrites.trans hdeed.1, hdeed.2.trans hreceived⟩

end Link.Traffic

namespace Contact

open Uplink (Phase Effect)

variable {contact after : Contact} {depth : Nat} {S T : Station} {k : Nat}

/-! ## Places in the order -/

/-- The origins and targets of a contact are those of the packets that writes have put on the downlink queue and
of those that were taken off it, and the uplink has the downlink until it ends. -/
structure InStep (depth : Nat) (contact : Contact) : Prop where
  sound : contact.traffic.DownlinkSound depth
  origins : contact.origins.length = contact.traffic.writes.moved.length
  targets : contact.targets.length = contact.traffic.received.length
  taken : contact.phase ≠ .ended → contact.traffic.link.consumer = .taken

namespace InStep

lemma length_targets_le (h : contact.InStep depth) :
    contact.targets.length ≤ contact.origins.length := by
  have hlength := h.sound.received.length_le
  rw [List.length_map] at hlength
  rw [h.targets, h.origins]
  exact hlength

/-- The packets that are queued are the last ones. -/
lemma length_origins (h : contact.InStep depth) (hphase : contact.phase ≠ .ended) :
    contact.origins.length = contact.targets.length + contact.traffic.link.downlink.length := by
  have hopen : contact.traffic.link.consumer ≠ .dropped := by simp [h.taken hphase]
  have hlength := congrArg List.length (h.sound.order hopen)
  rw [List.length_map, List.length_append] at hlength
  rw [h.targets, h.origins]
  exact hlength

lemma stepAboard (h : contact.InStep depth) (deed : Link.Aboard) :
    (contact.stepAboard deed).InStep depth := by
  obtain ⟨hmoved, hreceived, hconsumer⟩ := (contact.traffic.byAboard deed).books
  have hlength := hmoved.length_le
  have horigins := h.origins
  refine ⟨h.sound.step (.aboard deed), ?_, ?_, fun hphase => hconsumer.trans (h.taken hphase)⟩
  · simp only [Contact.stepAboard, List.length_append, List.length_replicate]
    omega
  · exact h.targets.trans (congrArg List.length hreceived.symm)

lemma stepUplink (h : contact.InStep depth) (event : Uplink.Event) :
    (contact.stepUplink event).InStep depth := by
  have hlink : (contact.stepUplink event).traffic.link = (contact.uplink.step event).2.link :=
    congrArg Uplink.link (contact.uplink_step_uplink event)
  obtain ⟨hwrites, hreceived⟩ := contact.traffic.books_foldl_stepGround (contact.uplink.deeds event)
  have hlength := hreceived.length_le
  have htargets := h.targets
  refine ⟨?_, ?_, ?_, fun hphase => ?_⟩
  · show Link.Traffic.DownlinkSound depth (List.foldl _ _ _)
    rw [Link.Traffic.foldl_stepGround_eq_run]
    exact Link.Traffic.run_induction h.sound Link.Traffic.DownlinkSound.step _
  · exact h.origins.trans (congrArg (·.moved.length) hwrites.symm)
  · simp only [Contact.stepUplink, List.length_append, List.length_replicate]
    omega
  · have hevent : event ≠ .shutdown := by
      rintro rfl
      exact hphase rfl
    have hbefore := (contact.uplink.phase_step event).ne_ended hphase
    rw [hlink, Uplink.consumer_step hevent]
    exact h.taken hbefore

lemma step (h : contact.InStep depth) (move : Move) : (contact.step move).InStep depth := by
  cases move with
  | uplink event => exact h.stepUplink event
  | aboard deed => exact h.stepAboard deed

lemma of_start (h : start { link := { depth } } = .ok contact) : contact.InStep depth := by
  obtain ⟨-, rfl⟩ := start_eq_ok_iff.1 h
  exact ⟨(Link.Traffic.DownlinkSound.fresh depth).step (.ground .takeDownlink), rfl, rfl, fun _ => rfl⟩

lemma run (h : contact.InStep depth) (moves : List Move) : (contact.run moves).InStep depth := by
  induction moves generalizing contact with
  | nil => exact h
  | cons move moves ih => exact ih (h.step move)

end InStep

/-! ## A queue that is empty whenever a station is left -/

/-- Whenever a station is left for the next one, nothing is queued for it. -/
def LeavesNothing : Contact → List Move → Prop
  | _, [] => True
  | contact, move :: moves =>
    (contact.station?.isSome → (contact.step move).phase = .listening →
      (contact.step move).traffic.link.downlink = []) ∧ LeavesNothing (contact.step move) moves

instance decidableLeavesNothing : (contact : Contact) → (moves : List Move) →
    Decidable (contact.LeavesNothing moves)
  | _, [] => isTrue trivial
  | contact, move :: moves =>
    have := decidableLeavesNothing (contact.step move) moves
    inferInstanceAs (Decidable (_ ∧ _))

/-- Every packet that was taken off the queue for a station was put there for this station, if for any, and
what is queued was put there for the station that is served. -/
structure Matched (contact : Contact) : Prop where
  sent : ∀ {k : Nat} {S T : Station}, contact.origins[k]? = some (some S) →
    contact.targets[k]? = some (some T) → S = T
  queued : contact.phase ≠ .ended → ∀ {k : Nat} {S : Station}, contact.targets.length ≤ k →
    contact.origins[k]? = some (some S) → contact.station? = some S

namespace Matched

lemma stepAboard (h : contact.Matched) (hstep : contact.InStep depth) (deed : Link.Aboard) :
    (contact.stepAboard deed).Matched := by
  constructor
  · intro k S T horigin htarget
    have hlt := (List.getElem?_eq_some_iff.1 htarget).1
    have hle := hstep.length_targets_le
    have hlt : k < contact.origins.length := Nat.lt_of_lt_of_le hlt hle
    simp only [Contact.stepAboard, List.getElem?_append_left hlt] at horigin
    exact h.sent horigin htarget
  · intro hphase k S hk horigin
    by_cases hold : k < contact.origins.length
    · simp only [Contact.stepAboard, List.getElem?_append_left hold] at horigin
      exact h.queued hphase hk horigin
    · simp only [Contact.stepAboard, List.getElem?_append_right (Nat.le_of_not_lt hold)] at horigin
      exact List.eq_of_mem_replicate (List.mem_of_getElem? horigin) |>.symm

lemma stepUplink (h : contact.Matched) (hstep : contact.InStep depth) (event : Uplink.Event)
    (hleaves : contact.station?.isSome → (contact.stepUplink event).phase = .listening →
      (contact.stepUplink event).traffic.link.downlink = []) : (contact.stepUplink event).Matched := by
  constructor
  · intro k S T horigin htarget
    by_cases hold : k < contact.targets.length
    · simp only [Contact.stepUplink, List.getElem?_append_left hold] at htarget
      exact h.sent horigin htarget
    · -- the packet was queued until now, so it was put there for the station that is served
      have hk := Nat.le_of_not_lt hold
      simp only [Contact.stepUplink, List.getElem?_append_right hk] at htarget
      have hserved : some T = contact.station? :=
        List.eq_of_mem_replicate (List.mem_of_getElem? htarget)
      have hphase : contact.phase ≠ .ended := by
        intro hended
        simp [station?, Phase.station?, hended] at hserved
      exact Option.some.inj ((h.queued hphase hk horigin).symm.trans hserved.symm)
  · intro hphase k S hk horigin
    have hnext := contact.uplink.phase_step event
    have hbefore : contact.phase ≠ .ended := hnext.ne_ended hphase
    have hle : contact.targets.length ≤ k := by
      simp only [Contact.stepUplink, List.length_append] at hk
      omega
    have hserved : contact.station? = some S := h.queued hbefore hle horigin
    -- when the station is left nothing is queued, so that there is no packet to speak of
    obtain hstays | hleft | hended := hnext.of_station? hserved
    · exact hstays
    · have hempty := hleaves (by simp [hserved]) hleft
      have hlength := (hstep.stepUplink event).length_origins hphase
      rw [hempty, List.length_nil] at hlength
      have hlt := (List.getElem?_eq_some_iff.1 horigin).1
      omega
    · exact absurd hended hphase

lemma run (h : contact.Matched) (hstep : contact.InStep depth) {moves : List Move}
    (hleaves : contact.LeavesNothing moves) : (contact.run moves).Matched := by
  induction moves generalizing contact with
  | nil => exact h
  | cons move moves ih =>
    obtain ⟨hleaves, hothers⟩ := hleaves
    refine ih ?_ (hstep.step move) hothers
    cases move with
    | uplink event => exact h.stepUplink hstep event hleaves
    | aboard deed => exact h.stepAboard hstep deed

lemma of_start {traffic : Link.Traffic} (h : start traffic = .ok contact) : contact.Matched := by
  obtain ⟨-, rfl⟩ := start_eq_ok_iff.1 h
  exact ⟨nofun, fun _ => nofun⟩

end Matched

/-! ## A queue that is not -/

/-- What a station leaves behind is sent to the next one: the one hangs up, the other is accepted, and the
packets that are queued are sent. -/
def handover (contact : Contact) : List Move :=
  .uplink .hangUp :: .uplink .accept ::
    List.replicate contact.traffic.link.downlink.length (.uplink (.transmit true))

/-- The next packet is sent to the station that is served. -/
lemma step_transmit {station : Station} {decoder : Decoder} {packet : Packet} {rest : List Packet}
    (hphase : contact.phase = .serving station decoder)
    (htaken : contact.traffic.link.consumer = .taken)
    (hqueue : contact.traffic.link.downlink = packet :: rest)
    (hfits : packet.payload.length ≤ Limits.framePayload) :
    let after := contact.step (.uplink (.transmit true))
    after.phase = .serving station decoder ∧ after.traffic.link.consumer = .taken ∧
      after.traffic.link.downlink = rest ∧
      after.effects = contact.effects ++ [.sent station packet (Frame.octets packet)] ∧
      after.targets = contact.targets ++ [some station] ∧ after.origins = contact.origins := by
  have hreceive : contact.traffic.link.receive =
      (some packet, { contact.traffic.link with downlink := rest }.grantPlace) := by
    simp [Link.Queue.receive, htaken, hqueue]
  have hframe : Frame.encode packet = .ok (Frame.octets packet) := if_neg (Nat.not_lt.2 hfits)
  simp [step, Contact.stepUplink, uplink, Uplink.step, Uplink.deeds, Link.Traffic.stepGround, hphase,
    hreceive, hframe, htaken, station?, Phase.station?]

/-- All that is queued is sent to the station that is served. -/
lemma run_transmit {station : Station} {decoder : Decoder} {packets : List Packet}
    (hphase : contact.phase = .serving station decoder)
    (htaken : contact.traffic.link.consumer = .taken)
    (hqueue : contact.traffic.link.downlink = packets)
    (hfits : ∀ packet ∈ packets, packet.payload.length ≤ Limits.framePayload) :
    let after := contact.run (List.replicate packets.length (.uplink (.transmit true)))
    after.effects = contact.effects ++
        packets.map (fun packet => .sent station packet (Frame.octets packet)) ∧
      after.targets = contact.targets ++ List.replicate packets.length (some station) ∧
      after.origins = contact.origins := by
  induction packets generalizing contact with
  | nil => simp
  | cons packet packets ih =>
    obtain ⟨hfirst, hothers⟩ := List.forall_mem_cons.1 hfits
    obtain ⟨hphase, htaken, hqueue, heffects, htargets, horigins⟩ :=
      step_transmit hphase htaken hqueue hfirst
    obtain ⟨heffects', htargets', horigins'⟩ := ih hphase htaken hqueue hothers
    simp only [List.length_cons, List.replicate_succ, run_cons]
    rw [heffects', htargets', horigins', heffects, htargets, horigins]
    simp

/-- **What a station leaves behind goes to the next one.** -/
lemma run_handover {decoder : Decoder} {waiting : List Station}
    (hphase : contact.phase = .serving S decoder) (hbacklog : contact.backlog = T :: waiting)
    (htaken : contact.traffic.link.consumer = .taken)
    (hfits : ∀ packet ∈ contact.traffic.link.downlink,
      packet.payload.length ≤ Limits.framePayload) :
    let after := contact.run contact.handover
    after.effects = contact.effects ++ .left S .hungUp ::
        contact.traffic.link.downlink.map
          (fun packet => .sent T packet (Frame.octets packet)) ∧
      after.targets = contact.targets ++
        List.replicate contact.traffic.link.downlink.length (some T) ∧
      after.origins = contact.origins := by
  obtain ⟨hwaiting, hleft, heffects, hlink, htargets⟩ := step_hangUp hphase
  obtain ⟨-, hserving, heffects', hlink', htargets'⟩ := step_accept hleft (hwaiting.trans hbacklog)
  rw [hlink] at hlink'
  have hsame := congrArg Link.Queue.consumer hlink'
  obtain ⟨hsent, hto, horigins⟩ := run_transmit hserving (hsame.trans htaken)
    (congrArg Link.Queue.downlink hlink') hfits
  simp only [handover, run_cons]
  refine ⟨hsent.trans ?_, hto.trans ?_, horigins⟩
  · rw [heffects', heffects, List.append_assoc]
    rfl
  · rw [htargets', htargets]
    rfl

/-- **A packet goes to the station that is served when it is sent.**  That is the station that was served when
the packet was written, if in the whole run nothing is queued whenever a station is left.  But what is queued
when a station hangs up, for which it was written, goes to the next station, packet by packet. -/
theorem downlink_goes_to_station_served (depth : Nat) (contact : Contact) (moves : List Move)
    (hstart : start { link := { depth } } = .ok contact) :
    let last := contact.run moves
    (contact.LeavesNothing moves → ∀ (k : Nat) (S T : Station),
      last.origins[k]? = some (some S) → last.targets[k]? = some (some T) → S = T) ∧
    ∀ (S T : Station) (decoder : Decoder) (waiting : List Station),
      last.phase = .serving S decoder → last.backlog = T :: waiting →
      (∀ packet ∈ last.traffic.link.downlink, packet.payload.length ≤ Limits.framePayload) →
      let queued := last.traffic.link.downlink
      let next := last.run last.handover
      next.effects = last.effects ++ .left S .hungUp ::
        queued.map (fun packet => .sent T packet (Frame.octets packet)) ∧
      next.origins = last.origins ∧ next.targets.length = last.origins.length ∧
      ∀ k, last.targets.length ≤ k → k < last.origins.length → next.targets[k]? = some (some T) := by
  intro last
  have hstep : last.InStep depth := (InStep.of_start hstart).run moves
  constructor
  · intro hleaves k S T horigin htarget
    exact ((Matched.of_start hstart).run (.of_start hstart) hleaves).sent horigin htarget
  · intro S T decoder waiting hphase hbacklog hfits queued next
    have hserving : last.phase ≠ .ended := by simp [hphase]
    have hlength := hstep.length_origins hserving
    obtain ⟨heffects, htargets, horigins⟩ :=
      run_handover hphase hbacklog (hstep.taken hserving) hfits
    refine ⟨heffects, horigins, ?_, fun k hk hlt => ?_⟩
    · rw [htargets, List.length_append, List.length_replicate, hlength]
    · rw [htargets, List.getElem?_append_right hk, List.getElem?_replicate, if_pos (by omega)]

/-- Two stations: in one run each gets what was written for it, and in the other the second gets what was
written for the first. -/
theorem downlink_of_two_stations :
    let ping : Packet := ⟨.telemetry, [112, 105]⟩
    let pong : Packet := ⟨.telemetry, [112, 111]⟩
    let contact : Contact := { traffic := { link := { depth := 20, consumer := .taken } } }
    let prompt : List Move :=
      [.uplink (.arrive 1), .uplink .accept, .aboard (.write ping none), .uplink (.transmit true),
        .uplink .hangUp, .uplink (.arrive 2), .uplink .accept, .aboard (.write pong none),
        .uplink (.transmit true)]
    let late : List Move :=
      [.uplink (.arrive 1), .uplink (.arrive 2), .uplink .accept, .aboard (.write ping none),
        .aboard (.write pong none)]
    let last := contact.run late
    (∃ S T, S = T ∧ (contact.run prompt).origins[1]? = some (some S) ∧
      (contact.run prompt).targets[1]? = some (some T)) ∧
    last.origins = [some 1, some 1] ∧
    (last.run last.handover).effects =
      [.left 1 .hungUp, .sent 2 ping (Frame.octets ping), .sent 2 pong (Frame.octets pong)] ∧
    (last.run last.handover).targets[1]? = some (some 2) := by
  intro ping pong contact prompt late last
  have hstart : start { link := { depth := 20 } } = .ok contact := rfl
  have horigin : (contact.run prompt).origins[1]? = some (some 2) := by decide
  have htarget : (contact.run prompt).targets[1]? = some (some 2) := by decide
  obtain ⟨hmatched, -⟩ := downlink_goes_to_station_served 20 contact prompt hstart
  obtain ⟨-, hcarried⟩ := downlink_goes_to_station_served 20 contact late hstart
  obtain ⟨heffects, -, -, htargets⟩ := hcarried 1 2 {} [] (by decide) (by decide) (by decide)
  exact ⟨⟨2, 2, hmatched (by decide) 1 2 2 horigin htarget, horigin, htarget⟩, by decide,
    heffects.trans (by decide), htargets 1 (by decide) (by decide)⟩

/-- A write that is told its length while station 1 is served, and whose packet is sent to station 2. -/
theorem pong_sent_to_next_station :
    let pong : Packet := ⟨.telemetry, [112, 111, 110, 103]⟩
    let contact : Contact := { traffic := { link := { depth := 20, consumer := .taken } } }
    let moves : List Move :=
      [.uplink (.arrive 1), .uplink .accept, .aboard (.write pong none), .uplink .hangUp,
        .uplink (.arrive 2), .uplink .accept, .uplink (.transmit true)]
    let last := contact.run moves
    start { link := { depth := 20 } } = .ok contact ∧
      (contact.run (moves.take 2)).station? = some 1 ∧
      (contact.run (moves.take 3)).traffic.writes.calls =
        [⟨⟨pong, none, 0, true⟩, .ended pong.payload.length⟩] ∧
      last.origins[0]? = some (some 1) ∧ last.targets[0]? = some (some 2) ∧
      last.effects = [.left 1 .hungUp, .sent 2 pong (Frame.octets pong)] := by
  decide

end Contact

end FlightScript
