import FlightScript.Uplink
import FlightScript.Proofs.Link.Writing
/-!
# An uplink and the spacecraft on one link

An uplink has the ground's side of a link to itself, while the spacecraft reads and writes on the other.
`Contact` is the two together, and `Contact.run` takes them through any list of moves, of either side.

What an uplink does to its link are deeds of the ground (`Uplink.deeds`), so a contact is traffic on the link
(`Contact.exists_run_traffic`), and all that holds of traffic holds here; and what is left when the
spacecraft's calls are forgotten is the uplink as it steps by itself (`Contact.uplink_step_uplink`).

## Where packets come from and go to

A packet is known by its place in the order in which packets are put on the downlink queue, which is the order
in which they are taken off it.  A contact keeps for each of them which station was served when it was put
there (`origins`), and which when it was taken off (`targets`).
-/

namespace FlightScript

/-! ## What an uplink does to its link -/

namespace Link.Queue

/-- A deed of the ground, as far as the link is concerned. -/
def afterGround (queue : Queue) : Ground → Queue
  | .insert script => (queue.insert script).2
  | .setInRange inRange => queue.setInRange inRange
  | .takeDownlink => queue.takeDownlink.2
  | .dropDownlink => queue.dropDownlink
  | .receive => queue.receive.2

/-- Who has the downlink is changed by taking it and by giving it up only. -/
lemma consumer_foldl_afterGround {deeds : List Ground}
    (h : ∀ deed ∈ deeds, deed ≠ .takeDownlink ∧ deed ≠ .dropDownlink) (queue : Queue) :
    (deeds.foldl afterGround queue).consumer = queue.consumer := by
  induction deeds generalizing queue with
  | nil => rfl
  | cons deed deeds ih =>
    obtain ⟨hdeed, hothers⟩ := List.forall_mem_cons.1 h
    rw [List.foldl_cons, ih hothers]
    cases deed with
    | insert script => exact (queue.readsOnly_insert script).consumer
    | setInRange inRange => rfl
    | takeDownlink => exact absurd rfl hdeed.1
    | dropDownlink => exact absurd rfl hdeed.2
    | receive =>
      have hturn := queue.receiveTurn
      simp only [afterGround]
      generalize queue.receive = turn at hturn ⊢
      cases hturn with
      | nothing => rfl
      | packet htaken _ hconsumer _ => exact hconsumer.trans htaken.symm

end Link.Queue

namespace Link.Traffic

lemma link_stepGround (traffic : Traffic) (deed : Ground) :
    (traffic.stepGround deed).link = traffic.link.afterGround deed := by
  cases deed <;> rfl

lemma link_foldl_stepGround (traffic : Traffic) (deeds : List Ground) :
    (deeds.foldl stepGround traffic).link = deeds.foldl Queue.afterGround traffic.link := by
  induction deeds generalizing traffic with
  | nil => rfl
  | cons deed deeds ih => rw [List.foldl_cons, ih, link_stepGround, List.foldl_cons]

lemma foldl_stepGround_eq_run (traffic : Traffic) (deeds : List Ground) :
    deeds.foldl stepGround traffic = traffic.run (deeds.map .ground) := by
  rw [run, List.foldl_map]
  rfl

end Link.Traffic

namespace Uplink

open Link (Ground)

/-- The station that is served. -/
def Phase.station? : Phase → Option Station
  | .serving station _ => some station
  | _ => none

/-- Where an uplink stands after an event, by where it stood before. -/
inductive Phase.Next : Phase → Phase → Prop where
  | stays {phase : Phase} : Next phase phase
  | hears {station : Station} {decoder decoder' : Decoder} :
    Next (.serving station decoder) (.serving station decoder')
  | accepts {station : Station} : Next .listening (.serving station {})
  | leaves {station : Station} {decoder : Decoder} : Next (.serving station decoder) .listening
  | ends {phase : Phase} : Next phase .ended

/-- An uplink that has ended has ended for good. -/
lemma Phase.Next.ne_ended {phase phase' : Phase} (h : phase.Next phase') (hphase : phase' ≠ .ended) :
    phase ≠ .ended := by
  cases h with
  | stays => exact hphase
  | hears | accepts | leaves => simp
  | ends => exact absurd rfl hphase

/-- A station is served until it is left, or the uplink ends. -/
lemma Phase.Next.of_station? {phase phase' : Phase} {station : Station} (h : phase.Next phase')
    (hserved : phase.station? = some station) :
    phase'.station? = some station ∨ phase' = .listening ∨ phase' = .ended := by
  cases h with
  | stays | hears => exact .inl hserved
  | accepts => cases hserved
  | leaves => exact .inr (.inl rfl)
  | ends => exact .inr (.inr rfl)

lemma phase_step (uplink : Uplink) (event : Event) :
    uplink.phase.Next (uplink.step event).2.phase := by
  obtain ⟨link, phase, backlog⟩ := uplink
  cases event with
  | arrive station => exact .stays
  | shutdown => exact .ends
  | accept =>
    cases phase with
    | listening =>
      cases backlog with
      | nil => exact .stays
      | cons station waiting => exact .accepts
    | serving | ended => exact .stays
  | bytes piece =>
    cases phase with
    | serving station decoder =>
      simp only [step]
      cases (decoder.feed piece).drain.2.1 with
      | none => exact .hears
      | some e => exact .leaves
    | listening | ended => exact .stays
  | hangUp | readError =>
    cases phase with
    | serving station decoder => exact .leaves
    | listening | ended => exact .stays
  | transmit taken =>
    cases phase with
    | serving station decoder =>
      simp only [step]
      split
      · exact .stays
      · split
        · exact .leaves
        · exact .leaves
        · exact .stays
    | listening | ended => exact .stays

/-- What an event comes to on the link. -/
def deeds (uplink : Uplink) : Event → List Ground
  | .arrive _ => []
  | .accept =>
    match uplink.phase, uplink.backlog with
    | .listening, _ :: _ => [.setInRange true]
    | _, _ => []
  | .bytes piece =>
    match uplink.phase with
    | .serving _ decoder =>
      let (packets, fault, _) := (decoder.feed piece).drain
      (scripts packets).map .insert ++ if fault.isSome then [.setInRange false] else []
    | _ => []
  | .hangUp => if uplink.phase.station?.isSome then [.setInRange false] else []
  | .readError => if uplink.phase.station?.isSome then [.setInRange false] else []
  | .transmit taken =>
    match uplink.phase, uplink.link.receive with
    | .serving .., (some packet, _) =>
      match Frame.encode packet, taken with
      | .ok _, true => [.receive]
      | _, _ => [.receive, .setInRange false]
    | _, _ => []
  | .shutdown => [.dropDownlink]

/-- Offering scripts is inserting them one after another. -/
lemma offerAll_snd (offers : List Bytes) (link : Link.Queue) :
    (offerAll offers link).2 = (offers.map .insert).foldl Link.Queue.afterGround link := by
  induction offers generalizing link with
  | nil => rfl
  | cons script offers ih =>
    rw [offerAll, ih]
    rfl

/-- The link after an event is the link after the deeds. -/
lemma link_step (uplink : Uplink) (event : Event) :
    (uplink.step event).2.link = (uplink.deeds event).foldl Link.Queue.afterGround uplink.link := by
  obtain ⟨link, phase, backlog⟩ := uplink
  cases event with
  | arrive station | shutdown => rfl
  | accept => cases phase <;> cases backlog <;> rfl
  | bytes piece =>
    cases phase with
    | serving station decoder =>
      simp only [step, deeds, List.foldl_append, ← offerAll_snd]
      cases (decoder.feed piece).drain.2.1 <;> rfl
    | listening | ended => rfl
  | hangUp | readError => cases phase <;> rfl
  | transmit taken =>
    cases phase with
    | serving station decoder =>
      cases hreceive : link.receive with
      | mk found left =>
        cases found with
        | none => simp [step, deeds, hreceive]
        | some packet =>
          -- a packet is taken off the queue whether or not it can be sent
          cases hframe : Frame.encode packet <;> cases taken <;>
            simp [step, deeds, hreceive, hframe, leave, Link.Queue.afterGround]
    | listening | ended => rfl

/-- An uplink that is not shut down keeps the downlink. -/
lemma consumer_step {uplink : Uplink} {event : Event} (h : event ≠ .shutdown) :
    (uplink.step event).2.link.consumer = uplink.link.consumer := by
  rw [link_step]
  apply Link.Queue.consumer_foldl_afterGround
  -- only a shutdown comes to a deed that takes the downlink or gives it up
  intro deed hdeed
  cases event with
  | arrive station => simp [deeds] at hdeed
  | accept =>
    simp only [deeds] at hdeed
    split at hdeed <;> simp_all
  | bytes piece =>
    simp only [deeds] at hdeed
    split at hdeed
    · simp only [List.mem_append, List.mem_map] at hdeed
      obtain ⟨script, -, rfl⟩ | hdeed := hdeed
      · simp
      · split at hdeed <;> simp_all
    · simp at hdeed
  | hangUp | readError =>
    simp only [deeds] at hdeed
    split at hdeed <;> simp_all
  | transmit taken =>
    simp only [deeds] at hdeed
    split at hdeed
    · split at hdeed
      · simp_all
      · simp only [List.mem_cons, List.not_mem_nil, or_false] at hdeed
        obtain rfl | rfl := hdeed <;> simp
    · simp at hdeed
  | shutdown => exact absurd rfl h

end Uplink

/-! ## Both sides -/

/-- An uplink and the spacecraft on one link. -/
structure Contact where
  traffic : Link.Traffic
  phase : Uplink.Phase := .listening
  backlog : List Station := []
  /-- What the uplink has done. -/
  effects : List Uplink.Effect := []
  /-- Which station was served when a packet was put on the downlink queue, packet by packet. -/
  origins : List (Option Station) := []
  /-- Which station was served when a packet was taken off it. -/
  targets : List (Option Station) := []
  deriving DecidableEq, Repr

namespace Contact

inductive Move where
  | uplink (event : Uplink.Event)
  | aboard (deed : Link.Aboard)
  deriving DecidableEq, Repr

variable {contact : Contact}

def uplink (contact : Contact) : Uplink :=
  ⟨contact.traffic.link, contact.phase, contact.backlog⟩

def station? (contact : Contact) : Option Station :=
  contact.phase.station?

/-- Begins a contact on a link that may have been in use before. -/
def start (traffic : Link.Traffic) : Except Uplink.StartError Contact :=
  (fun uplink => ⟨{ traffic with link := uplink.link }, uplink.phase, uplink.backlog, [], [], []⟩) <$>
    Uplink.start traffic.link

def stepAboard (contact : Contact) (deed : Link.Aboard) : Contact :=
  let traffic := contact.traffic.stepAboard deed
  let written := traffic.writes.moved.length - contact.traffic.writes.moved.length
  { contact with
    traffic, origins := contact.origins ++ List.replicate written contact.station? }

def stepUplink (contact : Contact) (event : Uplink.Event) : Contact :=
  let (effects, uplink) := contact.uplink.step event
  let traffic := (contact.uplink.deeds event).foldl Link.Traffic.stepGround contact.traffic
  let received := traffic.received.length - contact.traffic.received.length
  { contact with
    traffic, phase := uplink.phase, backlog := uplink.backlog, effects := contact.effects ++ effects,
    targets := contact.targets ++ List.replicate received contact.station? }

def step (contact : Contact) : Move → Contact
  | .uplink event => contact.stepUplink event
  | .aboard deed => contact.stepAboard deed

def run (contact : Contact) (moves : List Move) : Contact :=
  moves.foldl step contact

@[simp] lemma run_nil (contact : Contact) : contact.run [] = contact := rfl

@[simp] lemma run_cons (contact : Contact) (move : Move) (moves : List Move) :
    contact.run (move :: moves) = (contact.step move).run moves := rfl

/-- **A contact is an uplink**, with more going on around it. -/
lemma uplink_step_uplink (contact : Contact) (event : Uplink.Event) :
    (contact.step (.uplink event)).uplink = (contact.uplink.step event).2 := by
  have hlink := contact.uplink.link_step event
  simp only [step, stepUplink, uplink, Link.Traffic.link_foldl_stepGround]
  exact congrArg (fun link => Uplink.mk link _ _) hlink.symm

/-- **A contact is traffic on the link.** -/
lemma exists_run_traffic (contact : Contact) (moves : List Move) :
    ∃ events, (contact.run moves).traffic = contact.traffic.run events := by
  induction moves generalizing contact with
  | nil => exact ⟨[], rfl⟩
  | cons move moves ih =>
    obtain ⟨events, hevents⟩ := ih (contact.step move)
    obtain ⟨front, hfront⟩ : ∃ front, (contact.step move).traffic = contact.traffic.run front := by
      cases move with
      | uplink event =>
        exact ⟨_, Link.Traffic.foldl_stepGround_eq_run contact.traffic (contact.uplink.deeds event)⟩
      | aboard deed => exact ⟨[.aboard deed], rfl⟩
    refine ⟨front ++ events, ?_⟩
    rw [run_cons, hevents, hfront, Link.Traffic.run_append]

/-- A contact begins exactly on a link whose downlink nobody has taken. -/
lemma start_eq_ok_iff {traffic : Link.Traffic} :
    start traffic = .ok contact ↔ traffic.link.consumer = .untaken ∧
      contact = { traffic := traffic.stepGround .takeDownlink } := by
  simp only [start, Uplink.start, Link.Traffic.stepGround, Link.Queue.takeDownlink]
  by_cases huntaken : traffic.link.consumer = .untaken
  · simp only [huntaken, if_true, true_and]
    constructor
    · rintro ⟨⟩
      rfl
    · rintro rfl
      rfl
  · simp only [huntaken, if_false, false_and, iff_false]
    rintro ⟨⟩

/-! ## One move -/

/-- Where no station is served, neither octets nor the end of a stream come to anything. -/
lemma step_of_listening (hphase : contact.phase = .listening) {event : Uplink.Event}
    (hevent : event = .hangUp ∨ ∃ piece, event = .bytes piece) :
    contact.step (.uplink event) = contact := by
  obtain ⟨traffic, phase, backlog, effects, origins, targets⟩ := contact
  obtain rfl : phase = .listening := hphase
  obtain rfl | ⟨piece, rfl⟩ := hevent <;>
    simp [step, stepUplink, uplink, Uplink.step, Uplink.deeds, Uplink.Phase.station?]

lemma step_arrive (contact : Contact) (station : Station) :
    let after := contact.step (.uplink (.arrive station))
    after.backlog = contact.backlog ++ [station] ∧ after.phase = contact.phase ∧
      after.effects = contact.effects := by
  simp [step, stepUplink, uplink, Uplink.step]

lemma step_accept {station : Station} {waiting : List Station} (hphase : contact.phase = .listening)
    (hbacklog : contact.backlog = station :: waiting) :
    let after := contact.step (.uplink .accept)
    after.backlog = waiting ∧ after.phase = .serving station {} ∧ after.effects = contact.effects ∧
      after.traffic.link = contact.traffic.link.setInRange true ∧ after.targets = contact.targets := by
  simp [step, stepUplink, uplink, Uplink.step, Uplink.deeds, Link.Traffic.stepGround, hphase, hbacklog]

lemma step_hangUp {station : Station} {decoder : Decoder}
    (hphase : contact.phase = .serving station decoder) :
    let after := contact.step (.uplink .hangUp)
    after.backlog = contact.backlog ∧ after.phase = .listening ∧
      after.effects = contact.effects ++ [.left station .hungUp] ∧
      after.traffic.link = contact.traffic.link.setInRange false ∧ after.targets = contact.targets := by
  simp [step, stepUplink, uplink, Uplink.step, Uplink.deeds, Uplink.leave, Uplink.Phase.station?,
    Link.Traffic.stepGround, hphase]

end Contact

end FlightScript
