import FlightScript.Proofs.Uplink.Range
import FlightScript.Uplink.Rehearsal
/-!
# What a rehearsal shows

An uplink that is tried by hand shows two things, whatever is done, as long as it is not shut down: the link is
in range exactly while a station is connected, and no other uplink can be started on it
(`Rehearsal.shows_range`).  To wait for a station comes to an end exactly if something that is heard brings the
link in range (`Rehearsal.connect_eq_done_iff`).

If nothing is ever heard of the network, as by the clock of a flight, it shows an uplink that waits for its
first station: nothing goes down and nothing comes up, whatever is done (`Rehearsal.shows_silence`).
-/

namespace FlightScript.Uplink

lemma isServing_eq_isSome (uplink : Uplink) : uplink.isServing = uplink.phase.station?.isSome := by
  obtain ⟨_, phase, _⟩ := uplink
  cases phase <;> rfl

namespace Rehearsal

/-- What may be done in a rehearsal. -/
inductive Deed where
  | connect (heard : List Event)
  | downlink (packet : Packet)
  | read (capacity : Nat)

/-- All that the uplink hears of the network meanwhile. -/
def Deed.heard : Deed → List Event
  | connect heard => heard
  | _ => []

def step (rehearsal : Rehearsal) : Deed → Rehearsal
  | .connect heard => (rehearsal.connect heard).2
  | .downlink packet => (rehearsal.downlink packet).2
  | .read capacity => (rehearsal.read capacity).2

def run (rehearsal : Rehearsal) (deeds : List Deed) : Rehearsal :=
  deeds.foldl step rehearsal

variable {rehearsal : Rehearsal} {uplink : Uplink} {depth : Nat} {deeds : List Deed}

/-! ## Waiting for a station -/

lemma connect_of_inRange (h : rehearsal.inRange = true) (heard : List Event) :
    rehearsal.connect heard = (.done (), rehearsal) := by
  rw [connect.eq_def, if_pos h]

lemma connect_cons (h : rehearsal.inRange = false) (event : Event) (heard : List Event) :
    rehearsal.connect (event :: heard) = connect ⟨(rehearsal.uplink.step event).2⟩ heard := by
  rw [connect, if_neg (by simp [h])]

/-- **A station is waited for until something that is heard has brought the link in range**, and in vain if
nothing does. -/
theorem connect_eq_done_iff {heard : List Event} :
    (rehearsal.connect heard).1 = .done () ↔
      ∃ front, front <+: heard ∧ (rehearsal.uplink.run front).2.link.inRange = true := by
  induction heard generalizing rehearsal with
  | nil =>
    have hnow : (∃ front, front <+: [] ∧ (rehearsal.uplink.run front).2.link.inRange = true) ↔
        rehearsal.inRange = true := by
      simp [Uplink.run, inRange]
    rw [hnow, connect]
    split <;> simp_all
  | cons event heard ih =>
    cases hrange : rehearsal.inRange with
    | true =>
      rw [connect_of_inRange hrange]
      exact iff_of_true rfl ⟨[], List.nil_prefix, hrange⟩
    | false =>
      rw [connect_cons hrange, ih]
      constructor
      · rintro ⟨front, hprefix, hheard⟩
        exact ⟨event :: front, List.cons_prefix_cons.2 ⟨rfl, hprefix⟩, hheard⟩
      · rintro ⟨front, hprefix, hheard⟩
        cases front with
        | nil => exact nomatch hrange.symm.trans hheard
        | cons other front =>
          obtain ⟨rfl, hrest⟩ := List.cons_prefix_cons.1 hprefix
          exact ⟨front, hrest, hheard⟩

/-! ## What stays, whatever is done -/

/-- The link is in range exactly while a station is served, and the uplink has its downlink. -/
structure Sound (uplink : Uplink) : Prop where
  range : uplink.link.inRange = uplink.isServing
  downlink : uplink.link.consumer = .taken

namespace Sound

lemma event (h : Sound uplink) {event : Event} (hevent : event ≠ .shutdown) :
    Sound (uplink.step event).2 := by
  refine ⟨?_, (consumer_step hevent).trans h.downlink⟩
  have hturn := uplink.rangeTurn_step event
  have hbefore := h.range
  rw [isServing_eq_isSome] at hbefore ⊢
  generalize uplink.step event = turn at hturn
  cases hturn with
  | stays hstation _ _ hrange => rw [hrange, hbefore, hstation]
  | accepts _ hserved hrange => rw [hrange, hserved, Option.isSome_some]
  | leaves _ hphase _ hrange =>
    rw [hrange, hphase]
    rfl
  | ends => exact absurd rfl hevent

lemma connect (h : Sound rehearsal.uplink) {heard : List Event} (hheard : .shutdown ∉ heard) :
    Sound (rehearsal.connect heard).2.uplink := by
  induction heard generalizing rehearsal with
  | nil =>
    rw [Rehearsal.connect]
    split <;> exact h
  | cons event heard ih =>
    rw [List.mem_cons, not_or] at hheard
    cases hrange : rehearsal.inRange with
    | true =>
      rw [connect_of_inRange hrange]
      exact h
    | false =>
      rw [connect_cons hrange]
      exact ih (h.event (Ne.symm hheard.1)) hheard.2

/-- What neither moves the range nor the downlink's receiving end may be done to the link. -/
lemma withLink (h : Sound uplink) {link : Link.Queue} (hrange : link.inRange = uplink.link.inRange)
    (hconsumer : link.consumer = uplink.link.consumer) : Sound { uplink with link } :=
  ⟨hrange.trans h.range, hconsumer.trans h.downlink⟩

/-- **One deed.** -/
lemma step (h : Sound rehearsal.uplink) {deed : Deed} (hdeed : .shutdown ∉ deed.heard) :
    Sound (rehearsal.step deed).uplink := by
  cases deed with
  | connect heard => exact h.connect hdeed
  | downlink packet =>
    have honly := rehearsal.uplink.link.writesOnly_beginWrite 0 packet (some 0)
    have hlink := h.withLink honly.inRange honly.consumer
    simp only [Rehearsal.step, Rehearsal.downlink]
    split <;> simp_all
  | read capacity =>
    have honly := rehearsal.uplink.link.readsOnly_beginRead 0 (some 0)
    have hlink := h.withLink honly.inRange honly.consumer
    simp only [Rehearsal.step, Rehearsal.read]
    split <;> simp_all

lemma run (h : Sound rehearsal.uplink) (hdeeds : ∀ deed ∈ deeds, .shutdown ∉ deed.heard) :
    Sound (rehearsal.run deeds).uplink := by
  induction deeds generalizing rehearsal with
  | nil => exact h
  | cons deed deeds ih =>
    obtain ⟨hdeed, hothers⟩ := List.forall_mem_cons.1 hdeeds
    exact ih (h.step hdeed) hothers

end Sound

/-- **In a rehearsal range and station never part.**  After any deeds the link is in range exactly while a
station is connected, and another uplink is refused, unless the uplink was shut down. -/
theorem shows_range (hbegin : begin depth = .ok rehearsal)
    (hdeeds : ∀ deed ∈ deeds, .shutdown ∉ deed.heard) :
    let there := rehearsal.run deeds
    there.inRange = there.isConnected ∧ there.second = .error .downlinkInUse := by
  intro there
  obtain rfl := Except.ok.inj hbegin
  have hthere : Sound there.uplink := Sound.run ⟨rfl, rfl⟩ hdeeds
  refine ⟨hthere.range, ?_⟩
  simp [second, start, Link.Queue.takeDownlink, hthere.downlink]

/-! ## Where nothing is heard -/

/-- The link is out of range, and has nothing to read and nobody who reads. -/
structure Silent (link : Link.Queue) : Prop where
  range : link.inRange = false
  uplink : link.uplink = []
  readers : link.readers = []

namespace Silent

lemma connect_nil (h : Silent rehearsal.uplink.link) :
    rehearsal.connect [] = (.cutOff (), rehearsal) := by
  rw [connect, if_neg (by simp [inRange, h.range])]

lemma downlink_eq (h : Silent rehearsal.uplink.link) (packet : Packet) :
    rehearsal.downlink packet = (some 0, rehearsal) := by
  simp [downlink, Link.Queue.beginWrite, h.range]

/-- A read that finds nothing has only used up a ticket. -/
lemma read_eq (h : Silent rehearsal.uplink.link) (capacity : Nat) :
    ∃ link, Silent link ∧ rehearsal.read capacity = ([], ⟨{ rehearsal.uplink with link }⟩) := by
  obtain ⟨hrange, huplink, hreaders⟩ := h
  refine ⟨{ rehearsal.uplink.link with nextTicket := rehearsal.uplink.link.nextTicket + 1 },
    ⟨hrange, huplink, hreaders⟩, ?_⟩
  simp [read, Link.Queue.beginRead, Link.Queue.resumeRead, Link.Queue.receiveScript, Link.Queue.endRead,
    huplink, hreaders, expired]

/-- **One deed**, behind which nothing was heard. -/
lemma step (h : Silent rehearsal.uplink.link) {deed : Deed} (hdeed : deed.heard = []) :
    Silent (rehearsal.step deed).uplink.link := by
  cases deed with
  | connect heard =>
    obtain rfl : heard = [] := hdeed
    rw [Rehearsal.step, h.connect_nil]
    exact h
  | downlink packet =>
    rw [Rehearsal.step, h.downlink_eq]
    exact h
  | read capacity =>
    obtain ⟨link, hlink, hread⟩ := h.read_eq capacity
    rw [Rehearsal.step, hread]
    exact hlink

lemma run (h : Silent rehearsal.uplink.link) (hdeeds : ∀ deed ∈ deeds, deed.heard = []) :
    Silent (rehearsal.run deeds).uplink.link := by
  induction deeds generalizing rehearsal with
  | nil => exact h
  | cons deed deeds ih =>
    obtain ⟨hdeed, hothers⟩ := List.forall_mem_cons.1 hdeeds
    exact ih (h.step hdeed) hothers

end Silent

/-- **Where nothing is heard, nothing goes down and nothing comes up.**  After any deeds a station is waited
for in vain, no octet of a packet is written, and there is no script to read. -/
theorem shows_silence (hbegin : begin depth = .ok rehearsal)
    (hdeeds : ∀ deed ∈ deeds, deed.heard = []) :
    let there := rehearsal.run deeds
    there.connect = (.cutOff (), there) ∧ (∀ packet, there.downlink packet = (some 0, there)) ∧
      ∀ capacity, (there.read capacity).1 = [] := by
  intro there
  obtain rfl := Except.ok.inj hbegin
  have hthere : Silent there.uplink.link := Silent.run ⟨rfl, rfl, rfl⟩ hdeeds
  refine ⟨hthere.connect_nil, hthere.downlink_eq, fun capacity => ?_⟩
  obtain ⟨_, _, hread⟩ := hthere.read_eq capacity
  rw [hread]

end Rehearsal

end FlightScript.Uplink
