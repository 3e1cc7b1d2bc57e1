import FlightScript.Proofs.Uplink.Contact
/-!
# The range of a link that has an uplink

An uplink tells its link that it is in range when it accepts a station, and that it is not when it leaves one,
whatever the reason.  Nothing else that an uplink does, and nothing that the spacecraft does, changes the
range.  So the link is in range exactly while a station is served, except for one way that a visit can end: an
uplink that is shut down does not leave its station, it only stops (`Contact.CutsOff`), and then nobody is there
to tell the link.

A link may have been in range before it had an uplink.  Then it stays so until the first station is left.
-/

namespace FlightScript

/-! ## What one event does -/

namespace Uplink

variable {uplink : Uplink}

lemma inRange_offerAll (offers : List Bytes) (link : Link.Queue) :
    (offerAll offers link).2.inRange = link.inRange := by
  induction offers generalizing link with
  | nil => rfl
  | cons script offers ih => exact (ih _).trans (link.readsOnly_insert script).inRange

/-- What an event comes to for the range, by whether a station is served before and after it. -/
inductive RangeTurn (uplink : Uplink) : Event → List Effect × Uplink → Prop where
  /-- The same station is served as before, or none. -/
  | stays {event : Event} {effects : List Effect} {after : Uplink}
      (hstation : after.phase.station? = uplink.phase.station?)
      (hended : uplink.phase = .ended → after.phase = .ended)
      (hnothing : uplink.phase.station? = none → effects = [])
      (hrange : after.link.inRange = uplink.link.inRange) : RangeTurn uplink event (effects, after)
  | accepts {after : Uplink} {station : Station} (hphase : uplink.phase = .listening)
      (hserved : after.phase.station? = some station) (hrange : after.link.inRange = true) :
    RangeTurn uplink .accept ([], after)
  | leaves {event : Event} {effects : List Effect} {after : Uplink} {station : Station}
      {why : Farewell} (hserved : uplink.phase.station? = some station)
      (hphase : after.phase = .listening) (hleft : .left station why ∈ effects)
      (hrange : after.link.inRange = false) : RangeTurn uplink event (effects, after)
  /-- The uplink stops, whether or not a station is served, and leaves the range as it is. -/
  | ends {after : Uplink} (hphase : after.phase = .ended)
      (hrange : after.link.inRange = uplink.link.inRange) : RangeTurn uplink .shutdown ([], after)

/-- An event that comes to nothing. -/
lemma RangeTurn.nothing (uplink : Uplink) (event : Event) : RangeTurn uplink event ([], uplink) :=
  .stays rfl id (fun _ => rfl) rfl

lemma RangeTurn.of_leave {station : Station} (hserved : uplink.phase.station? = some station)
    (before : List Effect) (left : Uplink) (why : Farewell) (event : Event) :
    RangeTurn uplink event (before ++ (left.leave station why).1, (left.leave station why).2) :=
  .leaves hserved rfl (List.mem_append_right _ (List.mem_singleton_self _)) rfl

lemma rangeTurn_step (uplink : Uplink) (event : Event) :
    RangeTurn uplink event (uplink.step event) := by
  obtain ⟨link, phase, backlog⟩ := uplink
  cases event with
  | arrive station => exact .stays rfl id (fun _ => rfl) rfl
  | shutdown => exact .ends rfl link.inRange_dropDownlink
  | accept =>
    cases phase with
    | listening =>
      cases backlog with
      | nil => exact .nothing _ _
      | cons station waiting => exact .accepts rfl rfl rfl
    | serving | ended => exact .nothing _ _
  | bytes piece =>
    cases phase with
    | serving station decoder =>
      simp only [step]
      cases (decoder.feed piece).drain.2.1 with
      | none => exact .stays rfl (by simp) (by simp [Phase.station?]) (inRange_offerAll _ link)
      | some e => exact .of_leave rfl _ _ _ _
    | listening | ended => exact .nothing _ _
  | hangUp | readError =>
    cases phase with
    | serving station decoder => exact .of_leave rfl [] _ _ _
    | listening | ended => exact .nothing _ _
  | transmit taken =>
    cases phase with
    | serving station decoder =>
      simp only [step]
      split
      · exact .nothing _ _
      · next packet left hreceive =>
        split
        · exact .of_leave rfl [] _ _ _
        · exact .of_leave rfl [] _ _ _
        · have hrange := link.inRange_receive
          rw [hreceive] at hrange
          exact .stays rfl (by simp) (by simp [Phase.station?]) hrange
    | listening | ended => exact .nothing _ _

end Uplink

namespace Contact

variable {contact : Contact} {traffic : Link.Traffic} {moves : List Move}

/-- Some station was left. -/
def HasLeft (contact : Contact) : Prop :=
  ∃ station why, .left station why ∈ contact.effects

/-- The uplink is shut down while a station is served. -/
def CutsOff : Contact → List Move → Prop
  | _, [] => False
  | contact, move :: moves =>
    (contact.station?.isSome ∧ move = .uplink .shutdown) ∨ CutsOff (contact.step move) moves

instance decidableCutsOff : (contact : Contact) → (moves : List Move) →
    Decidable (contact.CutsOff moves)
  | _, [] => isFalse id
  | contact, move :: moves =>
    have := decidableCutsOff (contact.step move) moves
    inferInstanceAs (Decidable (_ ∨ _))

/-- The link is in range while a station is served, and it is out of range while none is, once that is known:
because a station was left, or for some other reason (`known`). -/
structure TellsRange (known : Prop) (contact : Contact) : Prop where
  served : contact.station?.isSome → contact.traffic.link.inRange = true
  alone : contact.station? = none → known ∨ contact.HasLeft → contact.traffic.link.inRange = false

/-- An event in a contact, for the range. -/
lemma rangeTurn_stepUplink (contact : Contact) (event : Uplink.Event) :
    ∃ effects, (contact.step (.uplink event)).effects = contact.effects ++ effects ∧
      Uplink.RangeTurn contact.uplink event (effects, (contact.step (.uplink event)).uplink) := by
  refine ⟨_, rfl, ?_⟩
  rw [uplink_step_uplink]
  exact contact.uplink.rangeTurn_step event

namespace TellsRange

variable {known : Prop}

lemma stepUplink (h : contact.TellsRange known) {event : Uplink.Event}
    (huncut : ¬ (contact.station?.isSome ∧ event = .shutdown)) :
    (contact.step (.uplink event)).TellsRange known := by
  obtain ⟨effects, heffects, hturn⟩ := contact.rangeTurn_stepUplink event
  generalize contact.step (.uplink event) = after at heffects hturn
  cases hturn with
  | stays hstation hended hnothing hrange =>
    have hstation : after.station? = contact.station? := hstation
    refine ⟨fun hserved => hrange.trans (h.served (hstation ▸ hserved)), fun halone hknown => ?_⟩
    -- where no station is served and none is accepted, none is left either
    have hbefore : contact.station? = none := hstation.symm.trans halone
    rw [HasLeft, heffects, hnothing hbefore, List.append_nil] at hknown
    exact hrange.trans (h.alone hbefore hknown)
  | accepts hphase hserved hrange =>
    exact ⟨fun _ => hrange, fun halone => nomatch hserved.symm.trans halone⟩
  | leaves hserved hphase hleft hrange =>
    have halone : after.station? = none := congrArg Uplink.Phase.station? hphase
    refine ⟨fun hserved => ?_, fun _ _ => hrange⟩
    rw [halone] at hserved
    cases hserved
  | ends hphase hrange =>
    have halone : after.station? = none := congrArg Uplink.Phase.station? hphase
    have hbefore : contact.station? = none := by simpa using huncut
    refine ⟨fun hserved => ?_, fun _ hknown => ?_⟩
    · rw [halone] at hserved
      cases hserved
    · rw [HasLeft, heffects, List.append_nil] at hknown
      exact hrange.trans (h.alone hbefore hknown)

lemma stepAboard (h : contact.TellsRange known) (deed : Link.Aboard) :
    (contact.step (.aboard deed)).TellsRange known := by
  have hrange := (contact.traffic.byAboard deed).inRange
  exact ⟨fun hserved => hrange.trans (h.served hserved),
    fun halone hknown => hrange.trans (h.alone halone hknown)⟩

lemma run (h : contact.TellsRange known) (huncut : ¬ contact.CutsOff moves) :
    (contact.run moves).TellsRange known := by
  induction moves generalizing contact with
  | nil => exact h
  | cons move moves ih =>
    obtain ⟨hmove, hothers⟩ := not_or.1 huncut
    refine ih ?_ hothers
    cases move with
    | uplink event => exact h.stepUplink (by simpa using hmove)
    | aboard deed => exact h.stepAboard deed

lemma of_start (hstart : start traffic = .ok contact) :
    contact.TellsRange (traffic.link.inRange = false) := by
  obtain ⟨-, rfl⟩ := start_eq_ok_iff.1 hstart
  refine ⟨nofun, fun _ hknown => ?_⟩
  obtain hknown | ⟨station, why, hleft⟩ := hknown
  · exact traffic.link.inRange_takeDownlink.trans hknown
  · cases hleft

end TellsRange

/-! ## An uplink that is shut down -/

/-- An uplink that has ended leaves the range as it is. -/
lemma run_of_ended (hphase : contact.phase = .ended) (moves : List Move) :
    (contact.run moves).phase = .ended ∧
      (contact.run moves).traffic.link.inRange = contact.traffic.link.inRange := by
  induction moves generalizing contact with
  | nil => exact ⟨hphase, rfl⟩
  | cons move moves ih =>
    have hstep : (contact.step move).phase = .ended ∧
        (contact.step move).traffic.link.inRange = contact.traffic.link.inRange := by
      cases move with
      | aboard deed => exact ⟨hphase, (contact.traffic.byAboard deed).inRange⟩
      | uplink event =>
        obtain ⟨effects, -, hturn⟩ := contact.rangeTurn_stepUplink event
        generalize contact.step (.uplink event) = after at hturn
        cases hturn with
        | stays hstation hended hnothing hrange => exact ⟨hended hphase, hrange⟩
        | accepts hlistening => exact nomatch hphase.symm.trans hlistening
        | leaves hserved =>
          have halone : contact.station? = none := congrArg Uplink.Phase.station? hphase
          exact nomatch halone.symm.trans hserved
        | ends hphase hrange => exact ⟨hphase, hrange⟩
    obtain ⟨hlast, hrange⟩ := ih hstep.1
    exact ⟨hlast, hrange.trans hstep.2⟩

/-- An uplink that is shut down while it serves a station leaves its link in range for good. -/
lemma CutsOff.run {known : Prop} (hcut : contact.CutsOff moves) (h : contact.TellsRange known) :
    (contact.run moves).phase = .ended ∧ (contact.run moves).traffic.link.inRange = true := by
  induction moves generalizing contact with
  | nil => cases hcut
  | cons move moves ih =>
    by_cases hnow : contact.station?.isSome ∧ move = .uplink .shutdown
    · obtain ⟨hserved, rfl⟩ := hnow
      have hended : (contact.step (.uplink .shutdown)).phase = .ended := rfl
      obtain ⟨hlast, hrange⟩ := run_of_ended hended moves
      have hsame := contact.traffic.link.inRange_dropDownlink
      exact ⟨hlast, (hrange.trans hsame).trans (h.served hserved)⟩
    · refine ih (hcut.resolve_left hnow) ?_
      cases move with
      | uplink event => exact h.stepUplink (by simpa using hnow)
      | aboard deed => exact h.stepAboard deed

/-- **A link is in range while a station is served.**  This is so at every moment of every run in which the
uplink is not shut down in the middle of a visit, if the link was out of range when the uplink began, or else
from when the first station was left.  But once an uplink was shut down while it served a station, the link is
in range and no station is served. -/
theorem in_range_while_station_served (hstart : start traffic = .ok contact) (moves : List Move) :
    let last := contact.run moves
    (¬ contact.CutsOff moves → traffic.link.inRange = false ∨ last.HasLeft →
      (last.traffic.link.inRange = true ↔ last.station?.isSome)) ∧
    (contact.CutsOff moves → last.traffic.link.inRange = true ∧ last.station? = none) := by
  intro last
  have hbegun := TellsRange.of_start hstart
  refine ⟨fun huncut hknown => ?_, fun hcut => ?_⟩
  · have htells := hbegun.run huncut
    refine ⟨fun hrange => ?_, htells.served⟩
    by_contra hnobody
    have hrange' := htells.alone (by simpa using hnobody) hknown
    exact Bool.false_ne_true (hrange'.symm.trans hrange)
  · obtain ⟨hphase, hrange⟩ := hcut.run hbegun
    exact ⟨hrange, congrArg Uplink.Phase.station? hphase⟩

/-- Four stations: the first connection is lost, the second station hangs up, the third does not take a packet,
and the uplink is shut down after that or while it serves the fourth. -/
theorem in_range_of_four_stations :
    let contact : Contact := { traffic := { link := { depth := 20, consumer := .taken } } }
    let visits : List Move :=
      [.uplink (.arrive 1), .uplink .accept, .uplink (.arrive 2), .uplink .readError,
        .uplink .accept, .uplink .hangUp, .uplink (.arrive 3), .uplink .accept,
        .aboard (.write ⟨.telemetry, [7]⟩ none), .uplink (.transmit false), .uplink (.arrive 4)]
    let between := visits ++ [.uplink .shutdown]
    let during := visits ++ [.uplink .accept]
    let cut := visits ++ [.uplink .accept, .uplink .shutdown, .uplink (.arrive 5)]
    (contact.run between).station? = none ∧
      ((contact.run between).traffic.link.inRange = true ↔ (contact.run between).station?.isSome) ∧
      (contact.run during).station? = some 4 ∧
      ((contact.run during).traffic.link.inRange = true ↔ (contact.run during).station?.isSome) ∧
      (contact.run cut).traffic.link.inRange = true ∧ (contact.run cut).station? = none := by
  intro contact visits between during cut
  have hstart : start { link := { depth := 20 } } = .ok contact := rfl
  obtain ⟨hbetween, -⟩ := in_range_while_station_served hstart between
  obtain ⟨hduring, -⟩ := in_range_while_station_served hstart during
  obtain ⟨-, hcut⟩ := in_range_while_station_served hstart cut
  exact ⟨by decide, hbetween (by decide) (.inl rfl), by decide, hduring (by decide) (.inl rfl),
    hcut (by decide)⟩

/-- A link stays in range when its uplink is shut down while a station is served. -/
theorem range_outlives_shutdown :
    let contact : Contact := { traffic := { link := { depth := 20, consumer := .taken } } }
    let last := contact.run [.uplink (.arrive 1), .uplink .accept, .uplink .shutdown]
    start { link := { depth := 20 } } = .ok contact ∧
      last.phase = .ended ∧ last.station? = none ∧
      ¬ (last.traffic.link.inRange = true ↔ last.station?.isSome) := by
  decide

end Contact

end FlightScript
