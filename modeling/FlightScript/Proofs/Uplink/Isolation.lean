import FlightScript.Proofs.Frame.Framing
import FlightScript.Proofs.Uplink.Contact
/-!
# Stations served one after another

A station sends a stream of octets, which arrives in some pieces.  Whatever the pieces are, and whatever other
stations have sent before, the scripts that the uplink offers to the link for this station are those of the
whole frames at the front of its stream, as far as the first length that no frame has; and the station is sent
away with an error exactly if there is such a length.

## What a stream says

`Frame.Says` tells what a stream holds without a decoder: packets, framed back to back, and then something that
is no frame.  If that is the beginning of a frame then the stream was heard to its end, and if it is a header
whose length no frame has then only as far as there.  A stream says exactly one thing (`Frame.says_iff`).

## A run as visits

`Contact.Serves` reads a list of moves as visits: each station arrives, is accepted, sends its pieces and hangs
up, in this order, and no packet is sent to it.  Stations may arrive while another one is served, and the
spacecraft may do anything at any time.  A station that was sent away is no longer heard, so that its further
pieces, and that it hangs up, come to nothing; the proof follows the moves with three cases of where the uplink
can stand (`Contact.Midway`).
-/

namespace FlightScript

/-! ## What a stream says -/

namespace Frame

open Uplink (Farewell)

variable {stream rest : Bytes} {packets : List Packet} {why : Farewell}

/-- The packets that a stream holds, and how the station is left that has sent it. -/
inductive Says (stream : Bytes) (packets : List Packet) : Farewell → Prop where
  /-- Whole frames, and at most the beginning of another one. -/
  | toTheEnd (rest : Bytes) (hstream : stream = packets.flatMap octets ++ rest)
      (hfits : ∀ packet ∈ packets, packet.payload.length ≤ Limits.framePayload)
      (hrest : IsUnfinished rest) : Says stream packets .hungUp
  /-- Whole frames, and then a length that no frame has. -/
  | toTheFault (rest : Bytes) {length : UInt16} (hstream : stream = packets.flatMap octets ++ rest)
      (hfits : ∀ packet ∈ packets, packet.payload.length ≤ Limits.framePayload)
      (hlength : declaredLength? rest = some length) (hlong : Limits.framePayload < length.toNat) :
    Says stream packets (.badFrame (.invalidLength length))

/-- How a station is left whose stream was drained. -/
def farewell : Option Error → Farewell
  | none => .hungUp
  | some e => .badFrame e

/-- Whole frames are drained, and then what follows them. -/
lemma drain_octets_append (hfits : ∀ packet ∈ packets, packet.payload.length ≤ Limits.framePayload)
    (rest : Bytes) :
    drain (packets.flatMap octets ++ rest) =
      { drain rest with packets := packets ++ (drain rest).packets } := by
  induction packets with
  | nil => rfl
  | cons packet packets ih =>
    obtain ⟨hfirst, hothers⟩ := List.forall_mem_cons.1 hfits
    rw [List.flatMap_cons, List.append_assoc, drain_of_some (decode_octets_append hfirst _), ih hothers]
    rfl

/-- Nothing that arrives behind a fault is read. -/
lemma drain_append_of_fault {e : Error} (h : (drain stream).fault = some e) (more : Bytes) :
    drain (stream ++ more) = ⟨(drain stream).packets, some e, (drain stream).rest ++ more⟩ := by
  have hrest : decode (drain stream).rest = .error e := by rw [decode_rest_drain, h]
  rw [drain_append, drain_of_error (decode_append_of_error hrest more), List.append_nil]

/-- **A stream says exactly one thing**, and that is what draining it gives. -/
lemma says_iff : Says stream packets why ↔
    packets = (drain stream).packets ∧ why = farewell (drain stream).fault := by
  constructor
  · intro h
    cases h with
    | toTheEnd rest hstream hfits hrest =>
      rw [hstream, drain_octets_append hfits, drain_of_none (decode_eq_none_iff.2 hrest),
        List.append_nil]
      exact ⟨rfl, rfl⟩
    | toTheFault rest hstream hfits hlength hlong =>
      have hfault := decode_eq_error_iff_declaredLength?.2 ⟨_, hlength, hlong, rfl⟩
      rw [hstream, drain_octets_append hfits, drain_of_error hfault, List.append_nil]
      exact ⟨rfl, rfl⟩
  · rintro ⟨rfl, rfl⟩
    obtain ⟨hfits, hstream⟩ := (Decoder.reads_drain stream).eq_octets_append
    have hstop := decode_rest_drain stream
    cases hfault : (drain stream).fault with
    | none =>
      rw [hfault] at hstop
      exact .toTheEnd _ hstream hfits (decode_eq_none_iff.1 hstop)
    | some e =>
      rw [hfault] at hstop
      obtain ⟨length, hlength, hlong, rfl⟩ := decode_eq_error_iff_declaredLength?.1 hstop
      exact .toTheFault _ hstream hfits hlength hlong

end Frame

/-! ## Visits -/

namespace Uplink

/-- What comes of hearing a station: scripts that are offered to the link, and how it is left. -/
inductive Heard where
  | script (payload : Bytes)
  | left (station : Station) (why : Farewell)
  deriving DecidableEq, Repr

def Heard.script? : Heard → Option Bytes
  | script payload => some payload
  | left .. => none

/-- The script that was offered to the link, if one was. -/
def Effect.script? : Effect → Option Bytes
  | offered script _ => some script
  | sent .. => none
  | left .. => none

def Effect.heard? : Effect → Option Heard
  | offered script _ => some (.script script)
  | left station why => some (.left station why)
  | sent .. => none

lemma filterMap_script? (effects : List Effect) :
    effects.filterMap Effect.script? =
      (effects.filterMap Effect.heard?).filterMap Heard.script? := by
  rw [List.filterMap_filterMap]
  congr 1
  funext effect
  cases effect <;> rfl

lemma filterMap_heard?_offerAll (offers : List Bytes) (link : Link.Queue) :
    (offerAll offers link).1.filterMap Effect.heard? = offers.map .script := by
  induction offers generalizing link with
  | nil => rfl
  | cons script offers ih => simp [offerAll, Effect.heard?, ih]

lemma scripts_append (front back : List Packet) :
    scripts (front ++ back) = scripts front ++ scripts back := by
  simp [scripts]

end Uplink

/-- A station that is served, and all that it sends, in the pieces in which it arrives. -/
structure Visit where
  station : Station
  pieces : List Bytes
  deriving DecidableEq, Repr

namespace Visit

def stream (visit : Visit) : Bytes :=
  visit.pieces.flatten

/-- The packets that the stream holds, for any port. -/
def packets (visit : Visit) : List Packet :=
  (Frame.drain visit.stream).packets

def farewell (visit : Visit) : Uplink.Farewell :=
  Frame.farewell (Frame.drain visit.stream).fault

/-- What is heard of the station. -/
def heard (visit : Visit) : List Uplink.Heard :=
  (Uplink.scripts visit.packets).map .script ++ [.left visit.station visit.farewell]

variable {station : Station} {front : Bytes} {pieces : List Bytes}

lemma filterMap_script?_heard (visit : Visit) :
    visit.heard.filterMap Uplink.Heard.script? = Uplink.scripts visit.packets := by
  simp [heard, List.filterMap_map, Function.comp_def, Uplink.Heard.script?]

/-- What is whole is heard, and then what comes of the rest with the pieces that follow. -/
lemma heard_cons (station : Station) (front : Bytes) (pieces : List Bytes) :
    heard ⟨station, front :: pieces⟩ =
      (Uplink.scripts (Frame.drain front).packets).map .script ++
        heard ⟨station, (Frame.drain front).rest :: pieces⟩ := by
  simp only [heard, packets, farewell, stream, List.flatten_cons]
  rw [Frame.drain_append, Uplink.scripts_append, List.map_append, List.append_assoc]

/-- Nothing is heard behind a fault. -/
lemma heard_cons_of_fault {e : Frame.Error} (h : (Frame.drain front).fault = some e) :
    heard ⟨station, front :: pieces⟩ =
      (Uplink.scripts (Frame.drain front).packets).map .script ++ [.left station (.badFrame e)] := by
  simp only [heard, packets, farewell, stream, List.flatten_cons]
  rw [Frame.drain_append_of_fault h]
  rfl

end Visit

namespace Contact

open Uplink (Heard Phase)

/-- Moves that serve stations to their end: the stations that have arrived and are not served yet, the pieces
that are still to come from the one that is served, the visits that are still to begin, and the moves. -/
inductive Serves : List Station → Option (List Bytes) → List Visit → List Move → Prop where
  | done {waiting : List Station} : Serves waiting none [] []
  /-- The spacecraft does something. -/
  | aboard {waiting : List Station} {pieces : Option (List Bytes)} {visits : List Visit}
      {moves : List Move} (deed : Link.Aboard) (h : Serves waiting pieces visits moves) :
    Serves waiting pieces visits (.aboard deed :: moves)
  | arrive {waiting : List Station} {pieces : Option (List Bytes)} {visits : List Visit}
      {moves : List Move} (station : Station)
      (h : Serves (waiting ++ [station]) pieces visits moves) :
    Serves waiting pieces visits (.uplink (.arrive station) :: moves)
  /-- A visit begins. -/
  | accept {waiting : List Station} {visits : List Visit} {moves : List Move} (visit : Visit)
      (h : Serves waiting (some visit.pieces) visits moves) :
    Serves (visit.station :: waiting) none (visit :: visits) (.uplink .accept :: moves)
  | piece {waiting : List Station} {pieces : List Bytes} {visits : List Visit} {moves : List Move}
      (piece : Bytes) (h : Serves waiting (some pieces) visits moves) :
    Serves waiting (some (piece :: pieces)) visits (.uplink (.bytes piece) :: moves)
  /-- A visit ends. -/
  | hangUp {waiting : List Station} {visits : List Visit} {moves : List Move}
      (h : Serves waiting none visits moves) :
    Serves waiting (some []) visits (.uplink .hangUp :: moves)

/-- Where an uplink stands between two moves, with the pieces still to come, and what is still to be heard of
the station that is served. -/
inductive Midway : Phase → Option (List Bytes) → List Heard → Prop where
  /-- No station is served. -/
  | between : Midway .listening none []
  /-- The decoder of the station holds the beginning of a frame. -/
  | during {station : Station} {buffered : Bytes} {pieces : List Bytes}
      (hrest : Frame.decode buffered = .ok none) :
    Midway (.serving station ⟨buffered⟩) (some pieces)
      (Visit.heard ⟨station, buffered :: pieces⟩)
  /-- The station was sent away. -/
  | gone {pieces : List Bytes} : Midway .listening (some pieces) []

variable {contact : Contact} {waiting : List Station} {pieces : Option (List Bytes)}
  {visits : List Visit} {moves : List Move} {heard : List Heard} {phase : Phase}

/-! ### One move -/

/-- A piece comes from a station that is served: what is whole by now is heard. -/
lemma step_piece {station : Station} {buffered : Bytes}
    (hphase : contact.phase = .serving station ⟨buffered⟩) (piece : Bytes) (rest : List Bytes) :
    let after := contact.step (.uplink (.bytes piece))
    after.backlog = contact.backlog ∧ ∃ heard, Midway after.phase (some rest) heard ∧
      after.effects.filterMap Uplink.Effect.heard? ++ heard =
        contact.effects.filterMap Uplink.Effect.heard? ++
          Visit.heard ⟨station, buffered :: piece :: rest⟩ := by
  have hpieces : Visit.heard ⟨station, buffered :: piece :: rest⟩ =
      Visit.heard ⟨station, (buffered ++ piece) :: rest⟩ := by
    simp [Visit.heard, Visit.packets, Visit.farewell, Visit.stream]
  -- without a fault the decoder keeps the beginning of a frame, and with one the station is sent away
  have hstop := Frame.decode_rest_drain (buffered ++ piece)
  rw [hpieces]
  simp only [step, stepUplink, uplink, hphase, Uplink.step, Decoder.drain, Decoder.buffered_feed]
  cases hfault : (Frame.drain (buffered ++ piece)).fault with
  | none =>
    rw [hfault] at hstop
    refine ⟨rfl, _, .during hstop, ?_⟩
    rw [Visit.heard_cons station (buffered ++ piece)]
    simp only [List.filterMap_append, Uplink.filterMap_heard?_offerAll, List.append_assoc]
  | some e =>
    refine ⟨rfl, _, .gone, ?_⟩
    rw [Visit.heard_cons_of_fault hfault]
    simp only [List.filterMap_append, Uplink.filterMap_heard?_offerAll, List.append_nil]
    rfl

/-! ### All moves -/

/-- **What is heard in a run**, from any point of it, is what is still to be heard of the station that is
served, and then what the later visits say. -/
lemma Serves.heard_run (h : Serves waiting pieces visits moves) (hbacklog : contact.backlog = waiting)
    (hphase : contact.phase = phase) (hmidway : Midway phase pieces heard) :
    (contact.run moves).effects.filterMap Uplink.Effect.heard? =
      contact.effects.filterMap Uplink.Effect.heard? ++ (heard ++ visits.flatMap Visit.heard) := by
  -- on the moves: what is still to be heard is at every point fixed by the phase and the pieces to come
  induction h generalizing contact phase heard with
  | done =>
    cases hmidway
    simp
  | aboard deed h ih => exact ih hbacklog hphase hmidway
  | arrive station h ih =>
    obtain ⟨hwaiting, hsame, hnothing⟩ := contact.step_arrive station
    rw [run_cons, ih (hwaiting.trans (congrArg (· ++ [station]) hbacklog)) (hsame.trans hphase) hmidway,
      hnothing]
  | accept visit h ih =>
    cases hmidway
    obtain ⟨hbacklog, hphase, hsame, -, -⟩ := step_accept hphase hbacklog
    rw [run_cons, ih hbacklog hphase (.during rfl), hsame]
    rfl
  | piece piece h ih =>
    cases hmidway with
    | during hrest =>
      obtain ⟨hwaiting, more, hmore, hheard⟩ := step_piece hphase piece _
      rw [run_cons, ih (hwaiting.trans hbacklog) rfl hmore, ← List.append_assoc, hheard,
        List.append_assoc]
    | gone =>
      rw [run_cons, step_of_listening hphase (.inr ⟨piece, rfl⟩)]
      exact ih hbacklog hphase .gone
  | hangUp h ih =>
    cases hmidway with
    | @during station buffered _ hrest =>
      obtain ⟨hwaiting, hphase, hleft, -, -⟩ := step_hangUp hphase
      have hheard : Visit.heard ⟨station, [buffered]⟩ = [.left station .hungUp] := by
        simp [Visit.heard, Visit.packets, Visit.farewell, Visit.stream, Frame.drain_of_none hrest,
          Uplink.scripts, Frame.farewell]
      rw [run_cons, ih (hwaiting.trans hbacklog) hphase .between, hleft, hheard, List.filterMap_append,
        List.append_assoc]
      rfl
    | gone =>
      rw [run_cons, step_of_listening hphase (.inl rfl)]
      exact ih hbacklog hphase .between

/-- **Stations are isolated from one another.**  Stations are served one after another, with anything going on
aboard.  What is heard of them is heard station by station: of each the scripts among the packets of its own
stream, in whatever pieces this has arrived, and then how it is left.  And what the packets are and how the
station is left is what the stream says: whole frames, as far as the end or the first length that no frame has,
and an error exactly in the latter case. -/
theorem stations_isolated {traffic : Link.Traffic} (hstart : start traffic = .ok contact)
    (hserves : Serves [] none visits moves) :
    let effects := (contact.run moves).effects
    effects.filterMap Uplink.Effect.script? =
      visits.flatMap (fun visit => Uplink.scripts visit.packets) ∧
    effects.filterMap Uplink.Effect.heard? = visits.flatMap Visit.heard ∧
    ∀ (visit : Visit) (packets : List Packet) (why : Uplink.Farewell),
      Frame.Says visit.stream packets why ↔ packets = visit.packets ∧ why = visit.farewell := by
  obtain ⟨-, hcontact⟩ := start_eq_ok_iff.1 hstart
  have hbacklog : contact.backlog = [] := by rw [hcontact]
  have hphase : contact.phase = .listening := by rw [hcontact]
  have hfresh : contact.effects = [] := by rw [hcontact]
  have hheard := hserves.heard_run hbacklog hphase .between
  rw [hfresh, List.filterMap_nil, List.nil_append, List.nil_append] at hheard
  refine ⟨?_, hheard, fun visit packets why => Frame.says_iff⟩
  rw [Uplink.filterMap_script?, hheard]
  simp [List.filterMap_flatMap, Visit.filterMap_script?_heard]

/-- Three stations.  The first leaves an unfinished frame behind, the second goes on after a length that no
frame has, and the third sends an empty script. -/
theorem three_stations_isolated :
    let first : Visit := ⟨1, [[1, 0], [1, 65, 2, 0, 1, 9, 1, 0, 1, 66], [1, 0, 5, 7]]⟩
    let second : Visit := ⟨2, [[1, 0, 1, 67, 1, 0xFF], [0xFF, 1, 0, 1], [68]]⟩
    let third : Visit := ⟨3, [[1, 0, 0]]⟩
    let moves : List Move :=
      [.uplink (.arrive 1), .uplink .accept, .uplink (.bytes [1, 0]), .uplink (.arrive 2),
        .uplink (.bytes [1, 65, 2, 0, 1, 9, 1, 0, 1, 66]), .aboard (.read [0] .telecommand none),
        .uplink (.bytes [1, 0, 5, 7]), .uplink .hangUp, .uplink .accept,
        .uplink (.bytes [1, 0, 1, 67, 1, 0xFF]), .uplink (.bytes [0xFF, 1, 0, 1]),
        .uplink (.arrive 3), .uplink (.bytes [68]), .uplink .hangUp, .uplink .accept,
        .uplink (.bytes [1, 0, 0]), .uplink .hangUp]
    let contact : Contact := { traffic := { link := { depth := 20, consumer := .taken } } }
    Serves [] none [first, second, third] moves ∧
      (contact.run moves).effects.filterMap Uplink.Effect.script? = [[65], [66], [67], []] ∧
      second.farewell = .badFrame (.invalidLength 65535) := by
  intro first second third moves contact
  have hstart : start { link := { depth := 20 } } = .ok contact := rfl
  have hserves : Serves [] none [first, second, third] moves :=
    .arrive 1 <| .accept first <| .piece _ <| .arrive 2 <| .piece _ <| .aboard _ <| .piece _ <|
      .hangUp <| .accept second <| .piece _ <| .piece _ <| .arrive 3 <| .piece _ <| .hangUp <|
      .accept third <| .piece _ <| .hangUp .done
  obtain ⟨hscripts, -, hstreams⟩ := stations_isolated hstart hserves
  have hfirst : Frame.Says first.stream
      [⟨.telecommand, [65]⟩, ⟨.telemetry, [9]⟩, ⟨.telecommand, [66]⟩] .hungUp :=
    .toTheEnd [1, 0, 5, 7] (by decide) (by decide) (.inr ⟨5, by decide⟩)
  have hsecond : Frame.Says second.stream [⟨.telecommand, [67]⟩] (.badFrame (.invalidLength 65535)) :=
    .toTheFault [1, 0xFF, 0xFF, 1, 0, 1, 68] (by decide) (by decide) rfl (by decide)
  have hthird : Frame.Says third.stream [⟨.telecommand, []⟩] .hungUp :=
    .toTheEnd [] (by decide) (by decide) (.inl (by decide))
  rw [hstreams] at hfirst hsecond hthird
  refine ⟨hserves, ?_, hsecond.2.symm⟩
  rw [hscripts]
  simp [← hfirst.1, ← hsecond.1, ← hthird.1, Uplink.scripts, Port.telecommand, Port.telemetry]

end Contact

end FlightScript
