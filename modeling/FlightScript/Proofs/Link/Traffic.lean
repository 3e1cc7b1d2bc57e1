import FlightScript.Proofs.Link.Sides
import Mathlib.Data.List.Induction
/-!
# The link with all its callers

Any number of parties use a link at the same time.  Aboard, reads and writes begin, wait, go on and are
dropped; on the ground, scripts are inserted, packets are received and the range changes.  `Traffic` is a
link with all of this going on, and `Traffic.run` takes it through any list of such events, so a statement
about every run is one about every interleaving.  An event is what one party does without waiting.

## What is kept of a call

Every call that has ever begun is in a `Ledger`, by its number, with what it asked for and what has become
of it.  Beside the calls the ledger has what they have moved, in the order in which it was moved: scripts off
the uplink queue, packets onto the downlink queue.  That is told from the queues themselves, by what they held
before and after a turn of the call, and not from the answer that the caller got.  So what a call answered and
what it did are two things, and `Ledger.Tallies` compares them.
-/

namespace FlightScript.Link

/-! ## Calls and what they have moved -/

/-- What has become of a call. -/
inductive Fate (ω α : Type) where
  | waits (call : ω)
  | ended (result : α)
  /-- It was dropped while it waited. -/
  | dropped
  deriving DecidableEq, Repr

namespace Fate

variable {ω α : Type}

/-- Nothing more can become of the call. -/
def IsOver : Fate ω α → Prop
  | waits _ => False
  | ended _ => True
  | dropped => True

instance decidableIsOver : (fate : Fate ω α) → Decidable fate.IsOver
  | .waits _ => isFalse id
  | .ended _ => isTrue trivial
  | .dropped => isTrue trivial

def ofProgress : Progress ω α → Fate ω α
  | .ready result => .ended result
  | .waiting call => .waits call

end Fate

/-- Calls in the order in which they began, and what each of them has moved, in the order in which it was
moved. -/
structure Ledger (κ π : Type) where
  calls : List κ := []
  moved : List (Nat × π) := []
  deriving DecidableEq, Repr

namespace Ledger

variable {κ π : Type} {ledger : Ledger κ π} {i j : Nat} {call : κ} {items : List π}
  {P Q : κ → List π → Prop}

/-- What a call has moved. -/
def movedBy (ledger : Ledger κ π) (i : Nat) : List π :=
  (ledger.moved.filter (·.1 = i)).map (·.2)

/-- A turn of a call: what the call is now, and what it has moved in this turn.  The call is one of those
that have begun, or the next. -/
def enter (ledger : Ledger κ π) (i : Nat) (call : κ) (items : List π) : Ledger κ π where
  calls := ledger.calls.take i ++ call :: ledger.calls.drop (i + 1)
  moved := ledger.moved ++ items.map (i, ·)

lemma calls_enter (h : i ≤ ledger.calls.length) (call : κ) (items : List π) (j : Nat) :
    (ledger.enter i call items).calls[j]? = if j = i then some call else ledger.calls[j]? := by
  have hfront : (ledger.calls.take i).length = i := by
    rw [List.length_take]
    omega
  simp only [enter]
  obtain hlt | rfl | hgt := Nat.lt_trichotomy j i
  · rw [List.getElem?_append_left (by omega), List.getElem?_take_of_lt hlt, if_neg (by omega)]
  · rw [List.getElem?_append_right (by omega), hfront, Nat.sub_self, if_pos rfl]
    rfl
  · obtain ⟨k, rfl⟩ := Nat.exists_eq_add_of_lt hgt
    rw [List.getElem?_append_right (by omega), hfront, if_neg (by omega),
      show i + k + 1 - i = k + 1 by omega, List.getElem?_cons_succ, List.getElem?_drop,
      show i + 1 + k = i + k + 1 by omega]

lemma length_enter (h : i ≤ ledger.calls.length) (call : κ) (items : List π) :
    (ledger.enter i call items).calls.length = max (i + 1) ledger.calls.length := by
  simp only [enter, List.length_append, List.length_take, List.length_cons, List.length_drop]
  omega

lemma eq_or_mem_of_mem_enter {other : κ} (h : other ∈ (ledger.enter i call items).calls) :
    other = call ∨ other ∈ ledger.calls := by
  simp only [enter, List.mem_append, List.mem_cons] at h
  obtain hfront | rfl | hback := h
  · exact .inr (List.mem_of_mem_take hfront)
  · exact .inl rfl
  · exact .inr (List.mem_of_mem_drop hback)

/-- A call among the others. -/
lemma calls_eq_of_getElem? (h : ledger.calls[i]? = some call) :
    ledger.calls = ledger.calls.take i ++ call :: ledger.calls.drop (i + 1) := by
  obtain ⟨hi, rfl⟩ := List.getElem?_eq_some_iff.1 h
  rw [List.getElem_cons_drop, List.take_append_drop]

/-- A call that begins is the last one. -/
lemma calls_enter_length (ledger : Ledger κ π) (call : κ) (items : List π) :
    (ledger.enter ledger.calls.length call items).calls = ledger.calls ++ [call] := by
  simp [enter]

lemma movedBy_enter (ledger : Ledger κ π) (i : Nat) (call : κ) (items : List π) (j : Nat) :
    (ledger.enter i call items).movedBy j =
      if j = i then ledger.movedBy i ++ items else ledger.movedBy j := by
  by_cases h : j = i
  · subst h
    simp [movedBy, enter, List.filter_map, Function.comp_def]
  · have hother : i ≠ j := fun heq => h heq.symm
    simp [movedBy, enter, List.filter_map, Function.comp_def, h, hother]

/-- All that was ever moved, in order. -/
lemma map_moved_enter (ledger : Ledger κ π) (i : Nat) (call : κ) (items : List π) :
    (ledger.enter i call items).moved.map (·.2) = ledger.moved.map (·.2) ++ items := by
  simp [enter, Function.comp_def]

/-- Every call and what it has moved fit together, and nothing was moved by a call that has not begun. -/
structure Tallies (P : κ → List π → Prop) (ledger : Ledger κ π) : Prop where
  calls : ∀ {i : Nat} {call : κ}, ledger.calls[i]? = some call → P call (ledger.movedBy i)
  none : ∀ {i : Nat}, ledger.calls.length ≤ i → ledger.movedBy i = []

namespace Tallies

lemma nil : Tallies P {} := ⟨nofun, fun _ => rfl⟩

lemma mono (h : ledger.Tallies P) (hmono : ∀ call items, P call items → Q call items) :
    ledger.Tallies Q :=
  ⟨fun hcall => hmono _ _ (h.calls hcall), h.none⟩

/-- A turn has to account for one call only. -/
lemma enter (h : ledger.Tallies P) (hi : i ≤ ledger.calls.length)
    (hcall : P call (ledger.movedBy i ++ items)) : (ledger.enter i call items).Tallies P := by
  constructor
  · intro j other hother
    rw [calls_enter hi] at hother
    rw [movedBy_enter]
    by_cases hj : j = i
    · rw [if_pos hj] at hother ⊢
      exact Option.some.inj hother ▸ hcall
    · rw [if_neg hj] at hother ⊢
      exact h.calls hother
  · intro j hj
    rw [length_enter hi] at hj
    rw [movedBy_enter, if_neg (by omega)]
    exact h.none (by omega)

/-- The first turn of a call. -/
lemma begins (h : ledger.Tallies P) (hcall : P call items) :
    (ledger.enter ledger.calls.length call items).Tallies P := by
  apply h.enter (Nat.le_refl _)
  rw [h.none (Nat.le_refl _)]
  exact hcall

/-- A further turn of a call that has moved nothing so far. -/
lemma goesOn {earlier : κ} (h : ledger.Tallies P) (hearlier : ledger.calls[i]? = some earlier)
    (hnothing : P earlier (ledger.movedBy i) → ledger.movedBy i = []) (hcall : P call items) :
    (ledger.enter i call items).Tallies P := by
  have hi : i < ledger.calls.length := (List.getElem?_eq_some_iff.1 hearlier).1
  apply h.enter (Nat.le_of_lt hi)
  rw [hnothing (h.calls hearlier)]
  exact hcall

end Tallies

/-- What is settled in one ledger is so in the other: a call that satisfies `Q` is there as it was, and has
moved nothing more. -/
structure Settles (Q : κ → Prop) (before after : Ledger κ π) : Prop where
  kept : ∀ {i : Nat} {call : κ}, before.calls[i]? = some call → Q call →
    after.calls[i]? = some call ∧ after.movedBy i = before.movedBy i

namespace Settles

variable {Q : κ → Prop} {before after last : Ledger κ π}

lemma refl (before : Ledger κ π) : Settles Q before before := ⟨fun hcall _ => ⟨hcall, rfl⟩⟩

lemma trans (h : Settles Q before after) (h' : Settles Q after last) : Settles Q before last := by
  constructor
  intro i call hcall hover
  obtain ⟨hcall', hmoved⟩ := h.kept hcall hover
  obtain ⟨hcall'', hmoved'⟩ := h'.kept hcall' hover
  exact ⟨hcall'', hmoved'.trans hmoved⟩

/-- A turn of a call leaves every other one alone. -/
lemma enter (hi : i ≤ before.calls.length) (call : κ) (items : List π)
    (hopen : ∀ earlier, before.calls[i]? = some earlier → ¬ Q earlier) :
    Settles Q before (before.enter i call items) := by
  constructor
  intro j other hother hover
  have hj : j ≠ i := fun heq => hopen other (heq ▸ hother) hover
  rw [calls_enter hi, movedBy_enter, if_neg hj, if_neg hj]
  exact ⟨hother, rfl⟩

end Settles

end Ledger

/-- What was taken off the front of a queue, by what it held before and holds now. -/
def takenOff {α : Type} (before after : List α) : List α :=
  before.take (before.length - after.length)

/-- What was put to the end of a queue, by what it held before and holds now. -/
def putOn {α : Type} (before after : List α) : List α :=
  after.drop before.length

@[simp] lemma takenOff_self {α : Type} (queue : List α) : takenOff queue queue = [] := by
  simp [takenOff]

@[simp] lemma takenOff_cons {α : Type} (first : α) (rest : List α) :
    takenOff (first :: rest) rest = [first] := by
  simp [takenOff]

@[simp] lemma putOn_self {α : Type} (queue : List α) : putOn queue queue = [] := by
  simp [putOn]

@[simp] lemma putOn_append {α : Type} (queue more : List α) : putOn queue (queue ++ more) = more := by
  simp [putOn]

/-! ## Reads and writes -/

/-- Whether a call that has a time limit has had all of its time. -/
def OutOfTime (begun : Nat) (timeout : Option Nat) (now : Nat) : Prop :=
  ∃ limit, timeout = some limit ∧ begun + limit ≤ now

lemma OutOfTime.mono {begun now later : Nat} {timeout : Option Nat} (h : OutOfTime begun timeout now)
    (hle : now ≤ later) : OutOfTime begun timeout later := by
  obtain ⟨limit, htimeout, hover⟩ := h
  exact ⟨limit, htimeout, Nat.le_trans hover hle⟩

/-- A time limit that counts from when the call began, or later, and has expired. -/
lemma outOfTime_of_expired {begun start now : Nat} {timeout : Option Nat} (hstart : begun ≤ start)
    (h : expired now (timeout.map (start + ·))) : OutOfTime begun timeout now := by
  cases timeout with
  | none => simp [expired] at h
  | some limit =>
    have hover : start + limit ≤ now := by simpa [expired] using h
    exact ⟨limit, rfl, by omega⟩

/-- What a read was asked for: a packet for a port, into a buffer, and when. -/
structure ReadRequest where
  port : Port
  timeout : Option Nat
  begun : Nat
  /-- The buffer as it was handed over. -/
  buffer : Bytes
  deriving DecidableEq, Repr

structure Reading where
  request : ReadRequest
  /-- The buffer as the caller would find it now. -/
  buffer : Bytes
  /-- How many octets the caller was told, once the read has ended. -/
  fate : Fate ReadCall Nat
  deriving DecidableEq, Repr

/-- A read after a turn. -/
def Reading.ofTurn (request : ReadRequest) (buffer : Bytes) :
    Progress ReadCall (Option Bytes) → Reading
  | .ready result =>
    ⟨request, (Queue.delivered buffer result).2, .ended (Queue.delivered buffer result).1⟩
  | .waiting call => ⟨request, buffer, .waits call⟩

lemma Reading.request_ofTurn (request : ReadRequest) (buffer : Bytes)
    (progress : Progress ReadCall (Option Bytes)) :
    (Reading.ofTurn request buffer progress).request = request := by
  cases progress <;> rfl

/-- What a write was asked for, and how it found the link when it began. -/
structure WriteRequest where
  packet : Packet
  timeout : Option Nat
  begun : Nat
  /-- The link was in range then, and somebody had its downlink. -/
  admitted : Bool
  deriving DecidableEq, Repr

structure Writing where
  request : WriteRequest
  fate : Fate WriteCall Nat
  deriving DecidableEq, Repr

/-- A link lets a write in that finds it in range and its downlink taken. -/
def Queue.admits (queue : Queue) : Bool :=
  queue.inRange && queue.consumer = .taken

/-! ## Traffic -/

/-- What happens on the spacecraft's side of a link. -/
inductive Aboard where
  | read (buffer : Bytes) (port : Port) (timeout : Option Nat)
  /-- A read is tried again. -/
  | resumeRead (i : Nat)
  | dropRead (i : Nat)
  | write (packet : Packet) (timeout : Option Nat)
  | resumeWrite (i : Nat)
  | dropWrite (i : Nat)
  /-- Time goes by. -/
  | pass (milliseconds : Nat)
  deriving DecidableEq, Repr

/-- What happens on the ground's side. -/
inductive Ground where
  | insert (script : Bytes)
  | setInRange (inRange : Bool)
  | takeDownlink
  | dropDownlink
  | receive
  deriving DecidableEq, Repr

/-- A link with all its callers, and what has come of them. -/
structure Traffic where
  link : Queue
  now : Nat := 0
  reads : Ledger Reading Bytes := {}
  writes : Ledger Writing Packet := {}
  /-- Scripts that an insertion was told are queued. -/
  accepted : List Bytes := []
  /-- Packets that the consumer has received. -/
  received : List Packet := []
  deriving DecidableEq, Repr

namespace Traffic

inductive Event where
  | aboard (deed : Aboard)
  | ground (deed : Ground)
  deriving DecidableEq, Repr

/-- A read has had a turn. -/
def afterRead (traffic : Traffic) (i : Nat) (reading : Reading) (link : Queue) : Traffic :=
  { traffic with
    link, reads := traffic.reads.enter i reading (takenOff traffic.link.uplink link.uplink) }

/-- A write has had a turn. -/
def afterWrite (traffic : Traffic) (i : Nat) (writing : Writing) (link : Queue) : Traffic :=
  { traffic with
    link, writes := traffic.writes.enter i writing (putOn traffic.link.downlink link.downlink) }

/-- What happens aboard.  A call that does not wait is not tried again and not dropped. -/
def stepAboard (traffic : Traffic) : Aboard → Traffic
  | .read buffer port timeout =>
    let (progress, link) := traffic.link.beginReadOn traffic.now port timeout
    traffic.afterRead traffic.reads.calls.length
      (.ofTurn ⟨port, timeout, traffic.now, buffer⟩ buffer progress) link
  | .resumeRead i =>
    match traffic.reads.calls[i]? with
    | some ⟨request, buffer, .waits call⟩ =>
      let (progress, link) := traffic.link.resumeRead traffic.now call
      traffic.afterRead i (.ofTurn request buffer progress) link
    | _ => traffic
  | .dropRead i =>
    match traffic.reads.calls[i]? with
    | some ⟨request, buffer, .waits call⟩ =>
      traffic.afterRead i ⟨request, buffer, .dropped⟩ (traffic.link.endRead call.ticket)
    | _ => traffic
  | .write packet timeout =>
    let (progress, link) := traffic.link.beginWrite traffic.now packet timeout
    traffic.afterWrite traffic.writes.calls.length
      ⟨⟨packet, timeout, traffic.now, traffic.link.admits⟩, .ofProgress progress⟩ link
  | .resumeWrite i =>
    match traffic.writes.calls[i]? with
    | some ⟨request, .waits call⟩ =>
      let (progress, link) := traffic.link.resumeWrite traffic.now call
      traffic.afterWrite i ⟨request, .ofProgress progress⟩ link
    | _ => traffic
  | .dropWrite i =>
    match traffic.writes.calls[i]? with
    | some ⟨request, .waits call⟩ =>
      traffic.afterWrite i ⟨request, .dropped⟩ (traffic.link.endWrite call.ticket)
    | _ => traffic
  | .pass milliseconds => { traffic with now := traffic.now + milliseconds }

def stepGround (traffic : Traffic) : Ground → Traffic
  | .insert script =>
    let (queued, link) := traffic.link.insert script
    { traffic with link, accepted := traffic.accepted ++ if queued then [script] else [] }
  | .setInRange inRange => { traffic with link := traffic.link.setInRange inRange }
  | .takeDownlink => { traffic with link := traffic.link.takeDownlink.2 }
  | .dropDownlink => { traffic with link := traffic.link.dropDownlink }
  | .receive =>
    let (packet, link) := traffic.link.receive
    { traffic with link, received := traffic.received ++ packet.toList }

def step (traffic : Traffic) : Event → Traffic
  | .aboard deed => traffic.stepAboard deed
  | .ground deed => traffic.stepGround deed

def run (traffic : Traffic) (events : List Event) : Traffic :=
  events.foldl step traffic

/-! ## What one event does -/

variable {traffic : Traffic} {i : Nat} {reading : Reading} {writing : Writing} {link : Queue}

/-- The turns of reads: which read has one, what it is afterwards, and the link afterwards. -/
inductive TurnOfRead (traffic : Traffic) : Nat → Reading → Queue → Prop where
  | begins (buffer : Bytes) (port : Port) (timeout : Option Nat) :
    TurnOfRead traffic traffic.reads.calls.length
      (.ofTurn ⟨port, timeout, traffic.now, buffer⟩ buffer
        (traffic.link.beginReadOn traffic.now port timeout).1)
      (traffic.link.beginReadOn traffic.now port timeout).2
  | goesOn {i : Nat} {request : ReadRequest} {buffer : Bytes} {call : ReadCall}
      (hwaits : traffic.reads.calls[i]? = some ⟨request, buffer, .waits call⟩) :
    TurnOfRead traffic i (.ofTurn request buffer (traffic.link.resumeRead traffic.now call).1)
      (traffic.link.resumeRead traffic.now call).2
  | dropped {i : Nat} {request : ReadRequest} {buffer : Bytes} {call : ReadCall}
      (hwaits : traffic.reads.calls[i]? = some ⟨request, buffer, .waits call⟩) :
    TurnOfRead traffic i ⟨request, buffer, .dropped⟩ (traffic.link.endRead call.ticket)

/-- The turns of writes. -/
inductive TurnOfWrite (traffic : Traffic) : Nat → Writing → Queue → Prop where
  | begins (packet : Packet) (timeout : Option Nat) :
    TurnOfWrite traffic traffic.writes.calls.length
      ⟨⟨packet, timeout, traffic.now, traffic.link.admits⟩,
        .ofProgress (traffic.link.beginWrite traffic.now packet timeout).1⟩
      (traffic.link.beginWrite traffic.now packet timeout).2
  | goesOn {i : Nat} {request : WriteRequest} {call : WriteCall}
      (hwaits : traffic.writes.calls[i]? = some ⟨request, .waits call⟩) :
    TurnOfWrite traffic i ⟨request, .ofProgress (traffic.link.resumeWrite traffic.now call).1⟩
      (traffic.link.resumeWrite traffic.now call).2
  | dropped {i : Nat} {request : WriteRequest} {call : WriteCall}
      (hwaits : traffic.writes.calls[i]? = some ⟨request, .waits call⟩) :
    TurnOfWrite traffic i ⟨request, .dropped⟩ (traffic.link.endWrite call.ticket)

/-- Everything that a deed aboard can come to. -/
inductive ByAboard (traffic : Traffic) : Traffic → Prop where
  | nothing : ByAboard traffic traffic
  | time (milliseconds : Nat) : ByAboard traffic { traffic with now := traffic.now + milliseconds }
  | read {i : Nat} {reading : Reading} {link : Queue} (hturn : traffic.TurnOfRead i reading link) :
    ByAboard traffic (traffic.afterRead i reading link)
  | write {i : Nat} {writing : Writing} {link : Queue} (hturn : traffic.TurnOfWrite i writing link) :
    ByAboard traffic (traffic.afterWrite i writing link)

lemma byAboard (traffic : Traffic) (deed : Aboard) : traffic.ByAboard (traffic.stepAboard deed) := by
  cases deed with
  | read buffer port timeout => exact .read (.begins buffer port timeout)
  | resumeRead i =>
    simp only [stepAboard]
    split
    · next hwaits => exact .read (.goesOn hwaits)
    · exact .nothing
  | dropRead i =>
    simp only [stepAboard]
    split
    · next hwaits => exact .read (.dropped hwaits)
    · exact .nothing
  | write packet timeout => exact .write (.begins packet timeout)
  | resumeWrite i =>
    simp only [stepAboard]
    split
    · next hwaits => exact .write (.goesOn hwaits)
    · exact .nothing
  | dropWrite i =>
    simp only [stepAboard]
    split
    · next hwaits => exact .write (.dropped hwaits)
    · exact .nothing
  | pass milliseconds => exact .time milliseconds

lemma TurnOfRead.readsOnly (h : traffic.TurnOfRead i reading link) : traffic.link.ReadsOnly link := by
  cases h with
  | begins buffer port timeout => apply Queue.readsOnly_beginReadOn
  | goesOn hwaits => apply Queue.readsOnly_resumeRead
  | dropped hwaits => apply Queue.readsOnly_endRead

lemma TurnOfWrite.writesOnly (h : traffic.TurnOfWrite i writing link) :
    traffic.link.WritesOnly link := by
  cases h with
  | begins packet timeout => apply Queue.writesOnly_beginWrite
  | goesOn hwaits => apply Queue.writesOnly_resumeWrite
  | dropped hwaits => apply Queue.writesOnly_endWrite

lemma ByAboard.inRange {after : Traffic} (h : traffic.ByAboard after) :
    after.link.inRange = traffic.link.inRange := by
  cases h with
  | nothing | time => rfl
  | read hturn => exact hturn.readsOnly.inRange
  | write hturn => exact hturn.writesOnly.inRange

/-! ## Calls that are over stay as they are -/

/-- What is over is over: reads and writes that have ended, or were dropped, are there as they were, and
have moved nothing more. -/
structure KeepsWhatIsOver (before after : Traffic) : Prop where
  reads : Ledger.Settles (·.fate.IsOver) before.reads after.reads
  writes : Ledger.Settles (·.fate.IsOver) before.writes after.writes

namespace KeepsWhatIsOver

lemma refl (traffic : Traffic) : KeepsWhatIsOver traffic traffic := ⟨.refl _, .refl _⟩

lemma trans {before after last : Traffic} (h : KeepsWhatIsOver before after)
    (h' : KeepsWhatIsOver after last) : KeepsWhatIsOver before last :=
  ⟨h.reads.trans h'.reads, h.writes.trans h'.writes⟩

lemma of_turnOfRead (h : traffic.TurnOfRead i reading link) :
    KeepsWhatIsOver traffic (traffic.afterRead i reading link) := by
  refine ⟨?_, .refl _⟩
  cases h with
  | begins => exact .enter (Nat.le_refl _) _ _ fun earlier hearlier => by simp at hearlier
  | goesOn hwaits | dropped hwaits =>
    refine .enter (Nat.le_of_lt (List.getElem?_eq_some_iff.1 hwaits).1) _ _ fun earlier hearlier => ?_
    obtain rfl := Option.some.inj (hwaits.symm.trans hearlier)
    exact id

lemma of_turnOfWrite (h : traffic.TurnOfWrite i writing link) :
    KeepsWhatIsOver traffic (traffic.afterWrite i writing link) := by
  refine ⟨.refl _, ?_⟩
  cases h with
  | begins => exact .enter (Nat.le_refl _) _ _ fun earlier hearlier => by simp at hearlier
  | goesOn hwaits | dropped hwaits =>
    refine .enter (Nat.le_of_lt (List.getElem?_eq_some_iff.1 hwaits).1) _ _ fun earlier hearlier => ?_
    obtain rfl := Option.some.inj (hwaits.symm.trans hearlier)
    exact id

end KeepsWhatIsOver

lemma ByAboard.keepsWhatIsOver {after : Traffic} (h : traffic.ByAboard after) :
    KeepsWhatIsOver traffic after := by
  cases h with
  | nothing => exact .refl _
  | time => exact ⟨.refl _, .refl _⟩
  | read hturn => exact .of_turnOfRead hturn
  | write hturn => exact .of_turnOfWrite hturn

lemma keepsWhatIsOver_step (traffic : Traffic) (event : Event) :
    KeepsWhatIsOver traffic (traffic.step event) := by
  cases event with
  | aboard deed => exact (traffic.byAboard deed).keepsWhatIsOver
  | ground deed => cases deed <;> exact ⟨.refl _, .refl _⟩

/-! ## Runs -/

lemma run_append (traffic : Traffic) (events more : List Event) :
    traffic.run (events ++ more) = (traffic.run events).run more :=
  List.foldl_append

lemma run_concat (traffic : Traffic) (events : List Event) (event : Event) :
    traffic.run (events ++ [event]) = (traffic.run events).step event := by
  simp [run]

/-- What holds at first, and is kept by every event, holds in every run. -/
lemma run_induction {P : Traffic → Prop} {traffic : Traffic} (hstart : P traffic)
    (hstep : ∀ {traffic : Traffic}, P traffic → ∀ event, P (traffic.step event))
    (events : List Event) : P (traffic.run events) := by
  induction events using List.reverseRecOn with
  | nil => exact hstart
  | append_singleton events event ih =>
    rw [run_concat]
    exact hstep ih event

/-- **A call that is over is over for good.** -/
lemma keepsWhatIsOver_run (traffic : Traffic) (events : List Event) :
    KeepsWhatIsOver traffic (traffic.run events) :=
  run_induction (.refl traffic) (fun h event => h.trans (keepsWhatIsOver_step _ event)) events

end Traffic

end FlightScript.Link
