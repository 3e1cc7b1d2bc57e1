import FlightScript.Proofs.Link.Uplink
/-!
# Behaviours that do the same whenever they run

What a behaviour does depends on what it finds aboard: the counter, a station in reach, a free place in
the downlink queue.  It may also depend on when it runs, and on how long its pauses take.  If it does
not, it is *steady* (`Behavior.Steady`): from two spacecraft that are alike, apart from clocks, logs and
uplinks, it comes to the same ending and leaves spacecraft that are alike again.

This is a condition on all courses of a behaviour.  `Activity.IsTimeless` is one on what it is made of:
it may log, note, count, write and pause, and may look at anything but the board clock.  Such a behaviour
is steady (`Behavior.steady_of_isTimeless`).

## Why

`Activity.eventually` is what an activity comes to if waiting is left out: a pause is over at once, and
so is a write that finds no place, since nobody makes room for it.  A turn heads for a result if it is
that result, or if what remains of the activity comes to it eventually (`Activity.Turn.Heads`).  No
turn changes where a course heads for, so all courses that end have ended alike.
-/

namespace FlightScript

/-! ## Spacecraft that are alike -/

namespace Link

variable {link other : Link} {call : WriteCall}

/-- No write is under way. -/
def AtRest : Link → Prop
  | queue q => q.granted = [] ∧ q.writers = []
  | steady .. => True

/-- One write is under way, and waits for a place. -/
def Awaits (call : WriteCall) : Link → Prop
  | queue q => q.granted = [] ∧ q.writers = [call.ticket] ∧ q.consumer ≠ .dropped
  | steady .. => False

/-- The writes under way are part of the core of a link. -/
lemma writes_of_core {q q' : Queue} (h : (queue q).core = (queue q').core) :
    q.depth = q'.depth ∧ q.inRange = q'.inRange ∧ q.downlink = q'.downlink ∧
      q.consumer = q'.consumer ∧ q.granted = q'.granted ∧ q.writers = q'.writers := by
  simpa [core] using h

lemma AtRest.congr (h : link.AtRest) (hcore : other.core = link.core) : other.AtRest := by
  cases other with
  | steady => trivial
  | queue q' =>
    cases link with
    | steady => cases hcore
    | queue q =>
      obtain ⟨-, -, -, -, hgranted, hwriters⟩ := writes_of_core hcore
      exact ⟨hgranted.trans h.1, hwriters.trans h.2⟩

lemma Awaits.congr (h : link.Awaits call) (hcore : other.core = link.core) : other.Awaits call := by
  cases link with
  | steady => exact h.elim
  | queue q =>
    cases other with
    | steady => cases hcore
    | queue q' =>
      obtain ⟨-, -, -, hconsumer, hgranted, hwriters⟩ := writes_of_core hcore
      exact ⟨hgranted.trans h.1, hwriters.trans h.2.1, hconsumer ▸ h.2.2⟩

end Link

namespace Spacecraft

/-- Two spacecraft are alike in all that commands have an effect on, apart from what is in the audit
log, and no write is under way on either. -/
structure Alike (a b : Spacecraft) : Prop where
  link : a.link.core = b.link.core
  rest : a.link.AtRest
  auditing : a.audit.isEnabled = b.audit.isEnabled
  counter : a.counter = b.counter
  allowances : a.allowances = b.allowances
  journal : a.journal = b.journal

variable {a b c : Spacecraft}

lemma Alike.refl (h : a.link.AtRest) : a.Alike a := ⟨rfl, h, rfl, rfl, rfl, rfl⟩

lemma Alike.symm (h : a.Alike b) : b.Alike a :=
  ⟨h.link.symm, h.rest.congr h.link.symm, h.auditing.symm, h.counter.symm, h.allowances.symm,
    h.journal.symm⟩

lemma Alike.trans (h : a.Alike b) (h' : b.Alike c) : a.Alike c :=
  ⟨h.link.trans h'.link, h.rest, h.auditing.trans h'.auditing, h.counter.trans h'.counter,
    h.allowances.trans h'.allowances, h.journal.trans h'.journal⟩

/-- What leaves the core alone does not matter. -/
lemma alike_of_core (hcore : a.core = b.core) (hrest : b.link.AtRest) : a.Alike b := by
  obtain ⟨hlink, haudit, hcounter, hallowances, hjournal⟩ := core_eq_iff.1 hcore
  exact ⟨hlink, hrest.congr hlink, congrArg _ haudit, hcounter, hallowances, hjournal⟩

/-- Apart from the clock, a look at one shows what a look at the other does. -/
lemma Alike.readings (h : a.Alike b) :
    a.readings.inRange = b.readings.inRange ∧ a.readings.auditing = b.readings.auditing := by
  refine ⟨?_, h.auditing⟩
  have hlink := h.link
  show a.link.inRange = b.link.inRange
  cases ha : a.link with
  | queue q =>
    cases hb : b.link with
    | queue q' =>
      rw [ha, hb] at hlink
      exact (Link.writes_of_core hlink).2.1
    | steady =>
      rw [ha, hb] at hlink
      cases hlink
  | steady =>
    cases hb : b.link with
    | queue q' =>
      rw [ha, hb] at hlink
      cases hlink
    | steady =>
      rw [ha, hb] at hlink
      exact congrArg Link.inRange hlink

end Spacecraft

/-! ## Writing -/

namespace Link

/-- A write on a link with no other one under way fails at once, is done at once, or waits. -/
lemma Queue.beginWrite_of_atRest {q : Queue} (hgranted : q.granted = []) (hwriters : q.writers = [])
    (now : Nat) (packet : Packet) (timeout : Option Nat) :
    q.beginWrite now packet timeout =
      if !q.inRange || q.consumer ≠ .taken then (.ready 0, q)
      else if q.downlink.length < q.depth then
        (.ready packet.payload.length, { q with downlink := q.downlink ++ [packet] })
      else if timeout = some 0 then (.ready 0, { q with nextTicket := q.nextTicket + 1 })
      else (.waiting ⟨q.nextTicket, packet, timeout.map (now + ·)⟩,
        { q with writers := [q.nextTicket], nextTicket := q.nextTicket + 1 }) := by
  unfold beginWrite
  by_cases hclosed : (!q.inRange || q.consumer ≠ .taken : Bool) = true
  · rw [if_pos hclosed, if_pos hclosed]
  · have htaken : q.consumer = .taken := by
      simp only [Bool.or_eq_true, not_or, decide_not, Bool.not_eq_true] at hclosed
      simpa using hclosed.2
    have hplace : q.hasPlace = decide (q.downlink.length < q.depth) := by
      simp [hasPlace, hgranted]
    rw [if_neg hclosed, if_neg hclosed, hplace]
    by_cases hroom : q.downlink.length < q.depth
    · rw [if_pos hroom, if_pos (decide_eq_true hroom)]
    · rw [if_neg hroom, if_neg (by simpa using hroom)]
      cases timeout with
      | none => simp [resumeWrite, htaken, hgranted, hwriters, expired]
      | some timeout => 
        cases timeout <;> simp [resumeWrite, htaken, hgranted, hwriters, expired, endWrite]

/-- Where two links with the same core have no write under way, a write is done on one as on the other,
or waits on both. -/
inductive BeginsAlike (link : Link) :
    Progress WriteCall Nat × Link → Progress WriteCall Nat × Link → Prop where
  | done (written : Nat) {left left' : Link} (hcore : left.core = left'.core) (hrest : left.AtRest) :
    BeginsAlike link (.ready written, left) (.ready written, left')
  | waits {call call' : WriteCall} {left left' : Link} (hawaits : left.Awaits call)
      (hcore : (left.dropWrite call).core = link.core) :
    BeginsAlike link (.waiting call, left) (.waiting call', left')

lemma beginsAlike {link other : Link} (hcore : link.core = other.core) (hrest : link.AtRest)
    (now now' : Nat) (packet : Packet) (timeout : Option Nat) :
    BeginsAlike link (link.beginWrite now packet timeout) (other.beginWrite now' packet timeout) := by
  cases link with
  | steady written inRange =>
    cases other with
    | queue q' => cases hcore
    | steady written' inRange' =>
      cases hcore
      exact .done written rfl trivial
  | queue q =>
    cases other with
    | steady => cases hcore
    | queue q' =>
      obtain ⟨depth, inRange, uplink, readers, downlink, consumer, granted, writers, next⟩ := q'
      obtain ⟨rfl, rfl, rfl, rfl, rfl, rfl⟩ := writes_of_core hcore
      have hturn := q.beginWrite_of_atRest hrest.1 hrest.2 now packet timeout
      have hturn' := Queue.beginWrite_of_atRest (q := { q with uplink, readers, nextTicket := next })
        hrest.1 hrest.2 now' packet timeout
      simp only [beginWrite, hturn, hturn']
      split
      · exact .done 0 hcore hrest
      · next hopen =>
        split
        · exact .done _ rfl hrest
        · split
          · exact .done 0 rfl hrest
          · refine .waits ⟨hrest.1, rfl, ?_⟩ ?_
            · intro hdropped
              have hconsumer : q.consumer = .dropped := hdropped
              simp [hconsumer] at hopen
            · simp [dropWrite, Queue.endWrite, hrest.1, hrest.2, core]

/-- A write that waits for a place which nobody makes goes on waiting, or fails. -/
lemma resumeWrite_of_awaits {link : Link} {call : WriteCall} (h : link.Awaits call) (now : Nat) :
    link.resumeWrite now call = (.ready 0, link.dropWrite call) ∨
      link.resumeWrite now call = (.waiting call, link) := by
  cases link with
  | steady => exact h.elim
  | queue q =>
    obtain ⟨hgranted, -, hopen⟩ := h
    by_cases hexpired : expired now call.expiry = true
    · exact .inl (by simp [resumeWrite, Queue.resumeWrite, dropWrite, hopen, hgranted, hexpired])
    · exact .inr (by simp [resumeWrite, Queue.resumeWrite, hopen, hgranted, hexpired])

/-- What is given up leaves the core as it was without it, whatever has become of the uplink. -/
lemma core_dropWrite_congr {link other : Link} {call : WriteCall} (h : link.Awaits call)
    (hcore : other.core = link.core) : (other.dropWrite call).core = (link.dropWrite call).core := by
  cases link with
  | steady => exact h.elim
  | queue q =>
    cases other with
    | steady => cases hcore
    | queue q' =>
      obtain ⟨hdepth, hrange, hdownlink, hconsumer, hgranted, hwriters⟩ := writes_of_core hcore
      obtain ⟨hnone, hone, -⟩ := h
      simp [dropWrite, Queue.endWrite, core, hdepth, hrange, hdownlink, hconsumer, hgranted, hwriters,
        hnone, hone]

end Link

/-! ## What an activity comes to -/

namespace Activity

/-- An activity that does not look at the board clock. -/
def IsTimeless : Activity → Prop
  | finish _ => True
  | log _ next => next.IsTimeless
  | note _ next => next.IsTimeless
  | count next => ∀ counter, (next counter).IsTimeless
  | observe next =>
    (∀ readings, (next readings).IsTimeless) ∧
      ∀ readings uptime, next { readings with uptime } = next readings
  | write _ _ _ next => ∀ written, (next written).IsTimeless
  | pause _ next => next.IsTimeless
  | never => True
  | crash => True

/-- What an activity comes to if waiting is left out: nobody makes room for a write that finds no
place. -/
def eventually : Activity → Spacecraft → Option (Ending × Spacecraft)
  | finish ending, craft => some (ending, craft)
  | log _ next, craft => next.eventually craft
  | note text next, craft => next.eventually (craft.enter (.note text))
  | count next, craft =>
    (next craft.counter).eventually { craft with counter := craft.counter + 1 }
  | observe next, craft => (next craft.readings).eventually craft
  | write payload port timeout next, craft =>
    match craft.link.beginWrite craft.now ⟨port, payload⟩ timeout with
    | (.ready written, link) => (next written).eventually { craft with link }
    | (.waiting _, _) => (next 0).eventually craft
  | pause _ next, craft => next.eventually craft
  | never, _ => none
  | crash, _ => none

namespace Turn

/-- A turn is that result, or what remains of its activity comes to it eventually. -/
inductive Heads (result : Option (Ending × Spacecraft)) : Turn → Prop where
  | ended {ending : Ending} {craft there : Spacecraft} (halike : craft.Alike there)
      (hresult : some (ending, there) = result) : Heads result (.ready (.ended ending), craft)
  | crashed {craft : Spacecraft} : Heads result (.ready .crashed, craft)
  | pauses {limit : Nat} {next : Activity} {craft there : Spacecraft} (htimeless : next.IsTimeless)
      (halike : craft.Alike there) (hresult : next.eventually there = result) :
    Heads result (.waiting (.time limit next), craft)
  | writes {call : Link.WriteCall} {next : Nat → Activity} {craft there : Spacecraft}
      (htimeless : (next 0).IsTimeless) (hawaits : craft.link.Awaits call)
      (halike : Spacecraft.Alike { craft with link := craft.link.dropWrite call } there)
      (hresult : (next 0).eventually there = result) :
    Heads result (.waiting (.place call next), craft)
  | forever {craft : Spacecraft} : Heads result (.waiting .forever, craft)

end Turn

/-- **A first stretch heads for what the activity comes to** on any spacecraft that is alike. -/
lemma heads_run {activity : Activity} (htimeless : activity.IsTimeless) {craft there : Spacecraft}
    (halike : craft.Alike there) :
    Turn.Heads (activity.eventually there) (activity.run craft) := by
  induction activity generalizing craft there with
  | finish ending => exact .ended halike rfl
  | log line next ih =>
    exact ih htimeless ⟨halike.link, halike.rest, halike.auditing, halike.counter, halike.allowances,
      halike.journal⟩
  | note text next ih =>
    exact ih htimeless ⟨halike.link, halike.rest, halike.auditing, halike.counter, halike.allowances,
      congrArg (· ++ [JournalEntry.note text]) halike.journal⟩
  | count next ih =>
    have hnext : Turn.Heads ((next craft.counter).eventually { there with counter := craft.counter + 1 })
        ((next craft.counter).run { craft with counter := craft.counter + 1 }) :=
      ih craft.counter (htimeless _)
        ⟨halike.link, halike.rest, halike.auditing, rfl, halike.allowances, halike.journal⟩
    unfold eventually
    rw [← halike.counter]
    exact hnext
  | observe next ih =>
    obtain ⟨hrange, hauditing⟩ := halike.readings
    have hsame : next craft.readings = next there.readings := by
      calc
        next craft.readings
          = next ⟨there.readings.inRange, there.readings.auditing, craft.uptime⟩ := by
            rw [← hrange, ← hauditing]
            rfl
        _ = next there.readings := htimeless.2 there.readings craft.uptime
    have hnext := ih craft.readings (htimeless.1 _) halike
    unfold eventually
    rw [← hsame]
    exact hnext
  | write payload port timeout next ih =>
    have hbegins := Link.beginsAlike halike.link halike.rest craft.now there.now ⟨port, payload⟩ timeout
    unfold run eventually
    revert hbegins
    generalize craft.link.beginWrite craft.now ⟨port, payload⟩ timeout = turn
    generalize there.link.beginWrite there.now ⟨port, payload⟩ timeout = turn'
    intro hbegins
    cases hbegins with
    | done written hcore hrest =>
      exact ih written (htimeless written)
        ⟨hcore, hrest, halike.auditing, halike.counter, halike.allowances, halike.journal⟩
    | waits hawaits hcore =>
      exact .writes (htimeless 0) hawaits
        ⟨hcore.trans halike.link, halike.rest.congr hcore, halike.auditing, halike.counter,
          halike.allowances, halike.journal⟩ rfl
  | pause milliseconds next ih =>
    unfold run
    split
    · exact ih htimeless halike
    · exact .pauses htimeless halike rfl
  | never => exact .forever
  | crash => exact .crashed

namespace Turn

variable {result : Option (Ending × Spacecraft)} {turn : Turn} {interlude : Interlude}
  {interludes : List Interlude}

/-- **No turn changes where a course heads for**, if nothing but quiet interludes lie between. -/
lemma Heads.next (h : turn.Heads result) (hquiet : interlude.Quiet) :
    (turn.next none interlude).Heads result := by
  cases h with
  | ended halike hresult => exact .ended halike hresult
  | crashed => exact .crashed
  | @pauses limit next craft there htimeless halike hresult =>
    have hcore := hquiet craft
    have hhere : (interlude craft).Alike there :=
      (Spacecraft.alike_of_core hcore halike.rest).trans halike
    show Heads result (Wait.resume (.time limit next) (interlude craft))
    unfold Wait.resume
    by_cases hover : limit ≤ (interlude craft).now
    · simp only [if_pos hover]
      exact hresult ▸ heads_run htimeless hhere
    · simp only [if_neg hover]
      exact .pauses htimeless hhere hresult
  | @writes call next craft there htimeless hawaits halike hresult =>
    have hcore := hquiet craft
    have hlink := (Spacecraft.core_eq_iff.1 hcore).1
    have hawaits' : (interlude craft).link.Awaits call := hawaits.congr hlink
    have hhere : Spacecraft.Alike
        { interlude craft with link := (interlude craft).link.dropWrite call } there := by
      refine .trans (Spacecraft.alike_of_core ?_ halike.rest) halike
      rw [Spacecraft.core_eq_iff] at hcore ⊢
      exact ⟨Link.core_dropWrite_congr hawaits hlink, hcore.2⟩
    show Heads result (Wait.resume (.place call next) (interlude craft))
    unfold Wait.resume
    rcases Link.resumeWrite_of_awaits hawaits' (interlude craft).now with hfails | hwaits
    · simp only [hfails]
      exact hresult ▸ heads_run htimeless hhere
    · simp only [hwaits]
      exact .writes htimeless hawaits' hhere hresult
  | forever => exact .forever

lemma Heads.foldl (h : turn.Heads result) (hquiet : ∀ interlude ∈ interludes, interlude.Quiet) :
    (interludes.foldl (Turn.next none) turn).Heads result := by
  induction interludes generalizing turn with
  | nil => exact h
  | cons interlude interludes ih =>
    obtain ⟨hfirst, hrest⟩ := List.forall_mem_cons.1 hquiet
    exact ih (h.next hfirst) hrest

/-- A course that has ended has come to where it headed for. -/
lemma Heads.eq_of_ended {ending : Ending} {craft : Spacecraft}
    (h : Heads result (.ready (.ended ending), craft)) :
    ∃ there, craft.Alike there ∧ result = some (ending, there) := by
  cases h with
  | ended halike hresult => exact ⟨_, halike, hresult.symm⟩

end Turn

/-- So a course that ends has come to what the activity comes to eventually, on any spacecraft that is
alike. -/
lemma course_eq_eventually {activity : Activity} (htimeless : activity.IsTimeless)
    {craft there craft' : Spacecraft} {ending : Ending} (halike : craft.Alike there)
    {interludes : List Interlude} (hquiet : ∀ interlude ∈ interludes, interlude.Quiet)
    (h : activity.course none craft interludes = (.ready (.ended ending), craft')) :
    ∃ there', craft'.Alike there' ∧ activity.eventually there = some (ending, there') := by
  have hheads : (activity.course none craft interludes).Heads (activity.eventually there) :=
    (heads_run htimeless halike).foldl hquiet
  rw [h] at hheads
  exact hheads.eq_of_ended

end Activity

/-! ## Steady behaviours -/

/-- **A steady behaviour does the same whenever it runs.**  From spacecraft that are alike, through any
interludes that are quiet, two of its courses that end come to the same status and leave spacecraft that
are alike. -/
def Behavior.Steady (behavior : Behavior) : Prop :=
  ∀ (context : Context) (a b a' b' : Spacecraft) (interludes interludes' : List Interlude)
    (ending ending' : Ending), a.Alike b →
    (∀ interlude ∈ interludes, interlude.Quiet) → (∀ interlude ∈ interludes', interlude.Quiet) →
    (behavior.start context).course none a interludes = (.ready (.ended ending), a') →
    (behavior.start context).course none b interludes' = (.ready (.ended ending'), b') →
    ending.status = ending'.status ∧ a'.Alike b'

/-- **A behaviour that does not look at the board clock is steady**, however it pauses and writes. -/
lemma Behavior.steady_of_isTimeless {behavior : Behavior}
    (h : ∀ context, (behavior.start context).IsTimeless) : behavior.Steady := by
  intro context a b a' b' interludes interludes' ending ending' halike hquiet hquiet' hcourse hcourse'
  obtain ⟨there, hthere, hresult⟩ :=
    Activity.course_eq_eventually (h context) halike hquiet hcourse
  obtain ⟨there', hthere', hresult'⟩ :=
    Activity.course_eq_eventually (h context) (.refl halike.symm.rest) hquiet' hcourse'
  obtain ⟨rfl, rfl⟩ : ending = ending' ∧ there = there' := by
    rw [hresult] at hresult'
    exact Prod.mk.inj (Option.some.inj hresult')
  exact ⟨rfl, hthere.trans hthere'.symm⟩

/-! ## Courses that are not cut short -/

namespace Activity

lemma course_concat (activity : Activity) (expiry : Option Nat) (craft : Spacecraft)
    (interludes : List Interlude) (interlude : Interlude) :
    activity.course expiry craft (interludes ++ [interlude]) =
      (activity.course expiry craft interludes).next expiry interlude := by
  simp [course]

/-- A course that does not wait past its time limit is the same without one. -/
lemma course_none {activity : Activity} {expiry : Option Nat} {craft : Spacecraft}
    {interludes : List Interlude}
    (h : ∀ wait craft', activity.course expiry craft interludes = (.waiting wait, craft') →
      expired craft'.now expiry = false) :
    activity.course none craft interludes = activity.course expiry craft interludes := by
  induction interludes using List.reverseRecOn with
  | nil => rfl
  | append_singleton interludes interlude ih =>
    rw [course_concat] at h
    rw [course_concat, course_concat]
    rcases hturn : activity.course expiry craft interludes with ⟨stop | wait, craft'⟩
    · rw [ih (by simp [hturn]), hturn]
      rfl
    · have hintime : expired craft'.now expiry = false := by
        by_contra hlate
        -- it would wait there for good
        have hsame : (activity.course expiry craft interludes).next expiry interlude =
            (.waiting wait, craft') := by
          rw [hturn]
          exact if_pos (by simpa using hlate)
        exact hlate (h wait craft' hsame)
      have hearlier : ∀ wait craft', activity.course expiry craft interludes = (.waiting wait, craft') →
          expired craft'.now expiry = false := by
        intro wait' craft'' hturn'
        rw [hturn] at hturn'
        cases hturn'
        exact hintime
      rw [ih hearlier, hturn]
      show wait.resume (interlude craft') = if expired craft'.now expiry then _ else _
      rw [hintime]
      rfl

/-- So is one that has come to its end. -/
lemma course_none_of_ready {activity : Activity} {expiry : Option Nat} {craft craft' : Spacecraft}
    {interludes : List Interlude} {stop : Stop}
    (h : activity.course expiry craft interludes = (.ready stop, craft')) :
    activity.course none craft interludes = (.ready stop, craft') := by
  have hnotWaiting : ∀ wait craft'', activity.course expiry craft interludes = (.waiting wait, craft'') →
      expired craft''.now expiry = false := by
    intro wait craft'' hwaits
    rw [h] at hwaits
    cases hwaits
  rw [course_none hnotWaiting, h]

end Activity

end FlightScript
