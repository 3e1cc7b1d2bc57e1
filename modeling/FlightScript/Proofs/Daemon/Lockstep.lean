import FlightScript.Proofs.Daemon.Bookkeeping
import FlightScript.Proofs.Daemon.Loop
import Mathlib.Data.List.Forall2
/-!
# Two runs side by side

Some statements about the daemon compare two of its runs: one with a storage that fails against one with
another, one with this in its receive buffer against one with that, one with some scripts against one
without them.  Each comes down to a relation of two spacecraft which says what may be different.

Such a relation is a `Spacecraft.Congruence` if commands cannot tell two related spacecraft apart, and if
whatever is done aboard leaves them related.  That is one condition for each of the few things that can be
done aboard, and it is all that this file asks.  Relations of spacecraft that differ in their logs alone are
of this kind (`Spacecraft.congruence_alikeUpTo`).  What follows, one function after another, is that two runs
stay in lockstep: activities (`Activity.sameTurn_run`), executions, the handling of one script
(`Daemon.lockstep_handling`) and whole sessions (`Daemon.Session.Lockstep.run`).

Two daemons that are `Twins` may differ in their books and in their receive buffers, since what is done
with a script depends on neither.
-/

namespace FlightScript

/-- A relation of two spacecraft that commands cannot tell apart, and which everything that is done aboard
keeps. -/
structure Spacecraft.Congruence (R : Spacecraft → Spacecraft → Prop) : Prop where
  now : ∀ {a b}, R a b → a.now = b.now
  link : ∀ {a b}, R a b → a.link = b.link
  counter : ∀ {a b}, R a b → a.counter = b.counter
  allowances : ∀ {a b}, R a b → a.allowances = b.allowances
  journal : ∀ {a b}, R a b → a.journal = b.journal
  readings : ∀ {a b}, R a b → a.readings = b.readings
  withLink : ∀ {a b}, R a b → ∀ link, R { a with link } { b with link }
  withCounter : ∀ {a b}, R a b → ∀ counter, R { a with counter } { b with counter }
  withAllowances : ∀ {a b}, R a b → ∀ allowances, R { a with allowances } { b with allowances }
  enter : ∀ {a b}, R a b → ∀ entry, R (a.enter entry) (b.enter entry)
  sayAll : ∀ {a b}, R a b → ∀ lines, R (a.sayAll lines) (b.sayAll lines)
  recordStatus : ∀ {a b}, R a b →
    ∀ kind status, R (a.recordStatus kind status) (b.recordStatus kind status)

/-- Two spacecraft that may differ in the lines that were logged and in their audit logs, which stand in a
relation of their own. -/
structure Spacecraft.AlikeUpTo (P : Audit.Trail → Audit.Trail → Prop) (a b : Spacecraft) : Prop where
  now : a.now = b.now
  uptime : a.uptime = b.uptime
  date : a.date = b.date
  link : a.link = b.link
  counter : a.counter = b.counter
  allowances : a.allowances = b.allowances
  journal : a.journal = b.journal
  audit : P a.audit b.audit

/-- Commands see of an audit log that there is one, and append to it.  So they cannot tell two apart whose
relation says as much and is kept by appending. -/
lemma Spacecraft.congruence_alikeUpTo {P : Audit.Trail → Audit.Trail → Prop}
    (henabled : ∀ {trail trail'}, P trail trail' → trail.isEnabled = trail'.isEnabled)
    (happend : ∀ {trail trail'}, P trail trail' →
      ∀ record, P (trail.append record).2 (trail'.append record).2) :
    Congruence (AlikeUpTo P) where
  now h := h.now
  link h := h.link
  counter h := h.counter
  allowances h := h.allowances
  journal h := h.journal
  readings h := by rw [readings, readings, h.link, henabled h.audit, h.uptime]
  withLink h link := { h with link := rfl }
  withCounter h counter := { h with counter := rfl }
  withAllowances h allowances := { h with allowances := rfl }
  enter h entry := { h with journal := congrArg (· ++ [entry]) h.journal }
  sayAll h _ := { h with }
  recordStatus {a b} h kind status := { h with
    audit := by
      have htimestamp : a.timestamp = b.timestamp := by rw [timestamp, timestamp, h.date]
      change P (a.audit.append ⟨kind, a.timestamp, status⟩).2
        (b.audit.append ⟨kind, b.timestamp, status⟩).2
      rw [htimestamp]
      exact happend h.audit _ }

/-- Two turns that come to the same, on spacecraft that stay related. -/
def SameTurn (R : Spacecraft → Spacecraft → Prop) {α : Type} (turn turn' : α × Spacecraft) : Prop :=
  turn.1 = turn'.1 ∧ R turn.2 turn'.2

/-- What happens aboard does not depend on where two related spacecraft differ. -/
def Interlude.Respects (R : Spacecraft → Spacecraft → Prop) (interlude : Interlude) : Prop :=
  ∀ a b, R a b → R (interlude a) (interlude b)

/-! ## Activities -/

section Commands

variable {R : Spacecraft → Spacecraft → Prop} (hR : Spacecraft.Congruence R) {a b : Spacecraft}

include hR

lemma Spacecraft.Congruence.say (h : R a b) (line : Log.Line) : R (a.say line) (b.say line) :=
  hR.sayAll h [line]

lemma Activity.sameTurn_run (activity : Activity) (h : R a b) :
    SameTurn R (activity.run a) (activity.run b) := by
  induction activity generalizing a b with
  | finish ending => exact ⟨rfl, h⟩
  | log line next ih => exact ih (hR.say h line)
  | note text next ih => exact ih (hR.enter h (.note text))
  | count next ih =>
    unfold run
    rw [← hR.counter h]
    exact ih a.counter (hR.withCounter h _)
  | observe next ih =>
    unfold run
    rw [← hR.readings h]
    exact ih a.readings h
  | write payload port timeout next ih =>
    have hwrite : b.link.beginWrite b.now ⟨port, payload⟩ timeout =
        a.link.beginWrite a.now ⟨port, payload⟩ timeout := by
      rw [hR.now h, hR.link h]
    unfold run
    rw [hwrite]
    split
    · next written link _ => exact ih written (hR.withLink h link)
    · next call link _ => exact ⟨rfl, hR.withLink h link⟩
  | pause milliseconds next ih =>
    unfold run
    rw [← hR.now h]
    split
    · exact ih h
    · exact ⟨rfl, h⟩
  | never => exact ⟨rfl, h⟩
  | crash => exact ⟨rfl, h⟩

lemma Wait.sameTurn_resume (wait : Wait) (h : R a b) : SameTurn R (wait.resume a) (wait.resume b) := by
  cases wait with
  | time limit next =>
    unfold resume
    rw [← hR.now h]
    simp only
    split
    · exact next.sameTurn_run hR h
    · exact ⟨rfl, h⟩
  | place call next =>
    have hwrite : b.link.resumeWrite b.now call = a.link.resumeWrite a.now call := by
      rw [hR.now h, hR.link h]
    unfold resume
    simp only
    rw [hwrite]
    split
    · next written link _ => exact (next written).sameTurn_run hR (hR.withLink h link)
    · next call link _ => exact ⟨rfl, hR.withLink h link⟩
  | forever => exact ⟨rfl, h⟩

lemma Wait.related_drop (wait : Wait) (h : R a b) : R (wait.drop a) (wait.drop b) := by
  cases wait with
  | place call next =>
    unfold drop
    rw [← hR.link h]
    exact hR.withLink h _
  | _ => exact h

/-! ## Executions -/

lemma Command.related_recordStatus (command : Command) (h : R a b) :
    R (command.recordStatus a) (command.recordStatus b) := by
  unfold recordStatus
  split
  · exact hR.recordStatus h _ _
  · exact h

lemma Command.sameTurn_conclude (command : Command) (ending : Ending) (h : R a b) :
    SameTurn R (command.conclude ending a) (command.conclude ending b) :=
  ⟨rfl, related_recordStatus hR _ (hR.say h _)⟩

lemma Execution.sameTurn_settle (command : Command) (deadline : Option Deadline)
    {turn turn' : Activity.Turn} (h : SameTurn R turn turn') :
    SameTurn R (settle command deadline turn) (settle command deadline turn') := by
  obtain ⟨progress, a⟩ := turn
  obtain ⟨progress', b⟩ := turn'
  obtain ⟨rfl, hab⟩ : progress = progress' ∧ R a b := h
  rcases progress with (ending | _) | wait
  · exact ⟨rfl, (command.sameTurn_conclude hR ending hab).2⟩
  · exact ⟨rfl, hab⟩
  · cases deadline with
    | none => exact ⟨rfl, hab⟩
    | some limit =>
      simp only [settle]
      rw [← hR.now hab]
      split
      · exact ⟨rfl, (command.sameTurn_conclude hR _ (wait.related_drop hR hab)).2⟩
      · exact ⟨rfl, hab⟩

lemma Command.sameTurn_execute (command : Command) (allowed : Option Nat) (h : R a b) :
    SameTurn R (command.execute allowed a) (command.execute allowed b) := by
  unfold execute
  split
  · exact ⟨rfl, hR.say h _⟩
  · next status _ =>
    have hentry := hR.enter (related_recordStatus hR (command.withStatus status) h)
      (.entered (command.withStatus status).context)
    simp only
    rw [← hR.now hentry]
    exact Execution.sameTurn_settle hR _ _ (Activity.sameTurn_run hR _ hentry)

omit hR in
lemma Script.sameTurn_around (script : Script) {turn turn' : Progress Execution Executed × Spacecraft}
    (h : SameTurn R turn turn') : SameTurn R (script.around turn) (script.around turn') := by
  obtain ⟨progress, a⟩ := turn
  obtain ⟨progress', b⟩ := turn'
  obtain ⟨rfl, hab⟩ : progress = progress' ∧ R a b := h
  rcases progress with (command | _) | execution <;> exact ⟨rfl, hab⟩

end Commands

namespace Daemon

/-! ## One script -/

/-- Two daemons that are set up alike and have come to the same id.  Their books may differ, and so may
what is in their buffers. -/
structure Twins (daemon other : Daemon) : Prop where
  registry : daemon.registry = other.registry
  settings : daemon.settings = other.settings
  nextId : daemon.nextId = other.nextId

lemma Twins.refl (daemon : Daemon) : daemon.Twins daemon := ⟨rfl, rfl, rfl⟩

lemma Twins.rewritten {daemon other : Daemon} (h : daemon.Twins other)
    {buffer buffer' : ReceiveBuffer} {stats stats' : Stats} :
    Twins { daemon with buffer, stats } { other with buffer := buffer', stats := stats' } :=
  ⟨h.registry, h.settings, h.nextId⟩

lemma Twins.numbered {daemon other : Daemon} (h : daemon.Twins other)
    {buffer buffer' : ReceiveBuffer} {stats stats' : Stats} :
    Twins { daemon with buffer, stats, nextId := daemon.nextId + 1 }
      { other with buffer := buffer', stats := stats', nextId := other.nextId + 1 } :=
  ⟨h.registry, h.settings, congrArg (· + 1) h.nextId⟩

/-- Turns of two daemons that come to the same. -/
structure TurnsAlike (R : Spacecraft → Spacecraft → Prop)
    (turn turn' : Progress Script.Interpretation Handled × Daemon × Spacecraft) : Prop where
  progress : turn.1 = turn'.1
  daemon : turn.2.1.Twins turn'.2.1
  craft : R turn.2.2 turn'.2.2

/-- Two handlings that have come to the same: as far, with the same behaviours entered. -/
structure Handling.Lockstep (R : Spacecraft → Spacecraft → Prop) (handling other : Handling) : Prop where
  progress : handling.progress = other.progress
  daemon : handling.daemon.Twins other.daemon
  craft : R handling.craft other.craft
  entered : handling.entered = other.entered

/-- Two scripts that are received alike are as long as the other as far as they fit. -/
lemma ReceiveBuffer.received_congr {script script' : Bytes}
    (h : script.take Limits.scriptLength = script'.take Limits.scriptLength) :
    received script = received script' := by
  have hlength := congrArg List.length h
  rw [List.length_take, List.length_take] at hlength
  rw [received, received, Nat.min_comm, hlength, Nat.min_comm]

section Handlings

variable {R : Spacecraft → Spacecraft → Prop} (hR : Spacecraft.Congruence R) {a b : Spacecraft}
  {daemon other : Daemon}

include hR

lemma turnsAlike_settle (htwins : daemon.Twins other)
    {turn turn' : Progress Script.Interpretation Script.Interpreted × Spacecraft}
    (h : SameTurn R turn turn') : TurnsAlike R (daemon.settle turn) (other.settle turn') := by
  obtain ⟨progress, a⟩ := turn
  obtain ⟨progress', b⟩ := turn'
  obtain ⟨rfl, hab⟩ : progress = progress' ∧ R a b := h
  rcases progress with (script | _) | run
  · exact ⟨rfl, htwins.rewritten, hR.sayAll hab _⟩
  · exact ⟨rfl, htwins, hab⟩
  · exact ⟨rfl, htwins, hab⟩

/-- **The front of the buffer is all that matters of it.**  What lies behind the octets that were received
is not looked at. -/
lemma turnsAlike_handle (htwins : daemon.Twins other) (h : R a b) {length : Nat}
    (hfront : daemon.buffer.bytes.take length = other.buffer.bytes.take length) :
    TurnsAlike R (daemon.handle length a) (other.handle length b) := by
  have hparse : Script.parse (other.buffer.bytes.take length) other.registry b.allowances =
      Script.parse (daemon.buffer.bytes.take length) daemon.registry a.allowances := by
    rw [hfront, htwins.registry, hR.allowances h]
  unfold handle
  split
  · exact ⟨rfl, htwins, h⟩
  · simp only
    rw [hparse]
    split
    · next e allowances _ => exact ⟨rfl, htwins.rewritten, hR.say (hR.withAllowances h allowances) _⟩
    · next script allowances _ =>
      refine turnsAlike_settle hR htwins.numbered ?_
      rw [← htwins.nextId, ← htwins.settings]
      exact Script.sameTurn_around _ (Command.sameTurn_execute hR _ _ (hR.withAllowances h allowances))

lemma turnsAlike_handleScript (htwins : daemon.Twins other) (h : R a b) {script script' : Bytes}
    (hscript : script.take Limits.scriptLength = script'.take Limits.scriptLength) :
    TurnsAlike R (daemon.handleScript script a) (other.handleScript script' b) := by
  have hfront : (daemon.buffer.receive script).bytes.take (ReceiveBuffer.received script) =
      (other.buffer.receive script').bytes.take (ReceiveBuffer.received script) := by
    calc
      (daemon.buffer.receive script).bytes.take (ReceiveBuffer.received script)
        = script.take Limits.scriptLength := daemon.buffer.take_receive script
      _ = script'.take Limits.scriptLength := hscript
      _ = (other.buffer.receive script').bytes.take (ReceiveBuffer.received script) := by
        rw [ReceiveBuffer.received_congr hscript, other.buffer.take_receive script']
  unfold handleScript
  rw [← ReceiveBuffer.received_congr hscript]
  exact turnsAlike_handle hR htwins.rewritten h hfront

lemma turnsAlike_resume (htwins : daemon.Twins other) (run : Script.Interpretation) (h : R a b) :
    TurnsAlike R (daemon.resume run a) (other.resume run b) := by
  refine turnsAlike_settle hR htwins (Script.sameTurn_around _ ?_)
  exact Execution.sameTurn_settle hR _ _ (run.execution.wait.sameTurn_resume hR h)

lemma TurnsAlike.lockstep {turn turn' : Progress Script.Interpretation Handled × Daemon × Spacecraft}
    (h : TurnsAlike R turn turn') (hab : R a b) (entered : List Context) :
    (Handling.ofTurn a entered turn).Lockstep R (Handling.ofTurn b entered turn') := by
  refine ⟨h.progress, h.daemon, h.craft, ?_⟩
  simp only [Handling.ofTurn, Spacecraft.enteredSince]
  rw [hR.journal hab, hR.journal h.craft]

lemma Handling.Lockstep.next {handling handling' : Handling} (h : handling.Lockstep R handling')
    {interlude : Interlude} (hrespects : interlude.Respects R) :
    (handling.next interlude).Lockstep R (handling'.next interlude) := by
  unfold Handling.next
  rw [← h.progress]
  split
  · exact h
  · next run _ =>
    have hcraft := hrespects _ _ h.craft
    rw [← h.entered]
    exact (turnsAlike_resume hR h.daemon run hcraft).lockstep hR hcraft _

/-- **Two handlings of scripts that are received alike stay in lockstep**, whatever happens meanwhile. -/
lemma lockstep_handling (htwins : daemon.Twins other) (h : R a b) {script script' : Bytes}
    (hscript : script.take Limits.scriptLength = script'.take Limits.scriptLength)
    {interludes : List Interlude} (hrespects : ∀ interlude ∈ interludes, interlude.Respects R) :
    (daemon.handling script a interludes).Lockstep R (other.handling script' b interludes) := by
  unfold handling
  have hfirst := (turnsAlike_handleScript hR htwins h hscript).lockstep hR h []
  revert hfirst
  generalize Handling.ofTurn a [] (daemon.handleScript script a) = first
  generalize Handling.ofTurn b [] (other.handleScript script' b) = first'
  intro hfirst
  induction interludes generalizing first first' with
  | nil => exact hfirst
  | cons interlude interludes ih =>
    obtain ⟨hone, hrest⟩ := List.forall_mem_cons.1 hrespects
    exact ih hrest _ _ (hfirst.next hR hone)

omit hR in
/-- Two handlings in lockstep report the same. -/
lemma Handling.Lockstep.outcome?_eq {handling handling' : Handling} (h : handling.Lockstep R handling') :
    handling.outcome? = handling'.outcome? := by
  unfold Handling.outcome?
  rw [h.progress]

omit hR in
lemma filterMap_outcome?_eq {handled handled' : List Handling}
    (h : List.Forall₂ (Handling.Lockstep R) handled handled') :
    handled.filterMap Handling.outcome? = handled'.filterMap Handling.outcome? := by
  induction h with
  | nil => rfl
  | cons hhandling _ ih => rw [List.filterMap_cons, List.filterMap_cons, hhandling.outcome?_eq, ih]

lemma Handling.Lockstep.released {handling handling' : Handling} (h : handling.Lockstep R handling') :
    R handling.released handling'.released := by
  unfold Handling.released
  rw [← h.progress]
  split
  · exact h.craft
  · next run _ => exact run.execution.wait.related_drop hR h.craft

end Handlings

/-! ## Runs of calls -/

/-- Two calls with scripts that are received alike, and with the same going on around them. -/
structure Call.SameFront (call call' : Call) : Prop where
  script : call.script.take Limits.scriptLength = call'.script.take Limits.scriptLength
  lead : call.lead = call'.lead
  interludes : call.interludes = call'.interludes

lemma Call.SameFront.refl (call : Call) : call.SameFront call := ⟨rfl, rfl, rfl⟩

/-- What happens before a call and between its turns does not depend on where related spacecraft differ. -/
def Call.Respects (R : Spacecraft → Spacecraft → Prop) (call : Call) : Prop :=
  call.lead.Respects R ∧ ∀ interlude ∈ call.interludes, interlude.Respects R

/-- A call does to the books what its script and its outcome say. -/
lemma Handles.stats_congr {daemon other : Daemon} {script script' : Bytes} {craft craft' : Spacecraft}
    {interludes interludes' : List Interlude} {handling handling' : Handling}
    (h : Handles daemon script craft interludes handling)
    (h' : Handles other script' craft' interludes' handling') (hstats : daemon.stats = other.stats)
    (hscript : script = [] ↔ script' = []) (houtcome : handling.outcome? = handling'.outcome?) :
    handling.daemon.stats = handling'.daemon.stats := by
  have hreceived := h.received_eq
  have hexecuted := h.executed_eq
  have hdropped := h.dropped_eq
  simp only [hstats, hscript, houtcome] at hreceived hexecuted hdropped
  rw [← h'.received_eq] at hreceived
  rw [← h'.executed_eq] at hexecuted
  rw [← h'.dropped_eq] at hdropped
  calc
    handling.daemon.stats
      = ⟨handling.daemon.stats.received, handling.daemon.stats.executed,
          handling.daemon.stats.dropped⟩ := rfl
    _ = handling'.daemon.stats := by rw [hreceived, hexecuted, hdropped]

namespace Session

/-- Two sessions that have come to the same, call by call. -/
structure Lockstep (R : Spacecraft → Spacecraft → Prop) (session other : Session) : Prop where
  daemon : session.daemon.Twins other.daemon
  stats : session.daemon.stats = other.daemon.stats
  craft : R session.craft other.craft
  handled : List.Forall₂ (Handling.Lockstep R) session.handled other.handled

variable {R : Spacecraft → Spacecraft → Prop} (hR : Spacecraft.Congruence R) {session other : Session}
  {calls calls' : List Call}

include hR

/-- One more call on both sides. -/
lemma Lockstep.call (h : session.Lockstep R other) {call call' : Call} (hcall : call.SameFront call')
    (hrespects : call.Respects R) : (session.call call).Lockstep R (other.call call') := by
  have hlead : R (call.lead session.craft) (call'.lead other.craft) :=
    hcall.lead ▸ hrespects.1 _ _ h.craft
  have hhandling : (session.handlingOf call).Lockstep R (other.handlingOf call') := by
    unfold handlingOf
    rw [← hcall.interludes]
    exact lockstep_handling hR h.daemon hlead hcall.script hrespects.2
  have hempty : call.script = [] ↔ call'.script = [] := by
    rw [← take_scriptLength_eq_nil_iff, hcall.script, take_scriptLength_eq_nil_iff]
  have hstats := (session.handles_handlingOf call).stats_congr (other.handles_handlingOf call') h.stats
    hempty hhandling.outcome?_eq
  exact ⟨hhandling.daemon, hstats, hhandling.released hR,
    List.rel_append h.handled (.cons hhandling .nil)⟩

/-- **Two sessions stay in lockstep** through calls with scripts that are received alike. -/
lemma Lockstep.run (h : session.Lockstep R other) (hcalls : List.Forall₂ Call.SameFront calls calls')
    (hrespects : ∀ call ∈ calls, call.Respects R) :
    (session.run calls).Lockstep R (other.run calls') := by
  induction hcalls generalizing session other with
  | nil => exact h
  | cons hcall _ ih =>
    obtain ⟨hone, hrest⟩ := List.forall_mem_cons.1 hrespects
    exact ih (h.call hR hcall hone) hrest

omit hR in
/-- So what is in the buffers is all that their daemons may differ in. -/
lemma Lockstep.daemon_eq (h : session.Lockstep R other) :
    other.daemon = { session.daemon with buffer := other.daemon.buffer } := by
  obtain ⟨hregistry, hsettings, hnextId⟩ := h.daemon
  simp only [hregistry, hsettings, hnextId, h.stats]

omit hR in
/-- They report the same. -/
lemma Lockstep.outcomes_eq (h : session.Lockstep R other) : session.outcomes = other.outcomes :=
  filterMap_outcome?_eq h.handled

end Session

end Daemon

end FlightScript
