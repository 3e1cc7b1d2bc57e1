import FlightScript.Proofs.Daemon.Handling
/-!
# What one script does

Between the octets that arrive and the behaviour that runs stand a buffer that cuts, a grammar, a
lookup by the front of a name, a copy, an argument that is cut and may be left to the prototype, a
number and a deadline.  `handling_exact` says what comes out at the other end, for every daemon and
every script: nothing, a refusal without any behaviour, or exactly one behaviour that is entered with
exactly one context, and is reported by its number, its kind and the status it comes to.

Each of the three has a lemma on the first turn of the handling: `handleScript_of_nil`,
`handleScript_of_error` and `handleScript_of_ok`.  Only the third goes on after that turn, and from
there on it follows the behaviour (`Follows`).
-/

namespace FlightScript

/-- The spacecraft in which a behaviour is entered: the journal says so, and so does the audit log
unless the kind is kept out of it. -/
def Spacecraft.atEntry (craft : Spacecraft) (context : Context) : Spacecraft :=
  (if context.kind = Command.unauditedKind then craft
    else craft.recordStatus context.kind .executing).enter (.entered context)

lemma Spacecraft.enters_atEntry (craft : Spacecraft) (context : Context) :
    craft.Enters (craft.atEntry context) [context] := by
  have hquiet : craft.Enters
      (if context.kind = Command.unauditedKind then craft
        else craft.recordStatus context.kind .executing) [] := by
    refine Spacecraft.enters_nil_of_journal ?_
    split <;> rfl
  exact hquiet.trans (Spacecraft.enters_enter _ context)

/-- Entered there, a behaviour has been entered once when its first turn is over. -/
lemma Spacecraft.enters_run_atEntry (craft : Spacecraft) (context : Context) (activity : Activity) :
    craft.Enters (activity.run (craft.atEntry context)).2 [context] :=
  (craft.enters_atEntry context).trans (activity.enters_run (craft.atEntry context))

/-- The time that is allowed is over so long after the start. -/
lemma Deadline.map_expiry (allowed : Option Nat) (start : Nat) :
    (allowed.map fun allowed => (⟨allowed, start + allowed⟩ : Deadline)).map (·.expiry) =
      allowed.map (start + ·) := by
  simp [Function.comp_def]

namespace Daemon

variable {daemon : Daemon} {script : Bytes} {craft : Spacecraft} {left : Allowances}

/-! ## The first turn -/

lemma ReceiveBuffer.received_eq_zero_iff {packet : Bytes} :
    received packet = 0 ↔ packet.take Limits.scriptLength = [] := by
  rw [← List.length_eq_zero_iff, List.length_take, received, Nat.min_comm]

/-- A received script is read up to the size of the buffer, and nothing that was in it before. -/
lemma handleScript_eq (daemon : Daemon) (script : Bytes) (craft : Spacecraft)
    (h : script.take Limits.scriptLength ≠ []) :
    daemon.handleScript script craft =
      match Script.parse (script.take Limits.scriptLength) daemon.registry craft.allowances with
      | (.error e, left) =>
        (.ready (.done (.dropped e)),
          { daemon with
            buffer := daemon.buffer.receive script
            stats :=
              { daemon.stats with
                received := daemon.stats.received + 1, dropped := daemon.stats.dropped + 1 } },
          { craft with allowances := left }.say (.debug s!"Dropping script: {e.message}"))
      | (.ok tree, left) =>
        let tree := tree.withCommand (tree.command.withId daemon.nextId)
        { daemon with
          buffer := daemon.buffer.receive script
          stats := { daemon.stats with received := daemon.stats.received + 1 }
          nextId := daemon.nextId + 1 }.settle
            (tree.interpret daemon.settings.deadline { craft with allowances := left }) := by
  rw [← ReceiveBuffer.take_receive daemon.buffer script]
  exact if_neg (mt ReceiveBuffer.received_eq_zero_iff.1 h)

lemma handleScript_of_nil (h : script.take Limits.scriptLength = []) :
    daemon.handleScript script craft =
      (.ready (.done .empty), { daemon with buffer := daemon.buffer.receive script }, craft) := by
  unfold handleScript handle
  rw [if_pos (ReceiveBuffer.received_eq_zero_iff.2 h)]

/-- A script that is refused enters nothing. -/
lemma handleScript_of_error {e : Script.Error} (hne : script.take Limits.scriptLength ≠ [])
    (h : Script.parse (script.take Limits.scriptLength) daemon.registry craft.allowances =
      (.error e, left)) :
    (daemon.handleScript script craft).1 = .ready (.done (.dropped e)) ∧
      craft.Enters (daemon.handleScript script craft).2.2 [] := by
  rw [handleScript_eq daemon script craft hne, h]
  exact ⟨rfl, Spacecraft.enters_nil_of_journal rfl⟩

/-- The command of a script on its way, with the books kept so far. -/
def started (daemon : Daemon) (script : Bytes) (craft : Spacecraft) (command : Command) :
    Started where
  daemon :=
    { daemon with
      buffer := daemon.buffer.receive script
      stats := { daemon.stats with received := daemon.stats.received + 1 }
      nextId := daemon.nextId + 1 }
  script := .statement (.invocation (command.withId daemon.nextId))
  command := (command.withId daemon.nextId).withStatus .executing
  deadline := daemon.settings.deadline.map fun allowed => ⟨allowed, craft.now + allowed⟩
  executing := rfl

@[simp] lemma expiry_started (daemon : Daemon) (script : Bytes) (craft : Spacecraft)
    (command : Command) :
    (daemon.started script craft command).expiry = daemon.settings.deadline.map (craft.now + ·) :=
  Deadline.map_expiry ..

/-- A pending command is entered under its context, with its start on record. -/
lemma execute_of_pending (command : Command) (hpending : command.status = .pending)
    (allowed : Option Nat) (craft : Spacecraft) :
    command.execute allowed craft =
      Execution.settle (command.withStatus .executing)
        (allowed.map fun allowed => ⟨allowed, craft.now + allowed⟩)
        ((command.behavior.start command.context).run (craft.atEntry command.context)) := by
  have hentry : ((command.withStatus .executing).recordStatus craft).enter
      (.entered command.context) = craft.atEntry command.context := by
    unfold Command.recordStatus Spacecraft.atEntry Command.isAudited
    by_cases hkind : command.kind = Command.unauditedKind <;>
      simp [hkind, Command.withStatus, Command.context]
  have hnow : (craft.atEntry command.context).now = craft.now := by
    unfold Spacecraft.atEntry
    split <;> rfl
  have hnext : command.status.next? .started = some .executing := by
    rw [hpending]
    rfl
  unfold Command.execute
  simp only [hnext]
  rw [show (command.withStatus .executing).context = command.context from rfl,
    show (command.withStatus .executing).behavior = command.behavior from rfl, hentry, hnow]

/-- A script that is accepted has its command entered at once. -/
lemma handleScript_of_ok {command : Command}
    (h : Script.parse (script.take Limits.scriptLength) daemon.registry craft.allowances =
      (.ok (.statement (.invocation command)), left)) (hpending : command.status = .pending) :
    daemon.handleScript script craft =
      (daemon.started script craft command).frame
        ((command.behavior.start (command.withId daemon.nextId).context).run
          ({ craft with allowances := left }.atEntry (command.withId daemon.nextId).context)) := by
  have hne : script.take Limits.scriptLength ≠ [] := by
    intro hnil
    rw [hnil] at h
    cases h
  rw [handleScript_eq daemon script craft hne, h]
  simp only [Script.interpret, Script.withCommand, Script.command]
  rw [execute_of_pending (command.withId daemon.nextId) hpending]
  rfl

/-- From its first turn on, the handling of an accepted script follows the behaviour of its command. -/
lemma follows_of_ok {command : Command}
    (h : Script.parse (script.take Limits.scriptLength) daemon.registry craft.allowances =
      (.ok (.statement (.invocation command)), left)) (hpending : command.status = .pending)
    (interludes : List Interlude) :
    Follows (daemon.started script craft command) (command.withId daemon.nextId).context
      (daemon.handling script craft interludes)
      ((command.behavior.start (command.withId daemon.nextId).context).course
        (daemon.settings.deadline.map (craft.now + ·))
        ({ craft with allowances := left }.atEntry (command.withId daemon.nextId).context)
        interludes) := by
  rw [handling, handleScript_of_ok h hpending, ← expiry_started daemon script craft command]
  refine Follows.foldl ⟨rfl, ?_⟩ interludes
  have hrun := Spacecraft.enters_run_atEntry { craft with allowances := left }
    (command.withId daemon.nextId).context
    (command.behavior.start (command.withId daemon.nextId).context)
  exact (Started.enters_frame _ hrun).enteredSince_eq

/-! ## The whole handling -/

/-- What is registered under a name is registered under the front of it. -/
lemma mem_of_resolve {registry : Registry} {name : Bytes} {prototype : Command}
    (h : registry.resolve name = some prototype) :
    (name.take Limits.keyLength, prototype) ∈ registry.prototypes := by
  obtain ⟨front, back, hprototypes, -⟩ := List.lookup_eq_some_iff.1 h
  rw [hprototypes]
  simp [Registry.key]

/-- A script that is done with at once has no further turn. -/
lemma handling_of_ready {after : Daemon} {craft' : Spacecraft} {handled : Handled}
    (hturn : daemon.handleScript script craft = (.ready handled, after, craft'))
    (henters : craft.Enters craft' []) (interludes : List Interlude) :
    daemon.handling script craft interludes = ⟨.ready handled, after, craft', []⟩ := by
  have hfirst : Handling.ofTurn craft [] (daemon.handleScript script craft) =
      ⟨.ready handled, after, craft', []⟩ := by
    rw [hturn, Handling.ofTurn, henters.enteredSince_eq]
    rfl
  rw [handling, hfirst]
  exact Handling.foldl_next_of_ready rfl interludes

lemma handling_of_nil (h : script.take Limits.scriptLength = []) (interludes : List Interlude) :
    (daemon.handling script craft interludes).outcome? = some .empty ∧
      (daemon.handling script craft interludes).entered = [] := by
  have hturn : daemon.handleScript script craft = _ := handleScript_of_nil h
  rw [handling_of_ready hturn (Spacecraft.enters_nil_of_journal rfl) interludes]
  exact ⟨rfl, rfl⟩

lemma handling_of_error {e : Script.Error} (hne : script.take Limits.scriptLength ≠ [])
    (h : Script.parse (script.take Limits.scriptLength) daemon.registry craft.allowances =
      (.error e, left)) (interludes : List Interlude) :
    (daemon.handling script craft interludes).outcome? = some (.dropped e) ∧
      (daemon.handling script craft interludes).entered = [] := by
  obtain ⟨hturn, henters⟩ := handleScript_of_error hne h
  rw [handling_of_ready (Prod.ext hturn rfl) henters interludes]
  exact ⟨rfl, rfl⟩

/-- Any outcome of an accepted script is the verdict on its behaviour. -/
lemma handling_of_ok {command : Command}
    (h : Script.parse (script.take Limits.scriptLength) daemon.registry craft.allowances =
      (.ok (.statement (.invocation command)), left)) (hpending : command.status = .pending)
    (interludes : List Interlude) :
    let context := (command.withId daemon.nextId).context
    (daemon.handling script craft interludes).entered = [context] ∧
      (daemon.handling script craft interludes).outcome? =
        (((command.behavior.start context).course (daemon.settings.deadline.map (craft.now + ·))
          ({ craft with allowances := left }.atEntry context) interludes).verdict?
            (daemon.settings.deadline.map (craft.now + ·))).map
              (.executed context.id context.kind) := by
  intro context
  have hfollows := follows_of_ok h hpending interludes
  refine ⟨hfollows.2, ?_⟩
  rw [hfollows.outcome?_eq, expiry_started]
  rfl

end Daemon

end FlightScript
