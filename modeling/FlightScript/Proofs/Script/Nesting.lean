import FlightScript.Proofs.Command.SingleUse
/-!
# Statements around a command change nothing

A script is a command with statements around it, and everything that is done to the script is done to
the command inside: it is read there, given another id or argument there, and run there.  So a script
lives exactly as its command would by itself, however many statements there are.

The two lives are compared by putting the statements around the one to get the other.  That is done at
three levels, and at each of them it goes together with the step: around an execution that has had a
turn (`Attempt.next_enclose`), around a command that has undergone an operation
(`Life.undergo_enclose`), and so around a whole life (`Life.through_enclose`).  What carries all three is
that a command put into the statements is the command found there (`command_withCommand`), and that the
next one put there takes its place (`withCommand_withCommand`).

When a script is released, the command is released first and then the statements, from the inside out.
-/

namespace FlightScript.Script

/-! ## The tree -/

@[simp] lemma withCommand_withCommand (tree : Script) (command command' : Command) :
    (tree.withCommand command).withCommand command' = tree.withCommand command' := by
  induction tree with
  | statement body ih => exact congrArg statement ih
  | invocation => rfl

@[simp] lemma withCommand_nest (depth : Nat) (command command' : Command) :
    (nest depth command).withCommand command' = nest depth command' := by
  induction depth with
  | zero => rfl
  | succ depth ih => exact congrArg statement ih

@[simp] lemma command_nest (depth : Nat) (command : Command) : (nest depth command).command = command := by
  induction depth with
  | zero => rfl
  | succ depth ih => exact ih

@[simp] lemma depth_nest (depth : Nat) (command : Command) : (nest depth command).depth = depth := by
  induction depth with
  | zero => rfl
  | succ depth ih => exact congrArg (· + 1) ih

/-- The command is released, and then one statement after another. -/
lemma releaseLines_nest (depth : Nat) (command : Command) :
    (nest depth command).releaseLines =
      command.releaseLine :: List.replicate depth (.trace "Statement destroyed") := by
  induction depth with
  | zero => rfl
  | succ depth ih => rw [nest, releaseLines, ih, List.replicate_succ', List.cons_append]

/-! ## Running a script, from its start to its end -/

/-- How far running a script has come, and which behaviours its turns have entered. -/
structure Attempt where
  progress : Progress Interpretation Interpreted
  craft : Spacecraft
  entered : List Context

namespace Attempt

/-- The attempt after one more turn, which began in `before`. -/
def ofTurn (before : Spacecraft) (entered : List Context)
    (turn : Progress Interpretation Interpreted × Spacecraft) : Attempt where
  progress := turn.1
  craft := turn.2
  entered := entered ++ before.enteredSince turn.2

/-- The next turn, after an interlude, if the script still waits. -/
def next (attempt : Attempt) (interlude : Interlude) : Attempt :=
  match attempt.progress with
  | .ready _ => attempt
  | .waiting run =>
    let craft := interlude attempt.craft
    ofTurn craft attempt.entered (run.resume craft)

/-- The script and the spacecraft when nobody waits for the run any more.  If the script still waits, the
run is given up; if it has taken its task down, its command stays as far as it has come. -/
def released (attempt : Attempt) (started : Script) : Script × Spacecraft :=
  match attempt.progress with
  | .ready (.returned script) => (script, attempt.craft)
  | .ready .crashed =>
    let command := started.command
    (started.withCommand (command.withStatus (command.status.process .started).2), attempt.craft)
  | .waiting run => run.drop attempt.craft

/-- An execution of the command with the tree around it. -/
def enclose (tree : Script) (bare : Command.Attempt) : Attempt where
  progress := (tree.around (bare.progress, bare.craft)).1
  craft := bare.craft
  entered := bare.entered

end Attempt

/-- The run of a script through what happens aboard while it waits. -/
def attempt (tree : Script) (allowed : Option Nat) (craft : Spacecraft)
    (interludes : List Interlude) : Attempt :=
  interludes.foldl Attempt.next (.ofTurn craft [] (tree.interpret allowed craft))

lemma snd_around (tree : Script) (turn : Progress Execution Executed × Spacecraft) :
    (tree.around turn).2 = turn.2 := by
  obtain ⟨(_ | _) | _, _⟩ := turn <;> rfl

namespace Attempt

lemma ofTurn_around (tree : Script) (before : Spacecraft) (entered : List Context)
    (turn : Progress Execution Executed × Spacecraft) :
    ofTurn before entered (tree.around turn) = enclose tree (.ofTurn before entered turn) := by
  simp only [ofTurn, enclose, Command.Attempt.ofTurn, snd_around]

/-- **One turn of the tree is one turn of its command.** -/
lemma next_enclose (tree : Script) (bare : Command.Attempt) (interlude : Interlude) :
    (enclose tree bare).next interlude = enclose tree (bare.next interlude) := by
  obtain ⟨progress, craft, entered⟩ := bare
  cases progress with
  | ready executed => cases executed <;> rfl
  | waiting execution => exact ofTurn_around tree (interlude craft) entered _

/-- The command that is left in the tree is the one that is left without it. -/
lemma released_enclose (tree : Script) (bare : Command.Attempt) :
    (enclose tree bare).released tree =
      (tree.withCommand (bare.command tree.command), bare.released) := by
  obtain ⟨progress, craft, entered⟩ := bare
  cases progress with
  | ready executed => cases executed <;> rfl
  | waiting execution => rfl

end Attempt

/-- So a whole run of the tree is a whole execution of its command. -/
lemma attempt_eq_enclose (tree : Script) (allowed : Option Nat) (craft : Spacecraft)
    (interludes : List Interlude) :
    tree.attempt allowed craft interludes =
      .enclose tree (tree.command.attempt allowed craft interludes) := by
  rw [attempt, interpret, Attempt.ofTurn_around]
  exact List.foldl_hom (Attempt.enclose tree) (Attempt.next_enclose tree)

/-! ## The life of a script -/

/-- A script and the spacecraft it is aboard, with the contexts that the behaviour of its command was
entered with. -/
structure Life where
  tree : Script
  craft : Spacecraft
  entered : List Context := []

namespace Life

/-- The life after one more operation, which reaches the command through the tree. -/
def undergo (life : Life) : Command.Operation → Life
  | .setId id => { life with tree := life.tree.withCommand (life.tree.command.withId id) }
  | .setArgument text => { life with tree := life.tree.withCommand (life.tree.command.withArgument text) }
  | .execute allowed interludes =>
    let attempt := life.tree.attempt allowed life.craft interludes
    let (tree, craft) := attempt.released life.tree
    { tree, craft, entered := life.entered ++ attempt.entered }
  | .meanwhile interlude => { life with craft := interlude life.craft }

def through (life : Life) (operations : List Command.Operation) : Life :=
  operations.foldl undergo life

/-- The life of a command with the tree around it. -/
def enclose (tree : Script) (bare : Command.Life) : Life where
  tree := tree.withCommand bare.command
  craft := bare.craft
  entered := bare.entered

/-- **What is done to the tree is done to its command.** -/
lemma undergo_enclose (tree : Script) (bare : Command.Life) (operation : Command.Operation) :
    (enclose tree bare).undergo operation = enclose tree (bare.undergo operation) := by
  cases operation with
  | setId id => simp [undergo, enclose, Command.Life.undergo]
  | setArgument text => simp [undergo, enclose, Command.Life.undergo]
  | execute allowed interludes =>
    have hattempt := attempt_eq_enclose (tree.withCommand bare.command) allowed bare.craft interludes
    simp only [undergo, enclose, hattempt, Attempt.released_enclose, command_withCommand,
      withCommand_withCommand]
    rfl
  | meanwhile interlude => rfl

lemma through_enclose (tree : Script) (bare : Command.Life) (operations : List Command.Operation) :
    (enclose tree bare).through operations = enclose tree (bare.through operations) :=
  List.foldl_hom (enclose tree) (undergo_enclose tree)

/-- With nothing but statements around it, a command and its script begin the same life. -/
lemma enclose_nest (depth : Nat) (bare : Command.Life) :
    enclose (nest depth bare.command) bare = ⟨nest depth bare.command, bare.craft, bare.entered⟩ := by
  rw [enclose, withCommand_nest]

end Life

/-- **Statements around a command change nothing.**  Let a command be put into any number of statements,
and let the tree be given other ids and arguments, and be run, with a time limit or without, any number of
times and with anything happening aboard meanwhile.  The command inside is at every moment what it would
be if all of that were done to it directly: after each operation, and after each turn of a run that still
waits or is given up.  The spacecraft is the same too, with its audit log and all that the behaviour has
done, and the behaviour was entered with the same contexts.  The tree keeps its statements, as many as
they were.  When it is released, the command is told first, with the id, the kind and the status that it
has come to, and then every statement. -/
theorem nesting_is_transparent (command : Command) (craft : Spacecraft) (depth : Nat)
    (operations : List Command.Operation) :
    let life := Life.through { tree := nest depth command, craft } operations
    let bare := Command.Life.through { command, craft } operations
    life.tree = nest depth bare.command ∧ life.tree.depth = depth ∧
    life.tree.command = bare.command ∧ life.craft = bare.craft ∧ life.entered = bare.entered ∧
    (∀ allowed interludes,
      let run := life.tree.attempt allowed life.craft interludes
      let execution := bare.command.attempt allowed bare.craft interludes
      run.craft = execution.craft ∧ run.entered = execution.entered ∧
        run.released life.tree =
          (nest depth (execution.command bare.command), execution.released)) ∧
    life.tree.releaseLines =
      .trace s!"Destroying command id={bare.command.id} type={bare.command.kind} ({bare.command.status.label})" ::
        List.replicate depth (.trace "Statement destroyed") := by
  intro life bare
  have hlife : life = ⟨nest depth bare.command, bare.craft, bare.entered⟩ := by
    have hthrough := Life.through_enclose (nest depth command) { command, craft } operations
    rw [Life.enclose_nest depth { command, craft }] at hthrough
    rw [show life = _ from hthrough, Life.enclose, withCommand_nest]
  rw [hlife]
  refine ⟨rfl, depth_nest _ _, command_nest _ _, rfl, rfl, ?_, releaseLines_nest _ _⟩
  intro allowed interludes run execution
  have hrun : run = .enclose (nest depth bare.command) execution := by
    rw [show run = _ from attempt_eq_enclose _ _ _ _, command_nest]
  rw [hrun]
  refine ⟨rfl, rfl, ?_⟩
  rw [Attempt.released_enclose, command_nest, withCommand_nest]

end FlightScript.Script
