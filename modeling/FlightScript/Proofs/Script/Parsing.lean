import FlightScript.Proofs.Script.Reading
/-!
# What parsing answers

`Script.parse` reads a statement, looks its command up and copies it, and only then looks at what
follows the semicolon.  This module settles both kinds of answer.

## A script that is accepted

`parse_eq_ok_iff_layout` is the whole of the accepting side: a script is accepted exactly if it is
made up by a layout whose name is registered and whose prototype gives a copy, and what comes of it
is one statement around that copy, with the argument that the layout says.

## A script that is refused

A script is *malformed* if it would be refused even with its command at hand, `Statement.ofScript`
being the verdict of the grammar on its own.  `parse_of_malformed` says when that verdict is what
the parser reports: for every registry and at no cost, unless the one thing that is wrong stands
behind the semicolon.  By then the command has been looked up, so a name that is not registered is
reported in place of the misplaced end, and a copy that was granted is gone
(`parse_text_behind_semicolon`).
-/

namespace FlightScript.Script

variable {text : Bytes} {registry : Registry} {allowances left : Allowances} {e : Error}

/-! ## The command of a statement -/

/-- The argument that a command runs with, of its own and of what a script gives it: an empty text
counts as none, and of a longer one the front is kept. -/
def argumentFor (second : Option Bytes) (own : Argument) : Argument :=
  match second with
  | none | some [] => own
  | some text => .ofBytes text

lemma copy?_eq_some_iff {prototype clone : Command} :
    prototype.copy? allowances = some (clone, left) ↔
      allowances.grant? prototype.behavior.copying = some left ∧
        clone = prototype.withStatus .pending := by
  simp only [Command.copy?, Option.map_eq_some_iff, Prod.mk.injEq]
  constructor
  · rintro ⟨_, hgrant, rfl, rfl⟩
    exact ⟨hgrant, rfl⟩
  · rintro ⟨hgrant, rfl⟩
    exact ⟨left, hgrant, rfl, rfl⟩

/-- The lookup, the copy and the argument in one equation. -/
lemma invoke_eq (asked : Statement) (registry : Registry) (allowances : Allowances) :
    invoke asked registry allowances =
      match registry.resolve asked.name with
      | none => .error (.unknownCommand asked.name)
      | some prototype =>
        match prototype.copy? allowances with
        | none => .error (.notCloneable asked.name)
        | some (clone, left) =>
          .ok ({ clone with argument := argumentFor asked.argument prototype.argument }, left) := by
  unfold invoke
  cases registry.resolve asked.name with
  | none => rfl
  | some prototype =>
    simp only
    cases hcopy : prototype.copy? allowances with
    | none => rfl
    | some copy =>
      obtain ⟨clone, left⟩ := copy
      obtain ⟨-, rfl⟩ := copy?_eq_some_iff.1 hcopy
      obtain ⟨name, argument⟩ := asked
      -- no second text, an empty one, and one that is neither
      obtain _ | _ | _ := argument <;> rfl

/-- A statement has a command exactly if its name is registered and the prototype gives a copy. -/
lemma invoke_eq_ok_iff {asked : Statement} {command : Command} :
    invoke asked registry allowances = .ok (command, left) ↔
      ∃ prototype clone, registry.resolve asked.name = some prototype ∧
        prototype.copy? allowances = some (clone, left) ∧
        command = { clone with argument := argumentFor asked.argument prototype.argument } := by
  rw [invoke_eq]
  constructor
  · intro h
    split at h
    · cases h
    · next prototype hresolve =>
      split at h
      · cases h
      · next clone left' hcopy =>
        obtain ⟨rfl, rfl⟩ := Prod.mk.inj (Except.ok.inj h)
        exact ⟨prototype, clone, hresolve, hcopy, rfl⟩
  · rintro ⟨prototype, clone, hresolve, hcopy, rfl⟩
    rw [hresolve]
    simp only [hcopy]

/-! ## Accepted scripts -/

lemma parse_eq_ok_iff {tree : Script} :
    parse text registry allowances = (.ok tree, left) ↔
      ∃ asked command, Statement.ofScript text = .ok asked ∧
        invoke asked registry allowances = .ok (command, left) ∧
          tree = .statement (.invocation command) := by
  constructor
  · intro h
    unfold parse at h
    split at h
    · cases h
    · next asked place hread =>
      split at h
      · cases h
      · next command left' hinvoke =>
        split at h
        · next hcloses =>
          obtain ⟨htree, rfl⟩ := Prod.mk.inj h
          exact ⟨asked, command, Statement.ofScript_eq_ok_iff_closes.2 ⟨place, hread, hcloses⟩,
            hinvoke, (Except.ok.inj htree).symm⟩
        · cases h
  · rintro ⟨asked, command, hform, hinvoke, rfl⟩
    obtain ⟨place, hread, hcloses⟩ := Statement.ofScript_eq_ok_iff_closes.1 hform
    unfold parse
    simp only [hread, hinvoke]
    rw [if_pos hcloses]

/-- The layout of an accepted script, and what its registry had for it. -/
lemma parse_eq_ok_iff_exists_layout {tree : Script} :
    parse text registry allowances = (.ok tree, left) ↔
      ∃ (layout : Layout) (prototype clone : Command), layout.octets = text ∧
        registry.resolve layout.name = some prototype ∧
        prototype.copy? allowances = some (clone, left) ∧
        tree = .statement (.invocation
          { clone with argument := argumentFor layout.second? prototype.argument }) := by
  rw [parse_eq_ok_iff]
  constructor
  · rintro ⟨asked, command, hform, hinvoke, rfl⟩
    obtain ⟨layout, hoctets, rfl⟩ := Statement.ofScript_eq_ok_iff.1 hform
    obtain ⟨prototype, clone, hresolve, hcopy, rfl⟩ := invoke_eq_ok_iff.1 hinvoke
    exact ⟨layout, prototype, clone, hoctets, hresolve, hcopy, rfl⟩
  · rintro ⟨layout, prototype, clone, hoctets, hresolve, hcopy, rfl⟩
    have hform : Statement.ofScript text = .ok layout.call.statement :=
      Statement.ofScript_eq_ok_iff.2 ⟨layout, hoctets, rfl⟩
    exact ⟨layout.call.statement, _, hform,
      invoke_eq_ok_iff.2 ⟨prototype, clone, hresolve, hcopy, rfl⟩, rfl⟩

/-- The errors that the octets up to the semicolon can earn. -/
def Error.InStatement (e : Error) : Prop :=
  e.isGrammatical = true ∧ e ≠ .expectedEnd

namespace Cursor

variable {cursor after : Cursor} {mark : UInt8}

lemma inStatement_of_keyword (h : cursor.keyword = (.error e, after)) : e.InStatement := by
  unfold keyword at h
  simp only at h
  split at h
  · cases h
  · split at h
    · cases h
    · cases h
      exact ⟨rfl, nofun⟩

lemma inStatement_of_expect (h : cursor.expect mark = (.error e, after)) : e.InStatement := by
  unfold expect at h
  simp only at h
  split at h
  · cases h
    exact ⟨rfl, nofun⟩
  · split at h
    · cases h
    · cases h
      exact ⟨rfl, nofun⟩

lemma inStatement_of_quoted (h : cursor.quoted = (.error e, after)) : e.InStatement := by
  unfold quoted at h
  split at h
  · next hexpect =>
    cases h
    exact inStatement_of_expect hexpect
  · simp only at h
    split at h
    · cases h
      exact ⟨rfl, nofun⟩
    · cases h

end Cursor

namespace Statement

variable {cursor : Cursor}

lemma bind_eq_error_iff {α β : Type} {first : Except Error α} {next : α → Except Error β} :
    first >>= next = .error e ↔ first = .error e ∨ ∃ a, first = .ok a ∧ next a = .error e := by
  cases first with
  | error e' => simp [bind, Except.bind]
  | ok a => simp [bind, Except.bind]

lemma required_eq_error_iff {α : Type} {token : Except Error α × Cursor} :
    required token = .error e ↔ ∃ after, token = (.error e, after) := by
  obtain ⟨result, place⟩ := token
  cases result with
  | error e' => simp [required]
  | ok a => simp [required]

lemma inStatement_of_readArgument (h : readArgument cursor = .error e) : e.InStatement := by
  unfold readArgument at h
  split at h
  · cases h
  · split at h
    · next hquoted =>
      cases h
      exact Cursor.inStatement_of_quoted hquoted
    · cases h

lemma inStatement_of_readInvocation (h : readInvocation cursor = .error e) : e.InStatement := by
  unfold readInvocation at h
  obtain h | ⟨_, -, h⟩ := bind_eq_error_iff.1 h
  · obtain ⟨_, h⟩ := required_eq_error_iff.1 h
    exact Cursor.inStatement_of_expect h
  obtain h | ⟨_, -, h⟩ := bind_eq_error_iff.1 h
  · obtain ⟨_, h⟩ := required_eq_error_iff.1 h
    exact Cursor.inStatement_of_quoted h
  obtain h | ⟨_, -, h⟩ := bind_eq_error_iff.1 h
  · exact inStatement_of_readArgument h
  obtain h | ⟨_, -, h⟩ := bind_eq_error_iff.1 h
  · obtain ⟨_, h⟩ := required_eq_error_iff.1 h
    exact Cursor.inStatement_of_expect h
  obtain h | ⟨_, -, h⟩ := bind_eq_error_iff.1 h
  · obtain ⟨_, h⟩ := required_eq_error_iff.1 h
    exact Cursor.inStatement_of_expect h
  · cases h

/-- What keeps a statement from being read stands in front of its semicolon. -/
lemma inStatement_of_read (h : read text = .error e) : e.InStatement := by
  unfold read at h
  split at h
  · cases h
    exact ⟨rfl, nofun⟩
  · split at h
    · next hkeyword =>
      cases h
      exact Cursor.inStatement_of_keyword hkeyword
    · cases h
      exact ⟨rfl, nofun⟩
    · exact inStatement_of_readInvocation h

/-- A script is malformed in its statement, or only behind it. -/
lemma ofScript_eq_error_iff :
    ofScript text = .error e ↔
      (read text = .error e ∧ e.InStatement) ∨
        e = .expectedEnd ∧ ∃ asked after, read text = .ok (asked, after) ∧ closes after = false := by
  unfold ofScript
  cases hread : read text with
  | error e' =>
    simp only [Except.error.injEq, reduceCtorEq, false_and, exists_false, and_false, or_false]
    constructor
    · rintro rfl
      exact ⟨rfl, inStatement_of_read hread⟩
    · exact fun h => h.1
  | ok found =>
    obtain ⟨asked, after⟩ := found
    simp only [reduceCtorEq, false_and, false_or]
    constructor
    · intro h
      split at h
      · cases h
      · next hcloses =>
        exact ⟨(Except.error.inj h).symm, asked, after, rfl, by simpa using hcloses⟩
    · rintro ⟨rfl, _, _, ⟨rfl⟩, hcloses⟩
      simp [hcloses]

end Statement

lemma parse_of_read_error (h : Statement.read text = .error e) (registry : Registry)
    (allowances : Allowances) : parse text registry allowances = (.error e, allowances) := by
  unfold parse
  rw [h]

/-- With something behind its semicolon that does not end it, a script is refused as its name is: for
the name if it has no command, and otherwise for its end, after the copy was taken. -/
lemma parse_of_not_closes {asked : Statement} {after : Cursor}
    (hread : Statement.read text = .ok (asked, after)) (hcloses : Statement.closes after = false)
    (registry : Registry) (allowances : Allowances) :
    parse text registry allowances =
      match registry.resolve asked.name with
      | none => (.error (.unknownCommand asked.name), allowances)
      | some prototype =>
        match prototype.copy? allowances with
        | none => (.error (.notCloneable asked.name), allowances)
        | some (_, left) => (.error .expectedEnd, left) := by
  unfold parse
  simp only [hread, invoke_eq]
  cases registry.resolve asked.name with
  | none => rfl
  | some prototype =>
    simp only
    cases prototype.copy? allowances with
    | none => rfl
    | some copy => simp [hcloses]

/-- The command that a script names is registered and gives a copy. -/
def Available (text : Bytes) (registry : Registry) (allowances : Allowances) : Prop :=
  ∀ asked after, Statement.read text = .ok (asked, after) →
    ∃ prototype clone left, registry.resolve asked.name = some prototype ∧
      prototype.copy? allowances = some (clone, left)

/-- **When a malformed script is refused for its form.**  The verdict of the grammar is what a parser
reports that has the command at hand.  It is reported whatever is registered, and with every copy
left, exactly if what is wrong is not merely the end of the script.  If it is, the name is looked up
first: an unknown name and a prototype without copies are reported in place of it, and a copy that is
given is lost. -/
theorem parse_of_malformed (hmalformed : Statement.ofScript text = .error e) :
    e.isGrammatical = true ∧
    (∀ registry allowances, Available text registry allowances →
      (parse text registry allowances).1 = .error e) ∧
    ((∀ registry allowances, parse text registry allowances = (.error e, allowances)) ↔
      e ≠ .expectedEnd) ∧
    (e = .expectedEnd → ∃ asked after, Statement.read text = .ok (asked, after) ∧
      ∀ registry allowances, parse text registry allowances =
        match registry.resolve asked.name with
        | none => (.error (.unknownCommand asked.name), allowances)
        | some prototype =>
          match prototype.copy? allowances with
          | none => (.error (.notCloneable asked.name), allowances)
          | some (_, left) => (.error .expectedEnd, left)) := by
  obtain ⟨hread, hinside⟩ | ⟨rfl, asked, after, hread, hcloses⟩ :=
    Statement.ofScript_eq_error_iff.1 hmalformed
  · have hparse := parse_of_read_error hread
    refine ⟨hinside.1, fun registry allowances _ => by rw [hparse], ?_,
      fun hend => absurd hend hinside.2⟩
    exact ⟨fun _ => hinside.2, fun _ => hparse⟩
  · have hparse := parse_of_not_closes hread hcloses
    refine ⟨rfl, ?_, ?_, fun _ => ⟨asked, after, hread, hparse⟩⟩
    · intro registry allowances havailable
      obtain ⟨prototype, clone, left, hresolve, hcopy⟩ := havailable asked after hread
      rw [hparse, hresolve]
      simp only [hcopy]
    · -- with nothing registered, the name is what is reported
      refine ⟨fun hall => ?_, fun hend => absurd rfl hend⟩
      have hempty := hall .empty {}
      rw [hparse, Registry.resolve_empty] at hempty
      cases hempty

/-- A script without its semicolon is refused for that, whatever is registered. -/
theorem parse_without_semicolon :
    Statement.ofScript (Bytes.ofString "INVOKE(\"nope\",\"x\")") =
        .error (.unexpectedEnd Statement.semicolon) ∧
      ∀ registry allowances, parse (Bytes.ofString "INVOKE(\"nope\",\"x\")") registry allowances =
        (.error (.unexpectedEnd Statement.semicolon), allowances) := by
  have hmalformed : Statement.ofScript (Bytes.ofString "INVOKE(\"nope\",\"x\")") =
      .error (.unexpectedEnd Statement.semicolon) := rfl
  exact ⟨hmalformed, (parse_of_malformed hmalformed).2.2.1.2 (by decide)⟩

/-- A malformed script that is not refused for its form: its name is reported where the name is
unknown, and the only copy of its command is used up where it is not. -/
theorem parse_text_behind_semicolon :
    Statement.ofScript (Bytes.ofString "INVOKE(\"nope\"); x") = .error .expectedEnd ∧
      parse (Bytes.ofString "INVOKE(\"nope\"); x") .empty {} =
        (.error (.unknownCommand (Bytes.ofString "nope")), {}) ∧
      parse (Bytes.ofString "INVOKE(\"nope\"); x")
          { prototypes := [(Bytes.ofString "nope",
              { kind := 1, behavior := { start := fun _ => .never, copying := .rationed 0 } })] }
          { remaining := [1] } =
        (.error .expectedEnd, { remaining := [0] }) := by
  exact ⟨rfl, rfl, rfl⟩

end FlightScript.Script
