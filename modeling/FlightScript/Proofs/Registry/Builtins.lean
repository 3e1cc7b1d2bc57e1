import FlightScript.Proofs.Registry.History
/-!
# Registering the built-in commands

The built-in commands are registered when the software starts, and nothing keeps anybody from
registering them once more, or from taking one of their names first.  Both do no harm, for two reasons.
The first prototype of a name stays; and the built-in prototypes give copies without end, so the copy
that is asked of them when they are offered is never refused and is drawn on no ration.

So what becomes of such offers can be read off the registry that they meet: they fill the names that
are free (`vacant`), in order, and nothing else happens (`Fills`).  A second time no name is free.
Another registration does not change which of their names are free, unless it is for one of them, and so
it may come before or behind.  What the build makes of its sums has no part in any of this.

## The same registry

In which order prototypes were registered is not to be seen: a name is looked up by its key, no key
occurs twice, and the names are told sorted (`resolve_of_perm`, `names_of_perm`).  Two registries are the
same if their entries are, in any order.
-/

namespace FlightScript

/-- A prototype that gives copies without end. -/
def Command.IsUnrationed (prototype : Command) : Prop :=
  prototype.behavior.copying = .always

lemma Command.IsUnrationed.copy?_eq {prototype : Command} (h : prototype.IsUnrationed)
    (allowances : Allowances) :
    prototype.copy? allowances = some (prototype.withStatus .pending, allowances) := by
  simp [copy?, show prototype.behavior.copying = .always from h, Allowances.grant?]

namespace Registry

variable {registry registry' : Registry} {name : Bytes} {prototype : Command} {craft : Spacecraft}
  {offers : List (Bytes × Command)} {offer : Bytes × Command}

/-! ## The order of the entries -/

lemma eq_of_prototypes (h : registry.prototypes = registry'.prototypes) : registry = registry' := by
  cases registry
  cases registry'
  congr

/-- Where no key occurs twice, what is found under a key is what is entered under it. -/
lemma lookup_eq_some_iff {prototypes : List (Bytes × Command)} {k : Bytes}
    (hnodup : (prototypes.map Prod.fst).Nodup) :
    prototypes.lookup k = some prototype ↔ (k, prototype) ∈ prototypes := by
  induction prototypes with
  | nil => simp
  | cons entry entries ih =>
    obtain ⟨k', prototype'⟩ := entry
    rw [List.map_cons, List.nodup_cons] at hnodup
    rw [List.mem_cons, ← ih hnodup.2]
    by_cases hk : k = k'
    · subst hk
      have hnone : entries.lookup k = none := lookup_eq_none_iff.2 hnodup.1
      simp [hnone, eq_comm]
    · simp [List.lookup_cons, hk, beq_eq_false_iff_ne.2 hk]

lemma resolve_of_perm (h : registry.prototypes.Perm registry'.prototypes) (name : Bytes) :
    registry.resolve name = registry'.resolve name := by
  apply Option.ext
  intro prototype
  rw [resolve, resolve, lookup_eq_some_iff registry.keys_nodup,
    lookup_eq_some_iff registry'.keys_nodup, h.mem_iff]

lemma names_of_perm (h : registry.prototypes.Perm registry'.prototypes) :
    registry.names = registry'.names := by
  have hperm : registry.names.Perm registry'.names :=
    (List.mergeSort_perm _ _).trans ((h.map _).trans (List.mergeSort_perm _ _).symm)
  exact hperm.eq_of_pairwise (fun _ _ _ _ => le_antisymm) (pairwise_names registry)
    (pairwise_names registry')

/-! ## Offers that give copies without end -/

namespace Enlists

variable {result : Bool × Registry × Spacecraft}

lemma prototypes_eq (h : Enlists registry name prototype craft result) :
    result.2.1.prototypes =
      registry.prototypes ++ if result.1 then [(key name, prototype)] else [] := by
  cases h with
  | taken => simp
  | notCloneable => simp
  | accepted => simp [add]

/-- A registration changes nothing under the names that it is not for. -/
lemma resolve_of_ne (h : Enlists registry name prototype craft result) {other : Bytes}
    (hkey : key name ≠ key other) : result.2.1.resolve other = registry.resolve other := by
  rw [h.resolve_eq, if_neg (fun hboth => hkey hboth.1), Option.or_none]

/-- A prototype that gives copies without end is accepted exactly if its name is free. -/
lemma fst_of_isUnrationed (h : Enlists registry name prototype craft result)
    (hcopies : prototype.IsUnrationed) : result.1 = (registry.resolve name).isNone := by
  have haccepted := h.accepted_iff
  rw [hcopies.copy?_eq] at haccepted
  rw [Bool.eq_iff_iff, haccepted]
  simp

/-- It uses up no copy, accepted or not. -/
lemma allowances_of_isUnrationed (h : Enlists registry name prototype craft result)
    (hcopies : prototype.IsUnrationed) : result.2.2.allowances = craft.allowances := by
  cases h with
  | taken => rfl
  | notCloneable => rfl
  | accepted _ copy left hcopy =>
    rw [hcopies.copy?_eq] at hcopy
    exact (Prod.mk.inj (Option.some.inj hcopy)).2.symm

end Enlists

/-- The offers for names that nothing is registered under. -/
def vacant (registry : Registry) (offers : List (Bytes × Command)) : List (Bytes × Command) :=
  offers.filter fun offer => (registry.resolve offer.1).isNone

lemma vacant_congr (h : ∀ offer ∈ offers, registry.resolve offer.1 = registry'.resolve offer.1) :
    registry.vacant offers = registry'.vacant offers := by
  refine List.filter_congr fun offer hoffer => ?_
  rw [h offer hoffer]

lemma vacant_eq_nil_iff :
    registry.vacant offers = [] ↔ ∀ offer ∈ offers, (registry.resolve offer.1).isSome := by
  simp [vacant, Option.isSome_iff_ne_none]

/-- Offers fill the names that are free.  They leave all else as it was, and use up no copy. -/
structure Fills (registry : Registry) (offers : List (Bytes × Command)) (craft : Spacecraft)
    (result : Nat × Registry × Spacecraft) : Prop where
  count : result.1 = (registry.vacant offers).length
  prototypes : result.2.1.prototypes =
    registry.prototypes ++ (registry.vacant offers).map fun offer => (key offer.1, offer.2)
  allowances : result.2.2.allowances = craft.allowances

/-- **Offers that give copies without end fill the names that are free**, if no two of them are for one
name. -/
lemma fills_enlistAll (hdistinct : (offers.map fun offer => key offer.1).Nodup)
    (hcopies : ∀ offer ∈ offers, offer.2.IsUnrationed) (registry : Registry) (craft : Spacecraft) :
    Fills registry offers craft (enlistAll offers registry craft) := by
  induction offers generalizing registry craft with
  | nil => exact ⟨rfl, (List.append_nil _).symm, rfl⟩
  | cons offer offers ih =>
    obtain ⟨name, prototype⟩ := offer
    rw [List.map_cons, List.nodup_cons] at hdistinct
    obtain ⟨hfirst, hothers⟩ := List.forall_mem_cons.1 hcopies
    let first := registry.enlist name prototype craft
    have henlists : Enlists registry name prototype craft first := enlists_enlist ..
    -- the names of the offers behind it are as free as they were
    have hvacant : first.2.1.vacant offers = registry.vacant offers := by
      refine vacant_congr fun other hother => henlists.resolve_of_ne ?_
      intro hsame
      exact hdistinct.1 (List.mem_map.2 ⟨other, hother, hsame.symm⟩)
    obtain ⟨hcount, hprototypes, hallowances⟩ := ih hdistinct.2 hothers first.2.1 first.2.2
    have hstep : enlistAll ((name, prototype) :: offers) registry craft =
        (if first.1 then (enlistAll offers first.2.1 first.2.2).1 + 1
          else (enlistAll offers first.2.1 first.2.2).1,
          (enlistAll offers first.2.1 first.2.2).2) := rfl
    have hanswer := henlists.fst_of_isUnrationed hfirst
    rw [hvacant] at hcount hprototypes
    rw [henlists.prototypes_eq] at hprototypes
    rw [hstep]
    refine ⟨?_, ?_, hallowances.trans (henlists.allowances_of_isUnrationed hfirst)⟩
    · rw [hcount, hanswer, vacant, vacant, List.filter_cons]
      split <;> rfl
    · rw [hprototypes, hanswer, vacant, vacant, List.filter_cons]
      split <;> simp

namespace Fills

variable {result : Nat × Registry × Spacecraft}

lemma size_eq (h : Fills registry offers craft result) :
    result.2.1.size = registry.size + result.1 := by
  rw [size, h.prototypes, List.length_append, List.length_map, h.count]
  rfl

/-- What is registered under a name stays. -/
lemma resolve_of_some (h : Fills registry offers craft result)
    (hholder : registry.resolve name = some prototype) :
    result.2.1.resolve name = some prototype := by
  unfold resolve at hholder ⊢
  rw [h.prototypes, List.lookup_append, hholder, Option.some_or]

/-- A name that was free has what was offered for it. -/
lemma resolve_of_mem (h : Fills registry offers craft result) (hoffer : offer ∈ offers)
    (hfree : registry.resolve offer.1 = none) :
    result.2.1.resolve offer.1 = some offer.2 := by
  have hvacant : offer ∈ registry.vacant offers := by
    simp [vacant, hoffer, hfree]
  rw [resolve, lookup_eq_some_iff result.2.1.keys_nodup, h.prototypes, List.mem_append]
  exact .inr (List.mem_map.2 ⟨offer, hvacant, rfl⟩)

lemma resolve_of_not_mem (h : Fills registry offers craft result)
    (hother : key name ∉ offers.map fun offer => key offer.1) :
    result.2.1.resolve name = registry.resolve name := by
  have hnone : ((registry.vacant offers).map fun offer => (key offer.1, offer.2)).lookup (key name) =
      none := by
    rw [lookup_eq_none_iff, List.map_map]
    intro hmem
    obtain ⟨offer, hoffer, hkey⟩ := List.mem_map.1 hmem
    exact hother (List.mem_map.2 ⟨offer, (List.mem_filter.1 hoffer).1, hkey⟩)
  unfold resolve
  rw [h.prototypes, List.lookup_append, hnone, Option.or_none]

/-- Where all the names are taken, nothing happens. -/
lemma of_taken (h : Fills registry offers craft result)
    (htaken : ∀ offer ∈ offers, (registry.resolve offer.1).isSome) :
    result.1 = 0 ∧ result.2.1 = registry := by
  have hvacant := vacant_eq_nil_iff.2 htaken
  refine ⟨?_, eq_of_prototypes ?_⟩
  · rw [h.count, hvacant, List.length_nil]
  · rw [h.prototypes, hvacant, List.map_nil, List.append_nil]

end Fills

/-! ## The built-in commands -/

/-- The names of the built-in commands. -/
def builtinNames : List Bytes :=
  ["count", "echo", "status"].map Bytes.ofString

variable {arithmetic : Arithmetic}

/-- They are short, so each is its own key. -/
lemma map_key_prototypes (arithmetic : Arithmetic) :
    ((Builtin.prototypes arithmetic).map fun offer => key offer.1) = builtinNames := by
  cases arithmetic <;> decide

lemma fills_enlistBuiltins (registry : Registry) (craft : Spacecraft) (arithmetic : Arithmetic) :
    Fills registry (Builtin.prototypes arithmetic) craft (registry.enlistBuiltins craft arithmetic) := by
  have hdistinct : ((Builtin.prototypes arithmetic).map fun offer => key offer.1).Nodup := by
    rw [map_key_prototypes]
    decide
  have hcopies : ∀ offer ∈ Builtin.prototypes arithmetic, offer.2.IsUnrationed := by
    simp [Builtin.prototypes, Command.IsUnrationed, Builtin.count, Builtin.echo, Builtin.status]
  have hfills := fills_enlistAll hdistinct hcopies registry craft
  exact ⟨hfills.count, hfills.prototypes, hfills.allowances⟩

lemma exists_builtin (h : name ∈ builtinNames) (arithmetic : Arithmetic) :
    ∃ builtin, (name, builtin) ∈ Builtin.prototypes arithmetic := by
  have hnames : (Builtin.prototypes arithmetic).map Prod.fst = builtinNames := rfl
  rw [← hnames] at h
  obtain ⟨⟨_, builtin⟩, hmem, rfl⟩ := List.mem_map.1 h
  exact ⟨builtin, hmem⟩

/-- Behind the registration of the built-in commands each of their names is taken, by what had it before
if anything had. -/
lemma resolve_enlistBuiltins {builtin : Command} (h : (name, builtin) ∈ Builtin.prototypes arithmetic)
    (registry : Registry) (craft : Spacecraft) :
    (registry.enlistBuiltins craft arithmetic).2.1.resolve name =
      some ((registry.resolve name).getD builtin) := by
  have hfills := fills_enlistBuiltins registry craft arithmetic
  cases hholder : registry.resolve name with
  | none => exact hfills.resolve_of_mem h hholder
  | some holder => exact hfills.resolve_of_some hholder

/-- **Once they are registered, they may be registered again at any time**: nothing happens. -/
lemma enlistBuiltins_again (offers : List (Bytes × Command)) (registry : Registry)
    (craft between again : Spacecraft) (arithmetic : Arithmetic) :
    let later := (enlistAll offers (registry.enlistBuiltins craft arithmetic).2.1 between).2.1
    (later.enlistBuiltins again arithmetic).1 = 0 ∧
      (later.enlistBuiltins again arithmetic).2.1 = later := by
  intro later
  refine (fills_enlistBuiltins later again arithmetic).of_taken fun ⟨name, builtin⟩ hbuiltin => ?_
  -- what is offered in between takes no name away
  rw [resolve_enlistAll, resolve_enlistBuiltins hbuiltin, Option.some_or]
  rfl

/-- **They may be registered before another prototype or behind it**, if that is for none of their
names. -/
lemma enlistBuiltins_comm (hname : key name ∉ builtinNames) (prototype : Command)
    (registry : Registry) (craft : Spacecraft) (arithmetic : Arithmetic) :
    let filled := registry.enlistBuiltins craft arithmetic
    let behind := filled.2.1.enlist name prototype filled.2.2
    let before := registry.enlist name prototype craft
    let filledBehind := before.2.1.enlistBuiltins before.2.2 arithmetic
    behind.1 = before.1 ∧ filledBehind.1 = filled.1 ∧
      behind.2.1.prototypes.Perm filledBehind.2.1.prototypes := by
  intro filled behind before filledBehind
  have hfilled := fills_enlistBuiltins registry craft arithmetic
  have hbefore := enlists_enlist registry name prototype craft
  have hbehind := enlists_enlist filled.2.1 name prototype filled.2.2
  have hfilledBehind := fills_enlistBuiltins before.2.1 before.2.2 arithmetic
  -- neither of the two has a say in what the other comes to
  have hanswer : behind.1 = before.1 := by
    rw [Bool.eq_iff_iff, hbehind.accepted_iff, hbefore.accepted_iff, hfilled.allowances,
      hfilled.resolve_of_not_mem (by rwa [map_key_prototypes])]
  have hvacant : before.2.1.vacant (Builtin.prototypes arithmetic) =
      registry.vacant (Builtin.prototypes arithmetic) := by
    refine vacant_congr fun offer hoffer => hbefore.resolve_of_ne fun hsame => hname ?_
    rw [hsame, ← map_key_prototypes arithmetic]
    exact List.mem_map_of_mem hoffer
  refine ⟨hanswer, ?_, ?_⟩
  · rw [hfilledBehind.count, hfilled.count, hvacant]
  · rw [hbehind.prototypes_eq, hfilled.prototypes, hfilledBehind.prototypes, hbefore.prototypes_eq,
      hvacant, hanswer, List.append_assoc, List.append_assoc]
    exact List.perm_append_comm.append_left _

/-- **The built-in commands fill the names that are free.**  Whatever was registered before, registering
them tells by how many names the registry has grown, leaves every name that had a prototype with that
one, and gives each of their own names that had none its built-in command.  After that they may be
registered as often as one likes, at once or behind any other registrations: no name is new, every name
has what it had, and the names are the same.  And they may be registered before another prototype or
behind it, unless that is for one of their names, as far as names are told apart: both get the same
answer, and the registry is the same. -/
theorem builtins_fill_free_names (registry : Registry) (craft : Spacecraft) (arithmetic : Arithmetic) :
    let filled := registry.enlistBuiltins craft arithmetic
    filled.2.1.size = registry.size + filled.1 ∧
    (∀ name prototype, registry.resolve name = some prototype →
      filled.2.1.resolve name = some prototype) ∧
    (∀ name ∈ [Bytes.ofString "count", Bytes.ofString "echo", Bytes.ofString "status"],
      ∃ builtin, (name, builtin) ∈ Builtin.prototypes arithmetic ∧
        filled.2.1.resolve name = some ((registry.resolve name).getD builtin)) ∧
    (∀ offers between again,
      let later := (enlistAll offers filled.2.1 between).2.1
      let further := later.enlistBuiltins again arithmetic
      further.1 = 0 ∧ (∀ name, further.2.1.resolve name = later.resolve name) ∧
        further.2.1.names = later.names) ∧
    ∀ name prototype, name.take Limits.keyLength ∉
        [Bytes.ofString "count", Bytes.ofString "echo", Bytes.ofString "status"] →
      let behind := filled.2.1.enlist name prototype filled.2.2
      let before := registry.enlist name prototype craft
      let filledBehind := before.2.1.enlistBuiltins before.2.2 arithmetic
      behind.1 = before.1 ∧ filledBehind.1 = filled.1 ∧
        behind.2.1.prototypes.Perm filledBehind.2.1.prototypes ∧
        (∀ asked, behind.2.1.resolve asked = filledBehind.2.1.resolve asked) ∧
        behind.2.1.names = filledBehind.2.1.names := by
  intro filled
  refine ⟨(fills_enlistBuiltins registry craft arithmetic).size_eq, ?kept, ?taken, ?again, ?order⟩
  case kept =>
    intro name prototype hholder
    exact (fills_enlistBuiltins registry craft arithmetic).resolve_of_some hholder
  case taken =>
    intro name hname
    obtain ⟨builtin, hbuiltin⟩ := exists_builtin hname arithmetic
    exact ⟨builtin, hbuiltin, resolve_enlistBuiltins hbuiltin registry craft⟩
  case again =>
    intro offers between again later further
    obtain ⟨hcount, hsame⟩ := enlistBuiltins_again offers registry craft between again arithmetic
    refine ⟨hcount, fun name => ?_, ?_⟩
    · exact congrArg (·.resolve name) hsame
    · exact congrArg names hsame
  case order =>
    intro name prototype hname behind before filledBehind
    obtain ⟨hanswer, hcount, hperm⟩ := enlistBuiltins_comm hname prototype registry craft arithmetic
    exact ⟨hanswer, hcount, hperm, resolve_of_perm hperm, names_of_perm hperm⟩

/-- Somebody has taken the name of the counting command, and one more prototype, the only copy of which
is still to be had, is registered before the other two or behind them. -/
theorem builtins_fill_free_names_beside_foreign_count :
    let behavior (copying : Copying) : Behavior :=
      { start := fun _ => .finish (.completed "ok"), copying }
    let foreign : Bytes × Command := (Bytes.ofString "count", { kind := 9, behavior := behavior .always })
    let ping : Command := { kind := 10, behavior := behavior (.rationed 0) }
    let craft : Spacecraft := { allowances := ⟨[1]⟩ }
    let registry := (enlistAll [foreign] .empty craft).2.1
    let filled := registry.enlistBuiltins craft
    let behind := filled.2.1.enlist (Bytes.ofString "ping") ping filled.2.2
    let before := registry.enlist (Bytes.ofString "ping") ping craft
    (Bytes.ofString "ping").take Limits.keyLength ∉
        [Bytes.ofString "count", Bytes.ofString "echo", Bytes.ofString "status"] ∧
      filled.1 = 2 ∧ filled.2.1.size = 3 ∧
      (filled.2.1.resolve (Bytes.ofString "count")).map (·.kind) = some 9 ∧
      (filled.2.1.enlistBuiltins filled.2.2).1 = 0 ∧
      behind.1 = true ∧ before.1 = true ∧
      behind.2.1.names = (before.2.1.enlistBuiltins before.2.2).2.1.names := by
  intro behavior foreign ping craft registry filled behind before
  have hname : (Bytes.ofString "ping").take Limits.keyLength ∉
      [Bytes.ofString "count", Bytes.ofString "echo", Bytes.ofString "status"] := by decide
  obtain ⟨hsize, hkept, -, hagain, horder⟩ := builtins_fill_free_names registry craft .wrapping
  obtain ⟨hanswer, -, -, -, hnames⟩ := horder _ ping hname
  have hbefore : before.1 = true := rfl
  refine ⟨hname, rfl, hsize, ?_, ?_, hanswer.trans hbefore, hbefore, hnames⟩
  · exact congrArg (·.map (·.kind)) (hkept (Bytes.ofString "count") foreign.2 rfl)
  · exact (hagain [] craft filled.2.2).1

end Registry

end FlightScript
