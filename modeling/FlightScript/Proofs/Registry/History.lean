import FlightScript.Builtin
import Mathlib.Data.String.Basic
import Mathlib.Tactic.Lemma
/-!
# What a registry holds after any registrations

A registry is filled by registrations, one after another, and three rules decide together what each of
them comes to: a name is known by its front only, the first prototype of a name stays, and a prototype
that gives no copy is refused.  Copies may be rationed and the ration may be shared, so whether a
prototype gives one is a matter of the moment at which it is offered.

`Registry.registrations` follows a list of offers, and notes for each of them the registry and the
spacecraft that it met.  What is registered under a name at the end is then found by looking at the
offers alone (`registrations_exact`): it is the first prototype that was offered under that name, or
under one with the same front, at a moment when it gave a copy.  An earlier offer that gave none is as
if it had not been made.

`Enlists` has the three ways that one registration can go, each with all that it leaves behind; nothing
behind it looks into `Registry.enlist` again.
-/

namespace FlightScript

/-! ## The order of names -/

namespace Text.Order

lemma notAfterChars_iff_not_lt {a b : List Char} : notAfterChars a b ↔ ¬ b < a := by
  induction a generalizing b with
  | nil => simp [notAfterChars]
  | cons x xs ih =>
    cases b with
    | nil => simp [notAfterChars]
    | cons y ys =>
      have hlt : x.toNat < y.toNat ↔ x < y := Iff.rfl
      have heq : x.toNat = y.toNat ↔ x = y := Char.toNat_inj
      simp only [notAfterChars, Bool.or_eq_true, Bool.and_eq_true, decide_eq_true_eq, hlt, heq, ih,
        List.cons_lt_cons_iff, not_or, not_and, not_lt]
      constructor
      · rintro (hless | ⟨rfl, hrest⟩)
        · exact ⟨hless.le, fun hsame => absurd hsame.symm hless.ne⟩
        · exact ⟨le_rfl, fun _ => hrest⟩
      · rintro ⟨hle, hrest⟩
        rcases hle.lt_or_eq with hless | hsame
        · exact .inl hless
        · exact .inr ⟨hsame, hrest hsame.symm⟩

/-- Names are sorted in the usual order of texts. -/
lemma notAfter_iff_le {a b : String} : notAfter a b ↔ a ≤ b := by
  rw [notAfter, notAfterChars_iff_not_lt, ← String.lt_iff_toList_lt, not_lt]

lemma notAfter_trans (a b c : String) (hab : notAfter a b) (hbc : notAfter b c) : notAfter a c :=
  notAfterChars_trans _ _ _ hab hbc

lemma notAfter_total (a b : String) : notAfter a b || notAfter b a :=
  notAfterChars_total _ _

end Text.Order

/-! ## Copies -/

/-- A copy that is granted takes one off the ration it is drawn on, and nothing off any other. -/
lemma Allowances.left_of_grant? {allowances granted : Allowances} {copying : Copying}
    (h : allowances.grant? copying = some granted) (allowance : Nat) :
    allowances.left allowance =
      granted.left allowance + if copying = .rationed allowance then 1 else 0 := by
  cases copying with
  | never => cases h
  | always =>
    obtain rfl : allowances = granted := Option.some.inj h
    simp
  | rationed drawn =>
    cases hleft : allowances.left drawn with
    | zero => simp [grant?, hleft] at h
    | succ n =>
      have hgranted : ⟨allowances.remaining.set drawn n⟩ = granted := by
        simpa [grant?, hleft] using h
      have hinside : drawn < allowances.remaining.length := by
        by_contra hout
        simp [left, hout] at hleft
      subst hgranted
      by_cases hsame : drawn = allowance
      · subst hsame
        have hlater : (⟨allowances.remaining.set drawn n⟩ : Allowances).left drawn = n := by
          simp [left, hinside]
        rw [hlater, if_pos rfl, hleft]
      · simp [left, hsame]

namespace Registry

variable {registry : Registry} {name : Bytes} {prototype : Command} {craft : Spacecraft}

/-! ## One registration -/

lemma resolve_add {k : Bytes} (free : registry.prototypes.lookup k = none) (name : Bytes) :
    (registry.add k prototype free).resolve name =
      if key name = k then some prototype else registry.resolve name := by
  unfold resolve add
  rw [List.lookup_append]
  by_cases hname : key name = k
  · subst hname
    simp [free]
  · simp [List.lookup_cons, hname, beq_eq_false_iff_ne.2 hname]

@[simp] lemma size_add {k : Bytes} (free : registry.prototypes.lookup k = none) :
    (registry.add k prototype free).size = registry.size + 1 := by
  simp [size, add]

/-- Names with the same front are one name. -/
lemma resolve_congr {name' : Bytes} (h : key name = key name') (registry : Registry) :
    registry.resolve name = registry.resolve name' := by
  rw [resolve, resolve, h]

/-- The three ways that a registration goes, each with all that it leaves behind. -/
inductive Enlists (registry : Registry) (name : Bytes) (prototype : Command) (craft : Spacecraft) :
    Bool × Registry × Spacecraft → Prop where
  /-- The name has a prototype, so this one is not even asked for a copy. -/
  | taken (holder : Command) (hholder : registry.resolve name = some holder) (lines : List Log.Line) :
    Enlists registry name prototype craft (false, registry, craft.sayAll lines)
  | notCloneable (hfree : registry.resolve name = none)
      (hcopy : prototype.copy? craft.allowances = none) (lines : List Log.Line) :
    Enlists registry name prototype craft (false, registry, craft.sayAll lines)
  | accepted (hfree : registry.prototypes.lookup (key name) = none) (copy : Command)
      (left : Allowances) (hcopy : prototype.copy? craft.allowances = some (copy, left))
      (lines : List Log.Line) :
    Enlists registry name prototype craft
      (true, registry.add (key name) prototype hfree, { craft with allowances := left }.sayAll lines)

lemma enlists_enlist (registry : Registry) (name : Bytes) (prototype : Command)
    (craft : Spacecraft) :
    Enlists registry name prototype craft (registry.enlist name prototype craft) := by
  unfold enlist register
  split
  · next refusal herror =>
    split at herror
    · next holder hholder => exact .taken holder hholder _
    · next hfree =>
      split at herror
      · next hcopy => exact .notCloneable hfree hcopy _
      · cases herror
  · next hok =>
    split at hok
    · cases hok
    · next hfree =>
      split at hok
      · cases hok
      · next copy left hcopy =>
        cases hok
        exact .accepted hfree copy _ hcopy _

namespace Enlists

variable {result : Bool × Registry × Spacecraft}

/-- A prototype is accepted exactly if its name is free and it gives a copy. -/
lemma accepted_iff (h : Enlists registry name prototype craft result) :
    result.1 ↔ registry.resolve name = none ∧ (prototype.copy? craft.allowances).isSome := by
  cases h with
  | taken holder hholder => simp [hholder]
  | notCloneable hfree hcopy => simp [hcopy]
  | accepted hfree copy left hcopy => simp [show registry.resolve name = none from hfree, hcopy]

/-- **What is registered under any name afterwards.**  A prototype that gives a copy fills its name if
that is free, and nothing else changes. -/
lemma resolve_eq (h : Enlists registry name prototype craft result) (asked : Bytes) :
    result.2.1.resolve asked = (registry.resolve asked).or
      (if key name = key asked ∧ (prototype.copy? craft.allowances).isSome then some prototype
        else none) := by
  by_cases hkey : key name = key asked
  · rw [← resolve_congr hkey registry]
    cases h with
    | taken holder hholder => simp [hholder, ← resolve_congr hkey registry]
    | notCloneable hfree hcopy => simp [hcopy, resolve_congr hkey registry]
    | accepted hfree copy left hcopy =>
      have hnone : registry.resolve name = none := hfree
      simp [resolve_add, hkey, hnone, hcopy]
  · cases h with
    | taken => simp [hkey]
    | notCloneable => simp [hkey]
    | accepted hfree => simp [resolve_add, hkey, Ne.symm hkey]

lemma size_eq (h : Enlists registry name prototype craft result) :
    result.2.1.size = registry.size + if result.1 then 1 else 0 := by
  cases h with
  | taken => rfl
  | notCloneable => rfl
  | accepted hfree => exact size_add hfree

/-- A registration that is refused leaves the registry as it was, and uses up no copy. -/
lemma of_refused (h : Enlists registry name prototype craft result) (hrefused : result.1 = false) :
    result.2.1 = registry ∧ result.2.2.allowances = craft.allowances := by
  cases h with
  | taken => exact ⟨rfl, rfl⟩
  | notCloneable => exact ⟨rfl, rfl⟩
  | accepted => cases hrefused

/-- One that is accepted uses up exactly one copy. -/
lemma left_of_accepted (h : Enlists registry name prototype craft result) (haccepted : result.1)
    (allowance : Nat) :
    craft.allowances.left allowance = result.2.2.allowances.left allowance +
      if prototype.behavior.copying = .rationed allowance then 1 else 0 := by
  cases h with
  | taken => cases haccepted
  | notCloneable => cases haccepted
  | accepted hfree copy left hcopy =>
    obtain ⟨granted, hgrant, hpair⟩ := Option.map_eq_some_iff.1 hcopy
    obtain ⟨-, rfl⟩ := Prod.mk.inj hpair
    exact Allowances.left_of_grant? hgrant allowance

end Enlists

/-! ## Registrations one after another -/

/-- A registration, with the registry and the spacecraft that it met. -/
structure Registration where
  name : Bytes
  prototype : Command
  registry : Registry
  craft : Spacecraft

namespace Registration

/-- What it came to: the answer, and the registry and the spacecraft afterwards. -/
def result (made : Registration) : Bool × Registry × Spacecraft :=
  made.registry.enlist made.name made.prototype made.craft

def isAccepted (made : Registration) : Bool := made.result.1

/-- Whether its prototype gave a copy at that moment. -/
def isCopyable (made : Registration) : Bool :=
  (made.prototype.copy? made.craft.allowances).isSome

/-- Whether it is for a name, as far as names are told apart, and its prototype gave a copy. -/
def serves (name : Bytes) (made : Registration) : Bool :=
  key made.name = key name ∧ made.isCopyable

lemma serves_iff {made : Registration} {name : Bytes} :
    made.serves name ↔ key made.name = key name ∧ made.isCopyable := by
  simp [serves]

lemma enlists_result (made : Registration) :
    Enlists made.registry made.name made.prototype made.craft made.result :=
  enlists_enlist ..

lemma resolve_result (made : Registration) (name : Bytes) :
    made.result.2.1.resolve name = (made.registry.resolve name).or
      (if made.serves name then some made.prototype else none) := by
  rw [made.enlists_result.resolve_eq]
  simp only [serves_iff, isCopyable]

end Registration

/-- The registrations that a list of offers comes to. -/
def registrations : List (Bytes × Command) → Registry → Spacecraft → List Registration
  | [], _, _ => []
  | (name, prototype) :: rest, registry, craft =>
    let made : Registration := ⟨name, prototype, registry, craft⟩
    made :: registrations rest made.result.2.1 made.result.2.2

variable {offers : List (Bytes × Command)} {front back : List Registration} {made : Registration}

/-- They are of what was offered, in that order. -/
lemma map_registrations (offers : List (Bytes × Command)) (registry : Registry)
    (craft : Spacecraft) :
    (registrations offers registry craft).map (fun made => (made.name, made.prototype)) = offers := by
  induction offers generalizing registry craft with
  | nil => rfl
  | cons offer rest ih =>
    rw [registrations, List.map_cons, ih]

/-- What is registered under a name in the end: what was before, and failing that the prototype of the
first registration that serves the name. -/
lemma resolve_enlistAll (offers : List (Bytes × Command)) (registry : Registry) (craft : Spacecraft)
    (name : Bytes) :
    (enlistAll offers registry craft).2.1.resolve name = (registry.resolve name).or
      (((registrations offers registry craft).find? (·.serves name)).map (·.prototype)) := by
  induction offers generalizing registry craft with
  | nil => simp [enlistAll, registrations]
  | cons offer rest ih =>
    obtain ⟨offered, prototype⟩ := offer
    let made : Registration := ⟨offered, prototype, registry, craft⟩
    have hstep : (enlistAll ((offered, prototype) :: rest) registry craft).2.1 =
        (enlistAll rest made.result.2.1 made.result.2.2).2.1 := rfl
    rw [hstep, ih, made.resolve_result, Option.or_assoc, registrations, List.find?_cons]
    cases made.serves name <;> simp [made]

/-- So it is at the moment of any registration, with the registrations before that one. -/
lemma resolve_of_split (h : registrations offers registry craft = front ++ made :: back)
    (name : Bytes) :
    made.registry.resolve name = (registry.resolve name).or
      ((front.find? (·.serves name)).map (·.prototype)) := by
  induction front generalizing offers registry craft with
  | nil =>
    cases offers with
    | nil => cases h
    | cons offer rest =>
      obtain ⟨rfl, -⟩ := List.cons.inj h
      simp
  | cons first front ih =>
    cases offers with
    | nil => cases h
    | cons offer rest =>
      obtain ⟨rfl, hrest⟩ := List.cons.inj h
      rw [ih hrest, Registration.resolve_result, Option.or_assoc, List.find?_cons]
      cases Registration.serves name ⟨offer.1, offer.2, registry, craft⟩ <;> simp

lemma size_enlistAll (offers : List (Bytes × Command)) (registry : Registry) (craft : Spacecraft) :
    (enlistAll offers registry craft).2.1.size =
      registry.size + (registrations offers registry craft).countP (·.isAccepted) := by
  induction offers generalizing registry craft with
  | nil => rfl
  | cons offer rest ih =>
    obtain ⟨offered, prototype⟩ := offer
    let made : Registration := ⟨offered, prototype, registry, craft⟩
    have hstep : (enlistAll ((offered, prototype) :: rest) registry craft).2.1 =
        (enlistAll rest made.result.2.1 made.result.2.2).2.1 := rfl
    rw [hstep, ih, made.enlists_result.size_eq, registrations, List.countP_cons, Nat.add_right_comm,
      Nat.add_assoc]
    rfl

lemma pairwise_names (registry : Registry) : registry.names.Pairwise (· ≤ ·) := by
  have hsorted := List.pairwise_mergeSort Text.Order.notAfter_trans Text.Order.notAfter_total
    (registry.prototypes.map fun entry => Text.Lossy.decode entry.1)
  exact hsorted.imp Text.Order.notAfter_iff_le.1

lemma length_names (registry : Registry) : registry.names.length = registry.size := by
  simp [names, size]

/-- **What a registry holds after any registrations.**  Let any prototypes be offered to a new registry
under any names, one after another.  What is registered under a name in the end is the prototype of the
first registration that was for that name, by its front, and whose prototype gave a copy when it was
made; it is nothing if there is none.  These registrations, each the first for its name in this sense,
are the ones that were accepted, and there are as many names as there are of them.  A registration
that is refused leaves what is registered as it was, and if its name was taken it uses up no copy; one
that is accepted uses up exactly one copy of its own prototype.  The names are told in order, each once
for every prototype. -/
theorem registrations_exact (offers : List (Bytes × Command)) (craft : Spacecraft) :
    let made := registrations offers .empty craft
    let registry := (enlistAll offers .empty craft).2.1
    made.map (fun call => (call.name, call.prototype)) = offers ∧
    (∀ name, registry.resolve name =
      (made.find? fun call =>
        call.name.take Limits.keyLength = name.take Limits.keyLength ∧ call.isCopyable).map
          (·.prototype)) ∧
    (∀ front call back, made = front ++ call :: back →
      (call.isAccepted ↔ call.isCopyable ∧ ∀ earlier ∈ front,
        earlier.name.take Limits.keyLength = call.name.take Limits.keyLength →
          ¬ earlier.isCopyable)) ∧
    registry.size = made.countP (·.isAccepted) ∧
    (∀ call ∈ made, call.isAccepted = false →
      ∀ name, call.result.2.1.resolve name = call.registry.resolve name) ∧
    (∀ call ∈ made, call.registry.resolve call.name ≠ none →
      call.isAccepted = false ∧ call.result.2.2.allowances = call.craft.allowances) ∧
    (∀ call ∈ made, call.isAccepted → ∀ allowance,
      call.craft.allowances.left allowance = call.result.2.2.allowances.left allowance +
        if call.prototype.behavior.copying = .rationed allowance then 1 else 0) ∧
    registry.names.length = registry.size ∧ registry.names.Pairwise (· ≤ ·) := by
  intro made registry
  refine ⟨map_registrations offers _ craft, ?resolve, ?accepted, ?size, ?refused, ?taken, ?spent,
    length_names registry, pairwise_names registry⟩
  case resolve =>
    intro name
    have hresolve := resolve_enlistAll offers .empty craft name
    rw [resolve_empty, Option.none_or] at hresolve
    exact hresolve
  case accepted =>
    intro front call back hsplit
    have hearlier := resolve_of_split hsplit call.name
    rw [resolve_empty, Option.none_or] at hearlier
    have hanswer := call.enlists_result.accepted_iff
    rw [hearlier] at hanswer
    rw [Registration.isAccepted, hanswer, and_comm, Option.map_eq_none_iff, List.find?_eq_none]
    simp only [Registration.serves_iff, not_and]
    rfl
  case size =>
    have hsize := size_enlistAll offers .empty craft
    rw [show empty.size = 0 from rfl, Nat.zero_add] at hsize
    exact hsize
  case refused =>
    intro call _ hrefused name
    rw [(call.enlists_result.of_refused hrefused).1]
  case taken =>
    intro call _ htaken
    have hrefused : call.isAccepted = false := by
      rw [Bool.eq_false_iff]
      intro haccepted
      exact htaken (call.enlists_result.accepted_iff.1 haccepted).1
    exact ⟨hrefused, (call.enlists_result.of_refused hrefused).2⟩
  case spent =>
    intro call _ haccepted allowance
    exact call.enlists_result.left_of_accepted haccepted allowance

/-- Three prototypes under names with one front.  The ration of the first is spent, so the name goes to
the second, which draws the one copy it is good for; the third comes too late and draws none. -/
theorem registrations_behind_spent_ration :
    let behavior (copying : Copying) : Behavior :=
      { start := fun _ => .finish (.completed "ok"), copying }
    let offers : List (Bytes × Command) := [
      (Bytes.ofString "abcdefghijklmnopqrst_a", { kind := 1, behavior := behavior (.rationed 0) }),
      (Bytes.ofString "abcdefghijklmnopqrst_b", { kind := 2, behavior := behavior (.rationed 1) }),
      (Bytes.ofString "abcdefghijklmnopqrst", { kind := 3, behavior := behavior (.rationed 2) })]
    let craft : Spacecraft := { allowances := ⟨[0, 1, 5]⟩ }
    let filled := enlistAll offers .empty craft
    (filled.2.1.resolve (Bytes.ofString "abcdefghijklmnopqrst_c")).map (·.kind) = some 2 ∧
      (registrations offers .empty craft).map (·.isAccepted) = [false, true, false] ∧
      filled.2.1.size = 1 ∧ filled.2.2.allowances = ⟨[0, 0, 5]⟩ := by
  intro behavior offers craft filled
  obtain ⟨-, hresolve, -, hsize, -⟩ := registrations_exact offers craft
  refine ⟨?_, ?_, ?_, ?_⟩
  · show (filled.2.1.resolve _).map _ = _
    rw [hresolve]
    rfl
  · rfl
  · show filled.2.1.size = 1
    rw [hsize]
    rfl
  · rfl

end Registry

end FlightScript
