import FlightScript.Command
import FlightScript.Text.Order
/-!
# The registry of commands

Prototypes by name. Two names that agree on their first `Limits.keyLength` octets are one name, and
the first prototype that a name gets is the one it keeps. A prototype that gives no copy is refused,
since no invocation of it could ever run; to find out, the registry takes a copy and releases it.

`Registry.register` is the rule and says why it refuses; what is logged about it follows from its
answer (`Registration.lines`).
-/

namespace FlightScript

/-- What a name is known by in the registry. -/
def Registry.key (name : Bytes) : Bytes :=
  name.take Limits.keyLength

/-- The prototypes by key, in the order of their registration. No key occurs twice. -/
structure Registry where
  prototypes : List (Bytes × Command) := []
  keys_nodup : (prototypes.map Prod.fst).Nodup := by decide

namespace Registry

def empty : Registry := {}

/-- The prototype that is registered under a name. -/
def resolve (registry : Registry) (name : Bytes) : Option Command :=
  registry.prototypes.lookup (key name)

def size (registry : Registry) : Nat :=
  registry.prototypes.length

/-- The keys as text, sorted. -/
def names (registry : Registry) : List String :=
  (registry.prototypes.map fun entry => Text.Lossy.decode entry.1).mergeSort Text.Order.notAfter

inductive Refusal where
  | taken
  | notCloneable
  deriving DecidableEq, Repr

theorem lookup_eq_none_iff {prototypes : List (Bytes × Command)} {k : Bytes} :
    prototypes.lookup k = none ↔ k ∉ prototypes.map Prod.fst := by
  rw [List.lookup_eq_none_iff]
  simp only [bne_iff_ne, ne_eq, List.mem_map, not_exists, not_and, @eq_comm _ k]

/-- The registry with one more prototype under a key that is free. -/
def add (registry : Registry) (k : Bytes) (prototype : Command)
    (free : registry.prototypes.lookup k = none) : Registry where
  prototypes := registry.prototypes ++ [(k, prototype)]
  keys_nodup := by
    rw [List.map_append, List.nodup_append]
    refine ⟨registry.keys_nodup, by simp, ?_⟩
    intro a inside b last
    simp only [List.map_cons, List.map_nil, List.mem_singleton] at last
    subst last
    intro same
    exact lookup_eq_none_iff.1 free (same ▸ inside)

/-- Registers a prototype under a name. A name that is taken costs no copy; a prototype that is
accepted costs one. -/
def register (registry : Registry) (name : Bytes) (prototype : Command) (allowances : Allowances) :
    Except Refusal (Registry × Allowances) :=
  match free : registry.prototypes.lookup (key name) with
  | some _ => .error .taken
  | none =>
    match prototype.copy? allowances with
    | none => .error .notCloneable
    | some (_, allowances) => .ok (registry.add (key name) prototype free, allowances)

def registrationLines (name : Bytes) (prototype : Command) : Except Refusal Unit → List Log.Line
  | .error .taken =>
    let shown := Text.Lossy.decode (key name)
    [.warn s!"Command \"{shown}\" already registered, keeping the first prototype"]
  | .error .notCloneable =>
    let shown := Text.Lossy.decode (key name)
    [.warn s!"Command \"{shown}\" cannot be cloned, not registering it"]
  | .ok () =>
    let shown := Text.Lossy.decode (key name)
    [(prototype.withStatus .pending).releaseLine,
     .debug s!"Registered command \"{shown}\" (type {prototype.kind})"]

@[simp] theorem resolve_empty (name : Bytes) : empty.resolve name = none := rfl

/-- Names that agree on their first octets are one name. -/
theorem resolve_take (registry : Registry) (name : Bytes) :
    registry.resolve (name.take Limits.keyLength) = registry.resolve name := by
  simp [resolve, key, List.take_take]

end Registry

end FlightScript
