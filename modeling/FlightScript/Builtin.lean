import FlightScript.Registry
import FlightScript.Spacecraft
/-!
# The built-in commands

Three commands come with the software: `count` advances the shared counter, `echo` sends its argument
back to the ground, and `status` sends a one-line report. What is sent goes down on the telemetry
port, and either all of it is sent or the command fails.

## Sums that do not fit

The shared counter goes from its greatest value to 0, however the software is built. But the value that
`count` reports is a sum of its own, of the value that the counter had and one, and what comes of a sum that
does not fit its type is settled by the build (`Arithmetic`). So the built-in commands are made for a build.
Where none is named, it is the one that flies, which wraps.
-/

namespace FlightScript

/-- What a build of the software makes of a sum that does not fit its type. -/
inductive Arithmetic where
  /-- It wraps around, as in the build that flies. -/
  | wrapping
  /-- Whatever has asked for it crashes, as in builds for development and for tests. -/
  | checked
  deriving DecidableEq, Repr

namespace Arithmetic

/-- The sum of a number and one, if the build makes it. -/
def next? : Arithmetic → UInt32 → Option UInt32
  | wrapping, n => some (n + 1)
  | checked, n => if n.toNat + 1 < UInt32.size then some (n + 1) else none

/-- Only the greatest number has none, and only where sums are checked. -/
theorem next?_eq_none_iff {arithmetic : Arithmetic} {n : UInt32} :
    arithmetic.next? n = none ↔ arithmetic = checked ∧ n + 1 = 0 := by
  cases arithmetic with
  | wrapping => simp [next?]
  | checked =>
    have hbound : n.toNat < 2 ^ 32 := n.toNat_lt
    have hround : n + 1 = 0 ↔ (n.toNat + 1) % 2 ^ 32 = 0 := by
      rw [← UInt32.toNat_inj, UInt32.toNat_add]
      rfl
    simp only [next?, ite_eq_right_iff, reduceCtorEq, imp_false, true_and, hround, UInt32.size]
    omega

theorem eq_add_one_of_next? {arithmetic : Arithmetic} {n next : UInt32}
    (h : arithmetic.next? n = some next) : next = n + 1 := by
  cases arithmetic with
  | wrapping => exact (Option.some.inj h).symm
  | checked =>
    obtain ⟨-, h⟩ := Option.ite_none_right_eq_some.1 h
    exact (Option.some.inj h).symm

end Arithmetic

end FlightScript

namespace FlightScript.Builtin

def downlinkTimeout : Nat := 1000

/-- Sends some octets to the ground, and ends with a failure if not all of them went. -/
def downlink (payload : Bytes) (done : Nat → String) : Activity :=
  .write payload .telemetry (some downlinkTimeout) fun written =>
    if written < payload.length then
      .finish (.failed .overflow s!"Downlinked {written} of {payload.length} bytes")
    else .finish (.completed (done written))

def shownArgument (argument : Bytes) : String :=
  Text.Quoted.quote (Text.Lossy.decode argument)

/-- Advances the shared counter and reports the sum of the value that it had and one. Where the build does not
make that sum, the counter has been advanced all the same. -/
def count (arithmetic : Arithmetic := .wrapping) : Behavior where
  start context :=
    .count fun before =>
      match arithmetic.next? before with
      | none => .crash
      | some counter =>
        .log (.info s!"[COUNT] count={counter} argument={shownArgument context.argument}") <|
          .finish (.completed s!"Count is {counter}")
  copying := .always

def echo : Behavior where
  start context :=
    if context.argument.isEmpty then .finish (.failed .syntaxError "Nothing to echo")
    else
      .log (.info s!"[ECHO] {shownArgument context.argument}") <|
        downlink context.argument fun written => s!"Echoed {written} bytes"
  copying := .always

def report (readings : Readings) : String :=
  let audit := if readings.auditing then "on" else "off"
  s!"uptime={readings.uptime}s audit={audit}"

/-- Sends a report, if there is anybody to send it to. -/
def status : Behavior where
  start _ :=
    .observe fun readings =>
      if readings.inRange then
        .log (.info s!"[STATUS] {report readings}") <|
          downlink (Bytes.ofString (report readings)) fun _ => report readings
      else .finish (.failed .failed "Ground station out of range")
  copying := .always

/-- The prototypes of the built-in commands, by name. -/
def prototypes (arithmetic : Arithmetic := .wrapping) : List (Bytes × Command) :=
  [(Bytes.ofString "count", { kind := 1, behavior := count arithmetic }),
   (Bytes.ofString "echo", { kind := 2, behavior := echo }),
   (Bytes.ofString "status", { kind := 3, behavior := status })]

end FlightScript.Builtin

namespace FlightScript.Registry

/-- Registers a prototype and logs what came of it. -/
def enlist (registry : Registry) (name : Bytes) (prototype : Command) (craft : Spacecraft) :
    Bool × Registry × Spacecraft :=
  match registry.register name prototype craft.allowances with
  | .error refusal =>
    (false, registry, craft.sayAll (registrationLines name prototype (.error refusal)))
  | .ok (registry, allowances) =>
    (true, registry, { craft with allowances }.sayAll (registrationLines name prototype (.ok ())))

/-- Registers prototypes in order, and tells how many names are new. -/
def enlistAll : List (Bytes × Command) → Registry → Spacecraft → Nat × Registry × Spacecraft
  | [], registry, craft => (0, registry, craft)
  | (name, prototype) :: rest, registry, craft =>
    let (added, registry, craft) := registry.enlist name prototype craft
    let (count, registry, craft) := enlistAll rest registry craft
    (if added then count + 1 else count, registry, craft)

/-- Registers the built-in commands. Names that are taken keep their prototype, so this may be done
again. -/
def enlistBuiltins (registry : Registry) (craft : Spacecraft) (arithmetic : Arithmetic := .wrapping) :
    Nat × Registry × Spacecraft :=
  let (count, registry, craft) := enlistAll (Builtin.prototypes arithmetic) registry craft
  (count, registry,
    craft.say (.info s!"Registered {count} built-in commands ({registry.size} total)"))

end FlightScript.Registry
