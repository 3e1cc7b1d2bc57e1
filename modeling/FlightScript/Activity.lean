import FlightScript.Spacecraft
/-!
# Running an activity

An activity runs until it ends, crashes, or has to wait. `Activity.run` is that first stretch; what
is left to do after it is a `Wait`, which says what is waited for and how the activity goes on.
`Wait.resume` tries the wait again and runs the next stretch.

Within a stretch nothing else happens aboard, and the clock stands still.
-/

namespace FlightScript

/-- An activity that waits. -/
inductive Wait where
  | time (limit : Nat) (next : Activity)
  /-- For a place in the downlink queue. -/
  | place (call : Link.WriteCall) (next : Nat → Activity)
  | forever

inductive Stop where
  | ended (ending : Ending)
  | crashed
  deriving DecidableEq, Repr

namespace Activity

/-- Runs an activity until it stops or has to wait. -/
def run : Activity → Spacecraft → Progress Wait Stop × Spacecraft
  | finish ending, craft => (.ready (.ended ending), craft)
  | log line next, craft => next.run (craft.say line)
  | note text next, craft => next.run (craft.enter (.note text))
  | count next, craft => (next craft.counter).run { craft with counter := craft.counter + 1 }
  | observe next, craft => (next craft.readings).run craft
  | write payload port timeout next, craft =>
    match craft.link.beginWrite craft.now ⟨port, payload⟩ timeout with
    | (.ready written, link) => (next written).run { craft with link }
    | (.waiting call, link) => (.waiting (.place call next), { craft with link })
  | pause milliseconds next, craft =>
    if milliseconds = 0 then next.run craft
    else (.waiting (.time (craft.now + milliseconds) next), craft)
  | never, craft => (.waiting .forever, craft)
  | crash, craft => (.ready .crashed, craft)

end Activity

namespace Wait

/-- Tries a wait again, and runs what follows it if it is over. -/
def resume (wait : Wait) (craft : Spacecraft) : Progress Wait Stop × Spacecraft :=
  match wait with
  | time limit next =>
    if limit ≤ craft.now then next.run craft else (.waiting wait, craft)
  | place call next =>
    match craft.link.resumeWrite craft.now call with
    | (.ready written, link) => (next written).run { craft with link }
    | (.waiting call, link) => (.waiting (.place call next), { craft with link })
  | forever => (.waiting forever, craft)

def ready (wait : Wait) (craft : Spacecraft) : Bool :=
  match wait with
  | time limit _ => limit ≤ craft.now
  | place call _ => craft.link.writeReady craft.now call
  | forever => false

/-- When a wait is over, if nothing else happens. -/
def timer : Wait → Option Nat
  | time limit _ => some limit
  | place call _ => call.expiry
  | forever => none

/-- The spacecraft without an activity that is dropped while it waits: it does nothing further, and
gives up its place in the downlink queue. -/
def drop (wait : Wait) (craft : Spacecraft) : Spacecraft :=
  match wait with
  | place call _ => { craft with link := craft.link.dropWrite call }
  | _ => craft

end Wait

end FlightScript
