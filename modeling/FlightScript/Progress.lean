/-!
# Calls that may have to wait

A call either ends at once or is left waiting, with all that it needs to go on later. Whoever holds
the waiting call decides when it is tried again, and may drop it instead.
-/

namespace FlightScript

/-- How far a call has come. -/
inductive Progress (ω α : Type) where
  | ready (result : α)
  | waiting (call : ω)

namespace Progress

/-- The same call with another kind of result. -/
def map {ω α β : Type} (f : α → β) : Progress ω α → Progress ω β
  | ready a => .ready (f a)
  | waiting w => .waiting w

/-- The same call held in another way. -/
def mapWaiting {ω ω' α : Type} (f : ω → ω') : Progress ω α → Progress ω' α
  | ready a => .ready a
  | waiting w => .waiting (f w)

end Progress

/-- Whether a time limit has been reached; without a limit it never is. -/
def expired (now : Nat) : Option Nat → Bool
  | none => false
  | some limit => limit ≤ now

end FlightScript
