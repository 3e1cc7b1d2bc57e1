import FlightScript.Bytes
import FlightScript.Text.Lossy
/-!
# Why a script is rejected

A script is rejected for its form, or because the one command it names cannot be had. Octets that
were found or expected are shown as the character of that number; words and names are shown as far
as they can be read as text.
-/

namespace FlightScript.Script

/-- Why a script is rejected. -/
inductive Error where
  /-- There is not one octet. -/
  | emptyScript
  /-- The script ends before anything is invoked. -/
  | noStatement
  /-- Another octet stands where one was required. -/
  | unexpectedByte (expected found : UInt8) (offset : Nat)
  /-- The script ends where an octet was required. -/
  | unexpectedEnd (expected : UInt8)
  /-- A string is opened and never closed. -/
  | unterminatedString (offset : Nat)
  /-- A word is no keyword, or there is no word where one was required. -/
  | unknownWord (word : Bytes)
  /-- Something follows the statement that does not end the script. -/
  | expectedEnd
  /-- Nothing is registered under the name. -/
  | unknownCommand (name : Bytes)
  /-- The command that is registered gives no further copy. -/
  | notCloneable (name : Bytes)
  deriving DecidableEq, Repr

namespace Error

/-- The octet as the character of that number. -/
def shownByte (b : UInt8) : Char :=
  Char.ofNat b.toNat

def message : Error → String
  | emptyScript => "Empty script"
  | noStatement => "Script has no statement"
  | unexpectedByte expected found offset =>
    s!"Expected '{shownByte expected}' at byte {offset}, found '{shownByte found}'"
  | unexpectedEnd expected => s!"Expected '{shownByte expected}', but the script ended"
  | unterminatedString offset => s!"String starting at byte {offset} is not terminated"
  | unknownWord word => s!"Unknown symbol \"{Text.Lossy.decode word}\""
  | expectedEnd => "Expected end of script after the statement"
  | unknownCommand name => s!"No command registered as \"{Text.Lossy.decode name}\""
  | notCloneable name => s!"Command \"{Text.Lossy.decode name}\" cannot be cloned"

/-- Whether a script earns an error by its form alone, whatever is registered. -/
def isGrammatical : Error → Bool
  | unknownCommand _ | notCloneable _ => false
  | _ => true

end Error

end FlightScript.Script
