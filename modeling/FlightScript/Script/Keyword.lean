import FlightScript.Bytes
/-!
# Keywords of the script language

Two words mean something in a script: one begins an invocation, the other ends the script. They are
recognised by their hash alone, so the reader compares one 64-bit number per keyword and never the
letters; a word that happens to have the hash of a keyword is that keyword.
-/

namespace FlightScript.Script

/-- The hash after one more octet. -/
def hashStep (hash : UInt64) (b : UInt8) : UInt64 :=
  hash * 33 + b.toUInt64

/-- The 64-bit hash of some octets: each one multiplies what is there by 33 and is added, and what
overflows is lost. -/
def hash (word : Bytes) : UInt64 :=
  word.foldl hashStep 5381

@[simp] theorem hash_nil : hash [] = 5381 := rfl

theorem hash_append (front back : Bytes) : hash (front ++ back) = back.foldl hashStep (hash front) := by
  simp [hash, List.foldl_append]

/-- The words the grammar knows. -/
inductive Keyword where
  | invoke
  | stop
  deriving DecidableEq, Repr

namespace Keyword

def spelling : Keyword → Bytes
  | invoke => Bytes.ofString "INVOKE"
  | stop => Bytes.ofString "SCRIPT_END"

/-- The keyword that a word is taken for: the one with the same hash. -/
def ofWord? (word : Bytes) : Option Keyword :=
  if hash word = hash invoke.spelling then some invoke
  else if hash word = hash stop.spelling then some stop
  else none

@[simp] theorem ofWord?_spelling (keyword : Keyword) : ofWord? keyword.spelling = some keyword := by
  cases keyword <;> decide

end Keyword

/-- Blanks may stand between any two tokens. A tab is not one of them. -/
def isBlank (b : UInt8) : Bool :=
  b = 0x20 || b = 0x0D || b = 0x0A

/-- The octets a word is made of: the letters of either case, and the underscore. -/
def isWordByte (b : UInt8) : Bool :=
  (0x41 ≤ b && b ≤ 0x5A) || (0x61 ≤ b && b ≤ 0x7A) || b = 0x5F

end FlightScript.Script
