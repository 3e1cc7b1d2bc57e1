/-!
# The log

What the software aboard reports while it runs: lines in order, each with a level. The log is for
the operators; nothing aboard reads it.
-/

namespace FlightScript.Log

/-- How much a line matters. -/
inductive Level where
  | trace
  | debug
  | info
  | warn
  deriving DecidableEq, Repr

def Level.name : Level → String
  | trace => "TRACE"
  | debug => "DEBUG"
  | info => "INFO"
  | warn => "WARN"

/-- Whether lines of a level are shown to operators who have not asked for more. -/
def Level.isShown : Level → Bool
  | trace | debug => false
  | info | warn => true

structure Line where
  level : Level
  text : String
  deriving DecidableEq, Repr

namespace Line

def render (line : Line) : String :=
  s!"{line.level.name} {line.text}"

def trace (text : String) : Line := ⟨.trace, text⟩
def debug (text : String) : Line := ⟨.debug, text⟩
def info (text : String) : Line := ⟨.info, text⟩
def warn (text : String) : Line := ⟨.warn, text⟩

end Line

end FlightScript.Log
