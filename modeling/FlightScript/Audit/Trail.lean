import FlightScript.Audit.Record
/-!
# The audit log on its storage

Records are appended one at a time, each by opening the file, writing seven octets and closing it, so
a reset between two commands loses nothing. A command cannot mend a storage fault: whoever appends
is told of it, and the record is lost.

Storage may refuse any single append. Which appends it refuses is part of the file (`refusal`, by
the number of the attempt), so "the log fails now and then" is a value like any other and two runs
under different storage can be compared.
-/

namespace FlightScript.Audit

/-- Why storage refuses an append or cannot be read. -/
inductive StorageFault where
  | noDirectory
  | isDirectory
  deriving DecidableEq, Repr

def StorageFault.message : StorageFault → String
  | noDirectory => "No such file or directory (os error 2)"
  | isDirectory => "Is a directory (os error 21)"

/-- What stands at the path of the log. -/
inductive Medium where
  /-- No file yet; the first append creates it. -/
  | absent
  | file (contents : Bytes)
  | directory
  deriving DecidableEq, Repr

/-- An audit log that is configured. -/
structure LogFile where
  medium : Medium
  /-- Appends tried so far. -/
  attempts : Nat := 0
  /-- Which appends the storage refuses, by the number of the attempt. -/
  refusal : Nat → Option StorageFault := fun _ => none

namespace LogFile

/-- Appends some octets, if the storage lets it. -/
def append (file : LogFile) (octets : Bytes) : Except StorageFault Unit × LogFile :=
  let tried := { file with attempts := file.attempts + 1 }
  match file.refusal file.attempts, file.medium with
  | some fault, _ => (.error fault, tried)
  | none, .absent => (.ok (), { tried with medium := .file octets })
  | none, .file contents => (.ok (), { tried with medium := .file (contents ++ octets) })
  | none, .directory => (.error .isDirectory, tried)

/-- The octets of the log; a log that was never written is empty. -/
def read (file : LogFile) : Except StorageFault Bytes :=
  match file.medium with
  | .absent => .ok []
  | .file contents => .ok contents
  | .directory => .error .isDirectory

/-- How long the file is, if there is one. -/
def size? (file : LogFile) : Option Nat :=
  match file.medium with
  | .file contents => some contents.length
  | _ => none

end LogFile

/-- The audit log of a spacecraft, or none at all. -/
inductive Trail where
  | disabled
  | enabled (file : LogFile)

namespace Trail

/-- A log whose file does not exist yet. -/
def fresh : Trail := .enabled { medium := .absent }

/-- A log whose file already holds something. -/
def holding (contents : Bytes) : Trail := .enabled { medium := .file contents }

/-- A log in a directory that is missing: every append is refused. -/
def unreachable : Trail := .enabled { medium := .absent, refusal := fun _ => some .noDirectory }

/-- A log whose path is taken by a directory. -/
def misplaced : Trail := .enabled { medium := .directory }

def isEnabled : Trail → Bool
  | disabled => false
  | enabled _ => true

/-- Appends a record. Where no log is configured there is nothing to do, and that succeeds. -/
def append (trail : Trail) (record : Record) : Except StorageFault Unit × Trail :=
  match trail with
  | disabled => (.ok (), disabled)
  | enabled file =>
    let (result, file) := file.append record.encode
    (result, enabled file)

inductive Unreadable where
  | storage (fault : StorageFault)
  | contents (error : ReadError)
  deriving DecidableEq, Repr

def readAll : Trail → Except Unreadable (List Record)
  | disabled => .ok []
  | enabled file =>
    match file.read with
    | .error fault => .error (.storage fault)
    | .ok contents =>
      match decodeAll contents with
      | .error e => .error (.contents e)
      | .ok records => .ok records

def size? : Trail → Option Nat
  | disabled => none
  | enabled file => file.size?

@[simp] theorem isEnabled_append (trail : Trail) (record : Record) :
    (trail.append record).2.isEnabled = trail.isEnabled := by
  cases trail <;> rfl

end Trail

end FlightScript.Audit
