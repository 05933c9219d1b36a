import ReleaseBundle.Disk.ErrorNumber

/-!
# Faults of the file system

An operation on files fails with one of the system's numbered errors or with a fault that never
reaches the system: text that is not UTF-8, or a name that holds a NUL byte. `Fault.message` is the
only place that words them. The errors that operations here answer with have names; others only have
their number.
-/

namespace ReleaseBundle

/-- The numbered errors that file operations answer with. -/
inductive Errno where
  | notPermitted
  | notFound
  | inputOutput
  | badFormat
  | accessDenied
  | busy
  | alreadyExists
  | crossDevice
  | notDirectory
  | isDirectory
  | invalidArgument
  | noSpace
  | readOnly
  | nameTooLong
  | notEmpty
  | tooManyLinks
  deriving DecidableEq, Repr

namespace Errno

def code : Errno → Nat
  | notPermitted => 1
  | notFound => 2
  | inputOutput => 5
  | badFormat => 8
  | accessDenied => 13
  | busy => 16
  | alreadyExists => 17
  | crossDevice => 18
  | notDirectory => 20
  | isDirectory => 21
  | invalidArgument => 22
  | noSpace => 28
  | readOnly => 30
  | nameTooLong => 36
  | notEmpty => 39
  | tooManyLinks => 40

def description (e : Errno) : String := ErrorNumber.text e.code

end Errno

/-- Why an operation on files failed. -/
inductive Fault where
  /-- The system refused. -/
  | os (e : Errno)
  /-- The system refused with an error that no operation here has. -/
  | numbered (code : Int)
  /-- A file that must hold text is not UTF-8. -/
  | notUtf8
  /-- A path holds a NUL byte, which no name can. -/
  | nulInPath
  /-- An argument of a program holds a NUL byte. -/
  | nulInArgument
  /-- A fault described by someone else. -/
  | stated (reason : String)
  deriving DecidableEq, Repr

namespace Fault

/-- How an error with a number is worded. -/
def numberedMessage (code : Int) : String :=
  ErrorNumber.text code ++ " (os error " ++ toString code ++ ")"

def message : Fault → String
  | os e => numberedMessage e.code
  | numbered code => numberedMessage code
  | notUtf8 => "stream did not contain valid UTF-8"
  | nulInPath => "file name contained an unexpected NUL byte"
  | nulInArgument => "nul byte found in provided data"
  | stated reason => reason

end Fault

end ReleaseBundle
