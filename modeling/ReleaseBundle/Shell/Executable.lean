import ReleaseBundle.Shell.Expansion

/-!
# Executables

A file that holds a program of the system is run as that program. Any other file has to be a script, whose
first line names the program that reads it, with at most one argument.
-/

namespace ReleaseBundle.Shell

/-- What an executable file asks the system to do. -/
inductive Executable where
  | program (name : String)
  | script (interpreter : String) (argument : Option String)

namespace Executable

/-- How the files of programs begin. -/
def marker : Bytes := [0x7F, 0x45, 0x4C, 0x46]

/-- The file of a program of the system. -/
def image (name : String) : FileData :=
  { content := marker ++ Text.ofString name, mode := 0o755, program := some name }

/-- How much of a script is looked at. What is behind the end of a shorter one counts as NUL bytes. -/
def windowSize : Nat := 256

def isBlank (b : UInt8) : Bool := b == 0x20 || b == 0x09

/-- Whether a byte ends the name of a program. -/
def endsWord (b : UInt8) : Bool := isBlank b || b == 0

/-- The bytes up to the first NUL byte. -/
def untilNul (bs : Bytes) : Bytes := bs.takeWhile (· != 0)

/-- The first line of a script, given what is looked at of it behind `#!`, without blanks around it. A line
that goes on behind that has to end the name of the program before. -/
def firstLine? (window : Bytes) : Option Bytes :=
  let line := window.takeWhile (· != 0x0A)
  if line.length < window.length then some (trimmed line)
  else if (window.dropWhile isBlank).any endsWord then some (trimmed window.dropLast)
  else none
where
  trimmed (bs : Bytes) : Bytes := ((bs.dropWhile isBlank).reverse.dropWhile isBlank).reverse

/-- What a script asks for; nothing if it does not name a program. -/
def ofScript? (content : Bytes) : Option Executable :=
  match (content ++ List.replicate windowSize 0).take windowSize with
  | 0x23 :: 0x21 :: window =>
    match firstLine? window with
    | none | some [] => none
    | some line =>
      let name := line.takeWhile fun b => !endsWord b
      let argument := match line.drop name.length with
        | [] | 0 :: _ => none
        | rest => some (textOf (untilNul (rest.dropWhile isBlank)))
      some (.script (textOf name) argument)
  | _ => none

/-- What a file asks for; nothing if it is no program. -/
def ofFile? (f : FileData) : Option Executable :=
  match f.program with
  | some name => some (.program name)
  | none => ofScript? f.content

/-- Whether content looks like that of a program or of a script that names one. -/
def isRunnable (content : Bytes) : Bool := marker.isPrefixOf content || (ofScript? content).isSome

/-- The file at a path, if the system may run it. -/
def file? (d : Disk) (p : Path) : Except Fault FileData :=
  match d.stat p with
  | .error fault => .error fault
  | .ok (_, .file n) => if (d.data n).ownerExecutes then .ok (d.data n) else .error (.os .accessDenied)
  | .ok _ => .error (.os .accessDenied)

/-- What the file at a path asks for. -/
def at? (d : Disk) (p : Path) : Except Fault Executable :=
  match file? d p with
  | .error fault => .error fault
  | .ok f =>
    match ofFile? f with
    | some e => .ok e
    | none => .error (.os .badFormat)

/-- Whether a file that the system cannot run looks like a script without a first line: a NUL byte does not
occur in its first line, or nowhere in what is looked at if that begins like a script. -/
def isText (d : Disk) (p : Path) : Bool :=
  match file? d p with
  | .ok f =>
    let sample := f.content.take 80
    let line := if [0x23, 0x21].isPrefixOf sample then sample else sample.takeWhile (· != 0x0A)
    !line.contains 0 && !marker.isPrefixOf sample
  | .error _ => false

end Executable

/-- The directories that are searched for programs. -/
def searchDirectories : Act (List String) :=
  return ((← Act.value? "PATH").map fun t => t.splitOn ":").getD []

/-- Where a program is found: a name with a slash is a path itself. A file that may not be run is why
nothing is found if there is no other one. -/
def findProgram (name : String) : Act (Except Fault String) := do
  if name.contains '/' then return .ok name
  else
    let d := (← get).disk
    let candidates := (← searchDirectories).map fun dir =>
      if dir = "" then name else if dir.endsWith "/" then dir ++ name else dir ++ "/" ++ name
    match candidates.find? fun c => (Executable.file? d (pathOf c)).isOk with
    | some c => return .ok c
    | none =>
      let denied := candidates.any fun c => (d.stat (pathOf c)).isOk
      return .error (.os (if denied then .accessDenied else .notFound))

/-- The text of a fault that keeps a program from running. -/
def executionReason (fault : Fault) : String :=
  if fault = .os .notFound ∨ fault = .os .notDirectory then "not found" else reason fault

/-- The status of a command that cannot run. -/
def executionStatus (fault : Fault) : Nat :=
  if fault = .os .notFound ∨ fault = .os .notDirectory ∨ fault = .os .nameTooLong ∨
      fault = .os .tooManyLinks then 127 else 126

end ReleaseBundle.Shell
