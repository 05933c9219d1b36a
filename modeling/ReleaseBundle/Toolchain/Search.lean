import ReleaseBundle.Failure
import ReleaseBundle.Toolchain.Host

/-!
# Finding a program

A program that is named by one component is searched in the directories of the search path, and any
other one is looked for relative to the current directory. A candidate has to be a file that its owner
may execute.
-/

namespace ReleaseBundle.Toolchain

/-- The directories that the text of a search path lists. -/
def directories (text : String) : List Path := (text.splitOn ":").map .ofString

/-- Whether a path leads to a file that can be executed. -/
def isExecutable (d : Disk) (p : Path) : Bool :=
  match d.stat p with
  | .ok (_, .file number) => (d.data number).ownerExecutes
  | _ => false

/-- A path made absolute; leading `.` components are dropped. -/
def absolute (d : Disk) (p : Path) : Path :=
  if p.isAbsolute then p
  else
    (p.components.dropWhile (· == .here)).foldl (fun at_ c => at_.child c.bytes)
      (Disk.pathOf d.cwd)

/-- Where a program may be, in the order in which it is looked for. -/
def candidates (d : Disk) (searchPath : Option (List Path)) (program : Path) :
    Except StartReason (List Path) :=
  if program.isAbsolute || 1 < program.components.length then .ok [absolute d program]
  else
    match searchPath with
    | none => .error .noSearchPath
    | some dirs => .ok (dirs.map fun dir => dir.join program)

/-- Where a program is. -/
def find (d : Disk) (searchPath : Option (List Path)) (program : String) :
    Except StartReason Path :=
  match candidates d searchPath (.ofString program) with
  | .error reason => .error reason
  | .ok paths =>
    match paths.find? (isExecutable d) with
    | some path => .ok path
    | none => .error .notFound

end ReleaseBundle.Toolchain
