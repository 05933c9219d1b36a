import ReleaseBundle.Disk.Lookup

/-!
# Operations that change files

The operations of the system on paths: each either answers with the changed file system or fails and
changes nothing. They are the steps that the longer activities (copying a file, writing an archive)
consist of.
-/

namespace ReleaseBundle

namespace Path

/-- A path without the slashes at its end; a path of slashes only stays one slash. -/
def withoutSlashes (p : Path) : Path :=
  let trimmed := (p.bytes.reverse.dropWhile (· == slash)).reverse
  if trimmed = [] ∧ p.isAbsolute then ⟨[slash]⟩ else ⟨trimmed⟩

end Path

namespace Disk

/-- Creates one directory. -/
def makeDirectory (d : Disk) (p : Path) : Except Fault Disk :=
  match d.refusal? p with
  | some fault => .error fault
  | none =>
    match d.locate p.withoutSlashes false with
    | .error fault => .error fault
    | .ok (.found _ _) => .error (.os .alreadyExists)
    | .ok (.vacant dir name) => .ok (d.add dir name .directory)

/-- Creates a new empty file with the given permission bits; the name must be free. -/
def createFile (d : Disk) (dir : Location) (name : Name) (mode : Nat) : Disk :=
  let number := d.freshNumber
  (d.add dir name (.file number)).setFile number { content := [], mode }

/-- Whether a path, met in the directory `here`, asks for a directory by a slash behind its last name,
or a link at its end does. What the last name stands for does not matter then, but the names before it have
to lead to a directory. At most `links` links at the end are looked at. -/
def asksForDirectory (d : Disk) : Nat → Location → Path → Bool
  | 0, _, _ => false
  | links + 1, here, p =>
    if p.endsInSlash then
      match d.resolve true maxLinks (start here p) (p.segments.filter (· != [])).dropLast with
      | .ok (.found _ .directory) => true
      | _ => false
    else
      match d.resolve false maxLinks (start here p) p.steps with
      | .ok (.found at_ (.link target)) => asksForDirectory d links at_.tail target
      | _ => false

/-- Opens a path for writing from the start: an existing file loses its contents if its owner may write
it, and a free name becomes an empty file with the given permission bits. Answers the number of the file.
A path that asks for a directory is refused as if it led to one. -/
def openForWriting (d : Disk) (p : Path) (mode : Nat) : Except Fault (Disk × Nat) :=
  if d.refusal? p = none ∧ d.asksForDirectory maxLinks d.cwd p then .error (.os .isDirectory)
  else
  match d.locate p with
  | .error fault => .error fault
  | .ok (.found _ (.file number)) =>
    if (d.data number).ownerWrites then
      .ok (d.setFile number { d.data number with content := [], program := none }, number)
    else .error (.os .accessDenied)
  | .ok (.found _ _) => .error (.os .isDirectory)
  | .ok (.vacant dir name) => .ok (d.createFile dir name mode, d.freshNumber)

/-- Writes at the end of a file. -/
def appendTo (d : Disk) (number : Nat) (bytes : Bytes) : Disk :=
  d.setFile number { d.data number with content := (d.data number).content ++ bytes }

/-- Puts other contents into a file. -/
def overwrite (d : Disk) (number : Nat) (bytes : Bytes) : Disk :=
  d.setFile number { d.data number with content := bytes }

/-- Removes the name of a file or a link; the contents go with the last name. -/
def unlink (d : Disk) (at_ : Location) : Disk :=
  match d.node? at_ with
  | some (.file number) => (d.erase at_).release number
  | some (.link _) => d.erase at_
  | _ => d

/-- Moves the file or link at `source` to a path. What stands there is replaced in the same step,
unless it is a directory. A path with a NUL byte is no argument for this operation. -/
def rename (d : Disk) (source : Location) (p : Path) : Except Fault Disk :=
  match d.node? source with
  | none => .error (.os .notFound)
  | some node =>
    if p.bytes.contains 0 then .error (.os .invalidArgument)
    else
      match d.locate p false with
      | .error fault => .error fault
      | .ok (.found _ .directory) => .error (.os .isDirectory)
      | .ok (.found at_ _) =>
        if at_ = source then .ok d
        else
          match at_ with
          | [] => .error (.os .isDirectory)
          | name :: dir => .ok (((d.unlink at_).erase source).add dir name node)
      | .ok (.vacant dir name) => .ok ((d.erase source).add dir name node)

/-- Creates a symbolic link. -/
def makeLink (d : Disk) (target p : Path) : Except Fault Disk :=
  match d.locate p false with
  | .error fault => .error fault
  | .ok (.found _ _) => .error (.os .alreadyExists)
  | .ok (.vacant dir name) => .ok (d.add dir name (.link target))

/-- Creates another name for a file or a link that has one. -/
def addName (d : Disk) (node : Node) (p : Path) : Except Fault Disk :=
  match d.locate p false with
  | .error fault => .error fault
  | .ok (.found _ _) => .error (.os .alreadyExists)
  | .ok (.vacant dir name) => .ok (d.add dir name node)

/-- Whether a path ends in a part that names the directory it is in. -/
def endsInDot (p : Path) : Bool := p.withoutSlashes.segments.getLast? == some [Path.dot]

/-- Removes an empty directory. -/
def removeDirectory (d : Disk) (p : Path) : Except Fault Disk :=
  match d.lstat p.withoutSlashes with
  | .error fault => .error fault
  | .ok (at_, .directory) =>
    if endsInDot p then .error (.os .invalidArgument)
    else if at_ = [] then .error (.os .busy)
    else if d.children at_ = [] then .ok (d.erase at_)
    else .error (.os .notEmpty)
  | .ok _ => .error (.os .notDirectory)

/-- Moves what is at `source`, with everything below it, to a free name in a directory that is not part of
it. -/
def moveTree (d : Disk) (source dir : Location) (name : Name) : Disk :=
  let moved (at_ : Location) : Location := at_.take (at_.length - source.length) ++ name :: dir
  let below := d.nodes.filter fun e => decide (source <:+ e.1)
  let ordered := below.mergeSort fun a b => a.1.length ≤ b.1.length
  let emptied := d.removeTree source
  let settled := ordered.foldl (fun d e => d.add (moved e.1).tail ((moved e.1).headD name) e.2) emptied
  { settled with cwd := if source <:+ d.cwd then moved d.cwd else d.cwd }

/-- Gives a file its permission bits. -/
def setMode (d : Disk) (number mode : Nat) : Disk :=
  d.setFile number { d.data number with mode := mode }

end Disk

end ReleaseBundle
