import ReleaseBundle.Shell.State
import ReleaseBundle.Shell.Wildcard

/-!
# Opening files

Files are opened by their paths. Some paths lead to devices, which a disk holds as empty files so that they
can be found; what they lead to is recognised by where they are. A new file gets the permission bits that
the mask of the process leaves.
-/

namespace ReleaseBundle.Shell

export Wildcard (pathOf)

/-- What an open device leads to. -/
inductive Device where
  | target (t : Target)
  /-- The same as a descriptor of the process. -/
  | descriptor (n : Nat)
  /-- Something that is not there, though its file is. -/
  | absent

/-- The devices. -/
def devices : List (String × Device) :=
  [("/dev/null", .target .nothing), ("/dev/zero", .target .zeros), ("/dev/full", .target .full),
    ("/dev/stdin", .descriptor 0), ("/dev/stdout", .descriptor 1), ("/dev/stderr", .descriptor 2),
    ("/dev/fd/0", .descriptor 0), ("/dev/fd/1", .descriptor 1), ("/dev/fd/2", .descriptor 2),
    ("/dev/tty", .absent)]

/-- The device that a path leads to. -/
def device? (d : Disk) (p : Path) : Option Device :=
  match d.stat p with
  | .ok (at_, .file _) => devices.lookup (textOf (Disk.pathOf at_).bytes)
  | _ => none

namespace Act

/-- The permission bits that are left of some. -/
def unmasked (mode : Nat) : Act Nat := do
  let mask := (← process).mask
  return mode &&& (0o7777 ^^^ mask)

/-- Opens a file that a device does not stand for. -/
def openFile (p : Path) (mode : FileMode) (guarded : Bool) : Act (Except Fault Nat) := do
  let bits ← unmasked 0o666
  match mode with
  | .read =>
    match ← look fun d => d.openPath p with
    | .error fault => return .error fault
    | .ok .directory => return .ok (← newHandle ⟨.directory, true, false, false, 0⟩)
    | .ok (.file n _) => return .ok (← newHandle ⟨.file n, true, false, false, 0⟩)
  | .both | .append =>
    let isBoth := decide (mode = .both)
    let opened ← match ← look fun d => d.stat p with
      | .ok (_, .file n) => do
        let f ← look fun d => d.data n
        pure (if f.ownerWrites && (!isBoth || f.ownerReads) then .ok n else .error (.os .accessDenied))
      | _ => attempt fun d => d.openForWriting p bits
    match opened with
    | .error fault => return .error fault
    | .ok n => return .ok (← newHandle ⟨.file n, isBoth, true, !isBoth, 0⟩)
  | .write | .clobber =>
    let exists_ ← look fun d => d.isFile p
    if guarded && exists_ then return .error (.os .alreadyExists)
    else
      match ← attempt fun d => d.openForWriting p bits with
      | .error fault => return .error fault
      | .ok n => return .ok (← newHandle ⟨.file n, false, true, false, 0⟩)

/-- Opens a path; a guarded one is not written to if it exists. -/
def openPath (t : String) (mode : FileMode) (guarded : Bool) : Act (Except Fault Nat) := do
  let p := pathOf t
  match ← look fun d => device? d p with
  | some (.target target) => return .ok (← newHandle ⟨target, true, true, false, 0⟩)
  | some (.descriptor n) =>
    match ← handle? n with
    | some number => return .ok number
    | none => return .error (.numbered 6)
  | some .absent => return .error (.numbered 6)
  | none => openFile p mode guarded

/-- The bytes of the file at a path. -/
def contentsOf (t : String) : Act (Except Fault Bytes) := do
  match ← openPath t .read false with
  | .error fault => return .error fault
  | .ok number => readHandle number List.length

end Act

end ReleaseBundle.Shell
