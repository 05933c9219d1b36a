import ReleaseBundle.CommandLine.Execute
import ReleaseBundle.Disk.Difference
import ReleaseBundle.Shell.Machine

/-!
# The executable

`main` takes a picture of the directory to release and of the toolchain, lets `CommandLine.run` work
on it, and carries out on the machine what differs afterwards. The system does not tell the permission
bits of a file here: one whose first line names an interpreter counts as executable.
-/

namespace ReleaseBundle.Machine

/-- The text that the system is given for a location. -/
def nameOf (at_ : Location) : String := (Disk.pathOf at_).display

/-- The file that was found to have this content. -/
def fileOf (content : Bytes) : FileData :=
  { content, mode := if Shell.Executable.isRunnable content then 0o755 else 0o644 }

/-- Adds to a picture what is at a location, what is below it, and where the links there lead. A link
that leads nowhere leads to a name that no entry has. -/
partial def look (d : Disk) (at_ : Location) : IO Disk := do
  if (d.node? at_).isSome && at_ != [] then return d
  let .ok path ← (IO.FS.realPath (nameOf at_)).toBaseIO
    | return d.place at_ (.link (.ofString "‹nowhere›"))
  let real := Disk.locationOf (.ofString path.toString)
  if real != at_ then return ← look (d.place at_ (.link (Disk.pathOf real))) real
  if ← path.isDir then
    let mut d := d.place at_ .directory
    for entry in ← path.readDir do
      if let some name := Name.ofBytes? (Text.ofString entry.fileName) then
        d ← look d (name :: at_)
    return d
  return d.placeFile at_ (fileOf (← IO.FS.readBinFile path).toList)

/-- The rights that three permission bits give. -/
def rights (bits : Nat) : IO.AccessRight := ⟨bits / 4 % 2 == 1, bits / 2 % 2 == 1, bits % 2 == 1⟩

/-- Carries out one change. Links cannot be made on this machine, and a missing one is left out. -/
def carryOut : Disk.Change → IO Unit
  | .vanished at_ .directory => IO.FS.removeDir (nameOf at_)
  | .vanished at_ _ => IO.FS.removeFile (nameOf at_)
  | .directory at_ => IO.FS.createDir (nameOf at_)
  | .link _ _ => pure ()
  | .file at_ data => do
    IO.FS.writeBinFile (nameOf at_) ⟨data.content.toArray⟩
    IO.setAccessRights (nameOf at_)
      ⟨rights (data.mode / 64), rights (data.mode / 8), rights data.mode⟩

/-- The paths that a run looks at: the directory to release, and where the toolchain may be. -/
def places (d : Disk) (searchPath : Option (List Path)) (arguments : List Bytes) : List Path :=
  match CommandLine.Arguments.parse arguments with
  | .error _ => []
  | .ok a =>
    let toolchain := Toolchain.candidates d searchPath (.ofString Command.standard.program)
    a.root.getD (Disk.pathOf d.cwd) :: toolchain.toOption.getD []

/-- A picture of what is at a path, added to another picture. What is not there is left out. -/
def visit (d : Disk) (path : Path) : IO Disk := do
  let path := (Disk.pathOf d.cwd).join path
  let .ok real ← (IO.FS.realPath path.display).toBaseIO | return d
  if path.components.contains .up then look d (Disk.locationOf (.ofString real.toString))
  else look d (Disk.locationOf path)

/-- Writes bytes to a channel. -/
def put (stream : IO.FS.Stream) (bytes : Bytes) : IO Unit := do
  stream.write ⟨bytes.toArray⟩
  stream.flush

end ReleaseBundle.Machine

open ReleaseBundle in
/-- Runs the program on this machine. -/
def main (args : List String) : IO UInt32 := do
  let arguments := args.map Text.ofString
  let here := Disk.locationOf (.ofString (← IO.currentDir).toString)
  let start := { Disk.empty with cwd := here }
  let searchPath := (← IO.getEnv "PATH").map Toolchain.directories
  let surroundings : CommandLine.Surroundings :=
    ⟨← IO.getEnv "TERM", (← IO.getEnv "NO_COLOR").isSome, ← IO.getEnv "RUST_LOG"⟩
  let seen ← (Machine.places start searchPath arguments).foldlM Machine.visit start
  let before := Shell.install (seen.place here .directory)
  let environment ← ["PATH", "HOME", "TERM", "NO_COLOR", "RUST_LOG"].filterMapM fun name => do
    return (← IO.getEnv name).map fun value => (name, value)
  let ending := CommandLine.run (Shell.host environment) surroundings arguments before
  (before.changesTo ending.disk).forM Machine.carryOut
  Machine.put (← IO.getStdout) ending.out
  Machine.put (← IO.getStderr) ending.err
  return .ofNat ending.exitCode
