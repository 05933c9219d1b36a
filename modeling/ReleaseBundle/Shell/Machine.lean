import ReleaseBundle.Disk.Difference
import ReleaseBundle.Shell.Run
import ReleaseBundle.Toolchain.Search

/-!
# A machine with a shell

`install` puts the programs of the system and its devices on a disk, and `host` is a machine on which these
programs and scripts can be started. The standard input of a program that is started is empty.
-/

namespace ReleaseBundle.Shell

open Act

/-- The names of all programs of the system. -/
def programNames : List String := shellNames ++ plainPrograms.map Prod.fst ++ launchers.map Prod.fst

/-- Puts a file of the system on a disk. -/
def installFile (name : String) (data : FileData) (d : Disk) : Disk :=
  d.placeFile (Disk.locationOf (.ofString name)) data

/-- Puts the programs and devices of the system on a disk. -/
def install (d : Disk) : Disk :=
  let programs := programNames.foldl
    (fun d name => installFile ("/usr/bin/" ++ name) (Executable.image name) d) d
  let links := Disk.place (Disk.locationOf (.ofString "/bin")) (.link (.ofString "usr/bin")) programs
  let files := devices.foldl (fun d device => installFile device.1 { content := [], mode := 0o666 } d) links
  Disk.place (Disk.locationOf (.ofString "/tmp")) .directory files

/-- A text of the shell for a text. -/
def shellText (t : String) : String := textOf (Text.ofString t)

/-- The number of the process that is started first. -/
def firstProcess : Nat := 4000

/-- A process that was just started, with its handles. -/
def initialState (environment : List (String × String)) (d : Disk) : State :=
  let p : Process :=
    { pid := firstProcess
      shell := firstProcess
      name := "sh"
      bindings := environment.map fun v => (shellText v.1, ⟨some (shellText v.2), true, false⟩)
      descriptors := [(0, 0), (1, 1), (2, 2)] }
  { disk := d
    handles :=
      [(0, ⟨.nothing, true, true, false, 0⟩), (1, ⟨.channel .out, true, true, false, 0⟩),
        (2, ⟨.channel .err, true, true, false, 0⟩)]
    next := firstProcess + 1
    process := p }

/-- Whether a text holds a NUL byte, which no program can be given. -/
def hasNul (text : String) : Bool := text.toList.contains '\x00'

/-- What is wrong with the directory that a program is to be started in. -/
def directoryFault? (d : Disk) (directory : Path) : Except Fault Location :=
  match d.stat directory with
  | .error fault => .error fault
  | .ok (at_, .directory) => .ok at_
  | .ok (_, _) => .error (.os .notDirectory)

/-- Runs the program in this process and what it put aside. -/
def main_ (path : String) (args : List String) : Act (Except Fault Nat) := do
  let r ← execute runner mostPrograms 0 path args
  settle runner none mostJobs
  settleOrphans runner mostJobs
  return r

/-- Starts a program and waits for it. -/
def launch (environment : List (String × String)) (l : Launch) : Job Fault ExitStatus := fun d =>
  if l.args.any hasNul || l.directory.bytes.contains 0 || l.executable.bytes.contains 0 then
    ⟨d, [], [], .error .nulInArgument⟩
  else
    match directoryFault? d l.directory with
    | .error fault => ⟨d, [], [], .error fault⟩
    | .ok at_ =>
      let path := textOf l.executable.bytes
      let start := initialState environment { d with cwd := at_ }
      let (result, ending) := match main_ path (path :: l.args.map shellText) start with
        | .ok (.ok status) s => (Except.ok (ExitStatus.exited (status % 256)), s)
        | .ok (.error fault) s => (.error fault, s)
        | .error stop s =>
          let s := match (do settle runner none mostJobs; settleOrphans runner mostJobs : Act Unit) s with
            | .ok _ s => s
            | .error _ s => s
          match stop.ending with
          | .exited status => (.ok (.exited status), s)
          | .killed _ => (.ok .signalled, s)
      let back (e : Disk) : Disk := { e with cwd := d.cwd }
      ⟨back ending.disk, ending.trace.reverse, ending.events.reverse, result⟩

/-- The machine with the given variables. -/
def host (environment : List (String × String)) : Host :=
  ⟨(environment.lookup "PATH").map Toolchain.directories, launch environment⟩

end ReleaseBundle.Shell
