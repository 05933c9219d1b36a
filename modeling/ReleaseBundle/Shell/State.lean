import ReleaseBundle.Job
import ReleaseBundle.Shell.Script

/-!
# Processes

What a running script can change: the disk, the files that are open, and the process itself with its
variables, descriptors and options. A subshell is a process that begins as a copy of its parent, and
nothing that it does to itself reaches the parent; what it does to the disk and to open files does.

An `Act` is a step of a process. It answers a value, or a reason to stop that travels outwards until
someone catches it: a loop, a function, or the end of the process.
-/

namespace ReleaseBundle.Shell

/-- What an open file leads to. -/
inductive Target where
  | channel (c : Channel)
  | file (number : Nat)
  | directory
  /-- What was written and is still to be read. -/
  | pipe (waiting : Bytes)
  /-- What is still to be read of something that is written again and again without end. -/
  | cycle (waiting round : Bytes)
  /-- Takes everything, and has nothing to read. -/
  | nothing
  /-- Takes everything, and has zeros to read without end. -/
  | zeros
  /-- Takes nothing. -/
  | full
  deriving DecidableEq

/-- An open file: descriptors of several processes can share it, and its position with it. -/
structure Handle where
  target : Target
  reads : Bool
  writes : Bool
  /-- Whether everything is written at the end. -/
  appends : Bool := false
  position : Nat := 0
  deriving DecidableEq

/-- A variable of the shell. It has no value if it was only declared. -/
structure Variable where
  value : Option String
  exported : Bool := false
  readOnly : Bool := false

/-- A process. -/
structure Process where
  pid : Nat
  /-- The processes that this one comes from, the nearest first. -/
  ancestors : List Nat := []
  /-- The process that `$$` names. -/
  shell : Nat
  /-- The name that messages begin with. -/
  name : String
  /-- The builtin that is running, which messages name too. -/
  speaker : Option String := none
  /-- The file that a larger shell reads commands from in place of its own script. -/
  sourced : Option String := none
  line : Nat := 0
  arguments : List String := []
  bindings : List (String × Variable) := []
  functions : List (String × Command) := []
  options : List Char := []
  status : Nat := 0
  /-- The status of the last command substitution of a command. -/
  substituted : Option Nat := none
  /-- The last process in the background. -/
  background : Option Nat := none
  descriptors : List (Nat × Nat) := []
  /-- The working directory as it was reached, with its links. -/
  directory : String := "/"
  /-- What signals do; zero stands for the end of the process. -/
  traps : List (Nat × String) := []
  mask : Nat := 0o022
  /-- How many loops and how many functions are running. -/
  loops : Nat := 0
  calls : Nat := 0
  /-- The variables that functions hide. -/
  hidden : List (List (String × Option Variable)) := []
  /-- How far `getopts` got in its argument. -/
  optionOffset : Nat := 0
  /-- Why the first text for the standard output that got lost could not be written. -/
  unwritten : Option Fault := none
  /-- Where the programs are that were looked for, the last first. -/
  located : List (String × String) := []
  /-- Whether the shell is the larger one, which knows more and words its messages in another way. -/
  extended : Bool := false

/-- A process in the background. It runs when it is waited for. -/
structure BackgroundJob where
  pid : Nat
  owner : Nat
  command : Command
  process : Process
  directory : Location

/-- How a process ended. -/
inductive Ending where
  | exited (status : Nat)
  | killed (signal : Nat)

/-- The status that a shell shows for an ending. -/
def Ending.status : Ending → Nat
  | exited status => status
  | killed signal => 128 + signal

structure State where
  disk : Disk
  /-- The disks that changes led to, the last first. -/
  trace : List Disk := []
  /-- What was reported, the last first. -/
  events : List Event := []
  handles : List (Nat × Handle) := []
  /-- A number that is not used yet for a handle, a process or a document. -/
  next : Nat
  /-- Signals on their way to processes, the last first. -/
  signals : List (Nat × Nat) := []
  documents : List Document := []
  jobs : List BackgroundJob := []
  /-- How processes in the background ended. -/
  ended : List (Nat × Ending) := []
  process : Process

/-- Why a process stops what it does. -/
inductive Stop where
  | exited (status : Nat)
  /-- Something went wrong that a script does not go on after. -/
  | failed
  | killed (signal : Nat)
  | returned (status : Nat)
  | broken (loops : Nat)
  | continued (loops : Nat)

/-- A step of a process. -/
abbrev Act := EStateM Stop State

/-- The ending that a reason to stop leads to. -/
def Stop.ending : Stop → Ending
  | exited status => .exited (status % 256)
  | failed => .exited 2
  | killed signal => .killed signal
  | returned status => .exited (status % 256)
  | broken _ => .exited 0
  | continued _ => .exited 0

namespace Act

variable {α : Type}

def process : Act Process := return (← get).process

def setProcess (f : Process → Process) : Act Unit :=
  modify fun s => { s with process := f s.process }

/-- Looks at the disk. -/
def look (f : Disk → α) : Act α := return f (← get).disk

/-- Changes the disk. -/
def change (f : Disk → Disk) : Act Unit :=
  modify fun s =>
    let d := f s.disk
    { s with disk := d, trace := d :: s.trace }

/-- Changes the disk, or leaves it alone and answers why. -/
def attempt (f : Disk → Except Fault (Disk × α)) : Act (Except Fault α) := do
  match f (← get).disk with
  | .error fault => return .error fault
  | .ok (d, a) =>
    modify fun s => { s with disk := d, trace := d :: s.trace }
    return .ok a

/-- A number that nothing else has. -/
def fresh : Act Nat := do
  let n := (← get).next
  modify fun s => { s with next := n + 1 }
  return n

/-- Does something and then puts back a part of the state, however it ends. -/
def restoring (putBack : State → State → State) (a : Act α) : Act α := fun before =>
  match a before with
  | .ok r after => .ok r (putBack before after)
  | .error e after => .error e (putBack before after)

/-- Does something with other descriptors. -/
def withDescriptors (a : Act α) : Act α :=
  restoring
    (fun before after =>
      { after with process := { after.process with descriptors := before.process.descriptors } })
    a

/-- Goes on in a new process that begins as a copy of this one. -/
def inChild (a : Act Nat) : Act Ending := do
  let pid ← fresh
  let putBack (before after : State) : State :=
    { after with
      process := before.process
      disk := { after.disk with cwd := before.disk.cwd } }
  restoring putBack fun s =>
    let child : Process :=
      { s.process with pid := pid, ancestors := s.process.pid :: s.process.ancestors }
    match a { s with process := child } with
    | .ok status after => .ok (.exited (status % 256)) after
    | .error stop after => .ok stop.ending after

/-! ## Variables -/

/-- Gives a name its entry, in place or at the end. -/
def entered (name : String) (v : Variable) : List (String × Variable) → List (String × Variable)
  | [] => [(name, v)]
  | e :: es => if e.1 = name then (name, v) :: es else e :: entered name v es

def entry? (name : String) : Act (Option Variable) := return (← process).bindings.lookup name

/-- The value of a variable. -/
def value? (name : String) : Act (Option String) := return (← entry? name).bind Variable.value

def enter (name : String) (v : Variable) : Act Unit :=
  setProcess fun p => { p with bindings := entered name v p.bindings }

def hasOption (c : Char) : Act Bool := return (← process).options.contains c

/-! ## Open files -/

/-- The open file that a descriptor stands for. -/
def handle? (descriptor : Nat) : Act (Option Nat) :=
  return (← process).descriptors.lookup descriptor

def setHandle (number : Nat) (h : Handle) : Act Unit :=
  modify fun s =>
    { s with handles := s.handles.map fun e => if e.1 = number then (number, h) else e }

/-- Opens a file, without a descriptor yet. -/
def newHandle (h : Handle) : Act Nat := do
  let n ← fresh
  modify fun s => { s with handles := (n, h) :: s.handles }
  return n

/-- Lets a descriptor stand for an open file. -/
def bindDescriptor (descriptor number : Nat) : Act Unit :=
  setProcess fun p =>
    { p with
      descriptors := (descriptor, number) :: p.descriptors.filter fun e => e.1 != descriptor }

def closeDescriptor (descriptor : Nat) : Act Unit :=
  setProcess fun p => { p with descriptors := p.descriptors.filter fun e => e.1 != descriptor }

/-- The bytes of a file with other bytes in them from a position on. -/
def overwritten (content : Bytes) (position : Nat) (bytes : Bytes) : Bytes :=
  if position = content.length then content ++ bytes
  else
    content.take position ++ List.replicate (position - content.length) 0 ++ bytes ++
      content.drop (position + bytes.length)

/-- Writes to an open file, or answers why that fails. -/
def writeHandle (number : Nat) (bytes : Bytes) : Act (Option Fault) := do
  match (← get).handles.lookup number with
  | none => return some (.numbered 9)
  | some h =>
    if !h.writes then return some (.numbered 9)
    else if bytes.isEmpty then return none
    else
      match h.target with
      | .channel c =>
        modify fun s => { s with events := .wrote c bytes :: s.events }
        return none
      | .file file =>
        let content ← look fun d => (d.data file).content
        let position := if h.appends then content.length else h.position
        change fun d =>
          d.setFile file { d.data file with content := overwritten content position bytes }
        setHandle number { h with position := position + bytes.length }
        return none
      | .pipe waiting =>
        setHandle number { h with target := .pipe (waiting ++ bytes) }
        return none
      | .nothing | .zeros | .cycle _ _ => return none
      | .full => return some (.os .noSpace)
      | .directory => return some (.numbered 9)

/-- How many bytes are read at once where there is no end. -/
def blockSize : Nat := 1048576

/-- Reads as many bytes from an open file as a function of what there is says. -/
def readHandle (number : Nat) (count : Bytes → Nat) : Act (Except Fault Bytes) := do
  match (← get).handles.lookup number with
  | none => return .error (.numbered 9)
  | some h =>
    if !h.reads then return .error (.numbered 9)
    else
      match h.target with
      | .file file =>
        match ← look fun d => (d.data file).read with
        | .error fault => return .error fault
        | .ok content =>
          let there := content.drop h.position
          let taken := there.take (count there)
          setHandle number { h with position := h.position + taken.length }
          return .ok taken
      | .pipe waiting =>
        let n := count waiting
        setHandle number { h with target := .pipe (waiting.drop n) }
        return .ok (waiting.take n)
      | .cycle waiting round =>
        let there := waiting ++ (List.replicate (blockSize / max 1 round.length) round).flatten
        let n := count there
        let after := (n - waiting.length) % max 1 round.length
        let next := if n ≤ waiting.length then waiting.drop n else if after = 0 then [] else round.drop after
        setHandle number { h with target := .cycle next round }
        return .ok (there.take n)
      | .zeros =>
        let there := List.replicate blockSize 0
        return .ok (there.take (count there))
      | .directory => return .error (.os .isDirectory)
      | .channel _ | .nothing | .full => return .ok []

/-- Writes to a descriptor, or answers why that fails. -/
def write (descriptor : Nat) (bytes : Bytes) : Act (Option Fault) := do
  match (← process).descriptors.lookup descriptor with
  | some number => writeHandle number bytes
  | none => return some (.numbered 9)

/-- Reads as many bytes from a descriptor as a function of what there is says. -/
def read (descriptor : Nat) (count : Bytes → Nat) : Act (Except Fault Bytes) := do
  match (← process).descriptors.lookup descriptor with
  | some number => readHandle number count
  | none => return .error (.numbered 9)

/-- Everything that is left to read. -/
def readAll (descriptor : Nat) : Act (Except Fault Bytes) := read descriptor List.length

/-- Writes a text to the standard output; what keeps it from there is noted. -/
def print (t : String) : Act Unit := do
  if t = "" then return
  let fault? ← write 1 (bytesOf t)
  if fault?.isSome then setProcess fun p => { p with unwritten := p.unwritten <|> fault? }

/-- Writes a line to the standard errors. -/
def complain (t : String) : Act Unit := do
  let _ ← write 2 (bytesOf (t ++ "\n"))

/-! ## Messages -/

/-- Says that something is wrong, in the name of the script. -/
def warn (t : String) : Act Unit := do
  let p ← process
  let who := match p.speaker with
    | some name => name ++ ": "
    | none => ""
  let place := if p.extended then "line " ++ toString p.line else toString p.line
  complain (p.sourced.getD p.name ++ ": " ++ place ++ ": " ++ who ++ t)

/-- Whether the shell is the larger one. -/
def isExtended : Act Bool := return (← process).extended

/-- The status of a builtin that goes wrong. -/
def mistakeStatus : Act Nat := return if ← isExtended then 1 else 2

/-- Says that something is wrong, and stops. -/
def fail (t : String) : Act α := do
  warn t
  throw .failed

/-- Says what keeps a word from being expanded, which ends the script. -/
def refuse (t : String) : Act α := do
  warn t
  throw (if ← isExtended then .exited 1 else .failed)

/-- Forgets where programs are, because they are looked for in other places from now on. -/
def forgetLocated : Act Unit := setProcess fun p => { p with located := [] }

/-- Gives a variable a value. -/
def assign (name value : String) : Act Unit := do
  if name = "PATH" then forgetLocated
  let v := (← entry? name).getD ⟨none, false, false⟩
  if v.readOnly then fail (name ++ ": is read only")
  let exported := v.exported || (← hasOption 'a')
  enter name { v with value := some value, exported := exported }

end Act

/-- The text of a fault without its number. -/
def reason : Fault → String
  | .os e => e.description
  | .numbered code => ErrorNumber.text code
  | fault => fault.message

end ReleaseBundle.Shell
