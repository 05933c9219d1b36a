import ReleaseBundle.Shell.Expansion
import ReleaseBundle.Shell.Reader
import ReleaseBundle.Shell.Signal

/-!
# Running commands inside commands

What builtins and programs need of the shell that runs them: evaluating texts, subshells, traps and
processes in the background. All of it is given the function that runs a command.

A process in the background is put aside when it is started, and runs when its parent waits for it or
ends. So what it prints comes as late as possible, and a signal that is sent to it before comes first.
-/

namespace ReleaseBundle.Shell

/-- Runs a command. One that is tested may fail without ending the shell, whatever its options say. -/
abbrev Runner := Bool → Command → Act Nat

namespace Act

def status : Act Nat := return (← process).status

def setStatus (n : Nat) : Act Unit := setProcess fun p => { p with status := n }

/-- Runs commands in order; the answer is the status of the last one. -/
def inOrder (run : Runner) (tested : Bool) : List Command → Act Nat
  | [] => status
  | c :: cs => do
    let _ ← run tested c
    inOrder run tested cs

/-- Runs a text as a script whose first line has the given number. -/
def evaluateFrom (line : Nat) (run : Runner) (tested : Bool) (text : String) : Act Nat := do
  let script := Script.read text line (← get).next
  modify fun s =>
    { s with
      next := s.next + text.length + 1
      documents := script.documents ++ s.documents }
  let last ← if script.lines.isEmpty then pure 0 else inOrder run tested script.lines
  match script.mistake with
  | some m => do
    setProcess fun p => { p with line := m.line }
    fail m.message
  | none => return last

/-- Runs a text as a script. -/
def evaluate (run : Runner) (tested : Bool) (text : String) : Act Nat := evaluateFrom 1 run tested text

/-! ## Signals -/

/-- Lets the signals that were sent to this process have their effect. -/
def deliver (run : Runner) : Act Unit := do
  let pid := (← process).pid
  let mine := ((← get).signals.filter fun e => e.1 == pid).reverse
  if mine.isEmpty then return
  modify fun s => { s with signals := s.signals.filter fun e => e.1 != pid }
  mine.forM fun (_, n) => do
    let traps := (← process).traps
    match if n = 9 then none else traps.lookup n with
    | some "" => return
    | some action => do
      let before ← status
      let _ ← evaluate run false action
      setStatus before
    | none => if n != 0 && !Signal.isHarmless n then throw (.killed n)

/-- Does something and then what is to be done at the end of the process. -/
def finishing (run : Runner) (a : Act Nat) : Act Nat := do
  let ending : Ending ← fun s =>
    match a s with
    | .ok n s => .ok (.exited n) s
    | .error stop s => .ok stop.ending s
  match ending with
  | .killed n => throw (.killed n)
  | .exited n =>
    match (← process).traps.lookup 0 with
    | none | some "" => return n
    | some action => do
      setProcess fun p => { p with traps := p.traps.filter fun t => t.1 != 0, status := n }
      let _ ← evaluate run false action
      return n

/-! ## Processes in the background -/

/-- Runs a process that was put aside. -/
def runJob (run : Runner) (j : BackgroundJob) : Act Unit := do
  modify fun s => { s with jobs := s.jobs.filter fun k => k.pid != j.pid }
  let putBack (before after : State) : State :=
    { after with
      process := before.process
      disk := { after.disk with cwd := before.disk.cwd } }
  let ending : Ending ← restoring putBack fun s =>
    match finishing run (run false j.command)
        { s with process := j.process, disk := { s.disk with cwd := j.directory } } with
    | .ok n s => .ok (.exited n) s
    | .error stop s => .ok stop.ending s
  modify fun s => { s with ended := (j.pid, ending) :: s.ended }

/-- Runs what this process put aside, up to a given process. -/
def settle (run : Runner) (upTo : Option Nat) : Nat → Act Unit
  | 0 => return
  | limit + 1 => do
    let pid := (← process).pid
    match (← get).jobs.find? fun j => j.owner == pid with
    | none => return
    | some j => do
      runJob run j
      if upTo != some j.pid then settle run upTo limit

/-- Runs what processes put aside that are gone by now. -/
def settleOrphans (run : Runner) : Nat → Act Unit
  | 0 => return
  | limit + 1 => do
    let p ← process
    match (← get).jobs.find? fun j => j.owner != p.pid && !p.ancestors.contains j.owner with
    | none => return
    | some j => do
      runJob run j
      settleOrphans run limit

/-- How many processes may be put aside. -/
def mostJobs : Nat := 10000

/-- Puts a command aside as a process in the background. -/
def putAside (c : Command) : Act Unit := do
  let pid ← fresh
  let nothing ← newHandle ⟨.nothing, true, true, false, 0⟩
  let s ← get
  let p := s.process
  let child : Process :=
    { p with
      pid := pid
      ancestors := p.pid :: p.ancestors
      traps := p.traps.filter fun t => t.2 = ""
      descriptors := (0, nothing) :: p.descriptors.filter fun e => e.1 != 0 }
  let j : BackgroundJob := ⟨pid, p.pid, c, child, s.disk.cwd⟩
  set { s with jobs := s.jobs ++ [j] }
  setProcess fun p => { p with background := some pid }

/-! ## Subshells -/

/-- Runs something in a new process, and what that put aside. -/
def child (run : Runner) (a : Act Nat) : Act Ending := do
  let ending ← inChild a
  settleOrphans run mostJobs
  let p ← process
  if ((p.traps.lookup Signal.childEnded).filter (· != "")).isSome then
    modify fun s => { s with signals := (p.pid, Signal.childEnded) :: s.signals }
  return ending

/-- Runs something in a subshell. -/
def subshell (run : Runner) (a : Act Nat) : Act Ending :=
  child run do
    setProcess fun p => { p with traps := p.traps.filter fun t => t.2 = "" }
    finishing run a

/-- The status of a process that ended, after a notice of what ended it. -/
def noticed (e : Ending) : Act Nat := do
  match e with
  | .killed n => if let some text := Signal.notice? n then complain text
  | .exited _ => pure ()
  return e.status

/-- The output of a command, without the ends of lines at its end. -/
def capture (run : Runner) : Capture := fun c => do
  let pipe ← newHandle ⟨.pipe [], true, true, false, 0⟩
  let ending ← subshell run do
    bindDescriptor 1 pipe
    run false c
  setProcess fun p =>
    { p with
      substituted := some ending.status
      status := if p.extended then ending.status else p.status }
  deliver run
  match ← readHandle pipe List.length with
  | .ok bytes =>
    let shown := bytes.filter (· != 0)
    return textOf (shown.reverse.dropWhile (· == 0x0A)).reverse
  | .error _ => return ""

end Act

end ReleaseBundle.Shell
