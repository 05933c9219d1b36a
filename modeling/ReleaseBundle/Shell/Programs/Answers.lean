import ReleaseBundle.Shell.Builtins
import ReleaseBundle.Shell.Executable
import ReleaseBundle.Shell.Programs.Lines

/-!
# Programs that answer

Small programs that print their arguments, tell something about the system, or answer a question by their
status.
-/

namespace ReleaseBundle.Shell.Programs

open Act

/-! ## Printing arguments -/

def echo : Program := fun args => do
  print (Shell.Format.spoken args)
  return 0

/-- The words for what is wrong with an argument or a format. -/
def formatProblem (t : String) : String :=
  let ending (e : String) : Option String := if t.endsWith e then some (t.dropEnd e.length).toString else none
  match ending ": expected numeric value", ending ": not completely converted", ending ": invalid directive" with
  | some a, _, _ => cited a ++ ": expected a numeric value"
  | _, some a, _ => cited a ++ ": value not completely converted"
  | _, _, some a => a ++ ": invalid conversion specification"
  | _, _, _ => t

def printFormatted : Program := fun args => do
  let m : Manual := { program := "printf", flags := "" }
  let args := if args.head? = some "--" then args.tail else args
  match args with
  | [] => m.misused "missing operand"
  | format :: args => do
    let p := Shell.Format.filled format args
    print (String.ofList p.text.reverse)
    p.problems.reverse.forM fun t => m.complain (formatProblem t)
    if !p.wrong && !p.ended && !p.args.isEmpty then
      m.complain ("warning: ignoring excess arguments, starting with " ++ cited (p.args.headD ""))
    return if p.problems.isEmpty then 0 else 1

/-- How many lines are printed by a program that would never end, where no pipe takes them. -/
def mostRepetitions : Nat := 20000

def repeatForever : Program :=
  let m : Manual := { program := "yes", flags := "" }
  m.run fun a => do
    let line := (if a.operands.isEmpty then "y" else " ".intercalate a.operands) ++ "\n"
    let output ← handle? 1
    let s ← get
    match output.bind fun n => (s.handles.lookup n).map fun h => (n, h) with
    | some (n, h) =>
      match h.target with
      | .pipe waiting => setHandle n { h with target := .cycle waiting (bytesOf line) }
      | _ => print (String.join (List.replicate mostRepetitions line))
    | none => print line
    return 0

/-! ## Answering by the status -/

def always (status : Nat) : Program := fun _ => return status

def test (closing : Bool) : Program := fun args => do
  let m : Manual := { program := if closing then "[" else "test", flags := "" }
  if closing && args.getLast? != some "]" then do
    m.complain "missing ']'"
    return 2
  else
    match Condition.holds (← get).disk (if closing then args.dropLast else args) with
    | .ok b => return if b then 0 else 1
    | .error e => do
      m.complain e
      return 2

def whereIs : Program :=
  let m : Manual := { program := "which", flags := "as", misuse := 2 }
  m.run fun a => do
    let d := (← get).disk
    if a.operands.isEmpty then return 1
    else
      forEach
        (fun name => do
          match ← findProgram name with
          | .ok path =>
            if (Executable.file? d (pathOf path)).isOk then do
              if !a.has 's' then print (path ++ "\n")
              return 0
            else return 1
          | .error _ => return 1)
        a.operands

/-! ## The system -/

def systemName : Program :=
  let m : Manual :=
    { program := "uname", flags := "asnrvmpio"
      long := [("all", 'a'), ("kernel-name", 's'), ("nodename", 'n'), ("kernel-release", 'r'),
        ("machine", 'm'), ("operating-system", 'o')] }
  m.run fun a => do
    match a.operands with
    | extra :: _ => m.misused ("extra operand " ++ cited extra)
    | [] => do
      let has (c : Char) := a.has c || a.has 'a'
      let parts := [(if has 's' || a.options.isEmpty then "Linux" else ""), (if has 'n' then "localhost" else ""),
        (if has 'r' then "6.1.0" else ""), (if has 'v' then "#1 SMP" else ""), (if has 'm' then "x86_64" else ""),
        (if a.hasAny "pi" then "unknown" else ""), (if has 'o' then "GNU/Linux" else "")]
      print (" ".intercalate (parts.filter (· != "")) ++ "\n")
      return 0

/-- The time at which everything happens. -/
def date : Program := fun _ => do
  print "Thu Jan  1 00:00:00 UTC 1970\n"
  return 0

/-- Who runs everything. -/
def owner : Program :=
  let m : Manual := { program := "id", flags := "ugGnr" }
  m.run fun a => do
    if let some t := a.operands.find? fun t => t != "root" && t != "0" then
      return ← m.failed (cited t ++ ": no such user")
    print (if a.options.isEmpty then "uid=0(root) gid=0(root) groups=0(root)\n"
      else if a.has 'n' then "root\n" else "0\n")
    return 0

def ownerName : Program :=
  let m : Manual := { program := "whoami", flags := "" }
  m.run fun a => do
    match a.operands with
    | extra :: _ => m.misused ("extra operand " ++ cited extra)
    | [] => do
      print "root\n"
      return 0

def terminal : Program :=
  let m : Manual := { program := "tty", flags := "s", misuse := 2 }
  m.run fun a => do
    match a.operands with
    | extra :: _ => m.misused ("extra operand " ++ cited extra)
    | [] => do
      if !a.has 's' then print "not a tty\n"
      return 1

end ReleaseBundle.Shell.Programs
