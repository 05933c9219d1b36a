import ReleaseBundle.Shell.Catalogue

/-!
# Running programs

A process becomes another program: it keeps its descriptors, its directory and the variables that are
exported, and forgets the rest. Scripts are handed to the program that their first line names.
-/

namespace ReleaseBundle.Shell

open Act

/-- What a shell finds in its variables besides what it was given. -/
def standardVariables (parent : Nat) : List (String × Variable) :=
  [("IFS", ⟨some Glyph.standardSeparators, false, false⟩), ("OPTIND", ⟨some "1", false, false⟩),
    ("PPID", ⟨some (toString parent), false, false⟩), ("PS1", ⟨some "# ", false, false⟩),
    ("PS2", ⟨some "> ", false, false⟩), ("PS4", ⟨some "+ ", false, false⟩)]

/-- Where programs are looked for if nothing says so. -/
def standardSearchPath : String := "/usr/local/sbin:/usr/local/bin:/usr/sbin:/usr/bin:/sbin:/bin"

/-- Forgets what does not outlive the start of a program. -/
def forgetProgram (p : Process) : Process :=
  { p with
    bindings := p.bindings.filter fun v => v.2.exported && v.2.value.isSome
    functions := []
    options := []
    traps := p.traps.filter fun t => t.2 = ""
    speaker := none
    sourced := none
    arguments := []
    status := 0
    background := none
    loops := 0
    calls := 0
    hidden := []
    optionOffset := 0
    unwritten := none
    located := []
    extended := false }

/-- Makes the variables of a shell out of what it was given. -/
def prepareShell : Act Unit := do
  let here ← look fun d => textOf (Disk.pathOf d.cwd).bytes
  let p ← process
  let given := p.bindings.map fun v => (v.1, { v.2 with readOnly := false })
  let pwd := ((given.lookup "PWD").bind Variable.value).getD ""
  let cwd ← look fun d => d.cwd
  let isHere ← look fun d => match d.stat (pathOf pwd) with
    | .ok (at_, .directory) => at_ == cwd && pwd.startsWith "/"
    | _ => false
  let directory := if isHere then pwd else here
  let parent := p.ancestors.headD 1
  let extra := (standardVariables parent).filter fun v => (given.lookup v.1).isNone || v.1 != "PS4"
  let path := if (given.lookup "PATH").isNone then [("PATH", Variable.mk (some standardSearchPath) false false)]
    else []
  let others := given.filter fun v => (extra.lookup v.1).isNone
  setProcess fun p => { p with shell := p.pid, directory := directory, bindings := extra ++ path ++ others }
  enter "PWD" ⟨some directory, true, false⟩

/-- How a shell was asked to work. -/
structure ShellUse where
  command : Bool := false
  input : Bool := false
  operands : List String := []

/-- Reads the options of a shell. -/
def shellUse (u : ShellUse) : List String → Act ShellUse
  | [] => return u
  | "--" :: rest => return { u with operands := rest }
  | "-" :: rest => return { u with operands := rest }
  | a :: rest => do
    match a.toList with
    | sign :: c :: cs =>
      if sign = '-' ∨ sign = '+' then
        let letters := c :: cs
        let u := { u with command := u.command || letters.contains 'c', input := u.input || letters.contains 's' }
        letters.forM fun c =>
          if c = 'c' ∨ c = 's' ∨ c = 'o' then pure ()
          else if optionLetters.contains c then Builtin.switch (sign = '-') c
          else fail ("Illegal option " ++ sign.toString ++ c.toString)
        if letters.contains 'o' then
          match rest with
          | [] => return u
          | name :: rest => do
            match ← Builtin.namedOption? name with
            | some c => Builtin.switch (sign = '-') c
            | none => fail ("Illegal option -o " ++ name)
            shellUse u rest
        else shellUse u rest
      else return { u with operands := a :: rest }
    | _ => return { u with operands := a :: rest }

/-- A shell that was started with arguments. -/
def shell (run : Runner) (name : String) (args : List String) : Act Nat := do
  setProcess fun p => { p with name := name, line := 0 }
  prepareShell
  finishing run do
    let u ← shellUse {} args
    let running (text : String) : Act Nat := Builtin.returning (evaluate run false text)
    if u.command then
      match u.operands with
      | [] => fail "-c requires an argument"
      | text :: rest => do
        setProcess fun p => { p with name := rest.headD name, arguments := rest.tail }
        running text
    else
      match u.input, u.operands with
      | false, path :: rest => do
        match ← openPath path .read false with
        | .error fault =>
          fail ("cannot open " ++ path ++ ": " ++
            (if fault = .os .notFound ∨ fault = .os .notDirectory then "No such file" else reason fault))
        | .ok number => do
          setProcess fun p => { p with name := path, arguments := rest }
          match ← readHandle number List.length with
          | .ok content => running (textOf content)
          | .error _ => return 0
      | _, rest => do
        setProcess fun p => { p with arguments := rest }
        match ← readAll 0 with
        | .ok content => running (textOf content)
        | .error _ => return 0

/-- The names of shells. -/
def shellNames : List String := ["sh", "dash", "bash"]

/-- How many scripts may name each other as their programs. -/
def mostInterpreters : Nat := 5

/-- Turns this process into a program in the given way. What is no program is a script of the shell; the
extended shell wants it to look like one. -/
def becomeBy (execute : String → List String → Act (Except Fault Nat)) (path : String) (args : List String) :
    Act (Except Fault Nat) := do
  match ← execute path args with
  | .error (.os .badFormat) =>
    if !(← process).extended || (← look fun d => Executable.isText d (pathOf path)) then
      execute "/bin/sh" ("/bin/sh" :: path :: args.tail)
    else return .error (.os .badFormat)
  | r => return r

/-- Turns this process into the program that words name, which is looked for. -/
def startBy (execute : String → List String → Act (Except Fault Nat)) : Start := fun words => do
  let name := words.headD ""
  if (← value? "PATH").isNone then enter "PATH" ⟨some Programs.defaultSearchPath, false, false⟩
  match ← findProgram name with
  | .error fault => return .error fault
  | .ok path => becomeBy execute path words

/-- The status of a program that is told how to end, unless it could not write all it had to say: then it
says so last. -/
def afterWriting (program : String) (status : Nat) : Act Nat := do
  let p ← process
  match p.unwritten, writeFailure program with
  | some fault, some (status, what) => do
    setProcess fun p => { p with unwritten := none }
    complain (p.name ++ ": " ++ what ++ ": " ++ reason fault)
    return status
  | _, _ => return status

/-- Turns this process into the program at a path. The first argument is its name. -/
def execute (run : Runner) : Nat → Nat → String → List String → Act (Except Fault Nat)
  | 0, _, _, _ => return .error (.os .tooManyLinks)
  | limit + 1, nested, path, args => do
    match ← look fun d => Executable.at? d (pathOf path) with
    | .error fault => return .error fault
    | .ok (.script interpreter argument) =>
      if mostInterpreters ≤ nested then return .error (.os .tooManyLinks)
      else execute run limit (nested + 1) interpreter (interpreter :: argument.toList ++ path :: args.tail)
    | .ok (.program name) => do
      setProcess forgetProgram
      if shellNames.contains name then
        setProcess fun p => { p with extended := name = "bash" }
        return .ok (← shell run (args.headD name) args.tail)
      else do
        setProcess fun p => { p with name := args.headD name }
        let status ← match plainPrograms.lookup name, launchers.lookup name with
          | some program, _ => program args.tail
          | none, some launcher => launcher (startBy (execute run limit 0)) args.tail
          | none, none => pure 0
        return .ok (← afterWriting name status)

/-- How many programs may be turned into each other. -/
def mostPrograms : Nat := 200

/-- Turns this process into the program at a path; a text that is no program is a script of the shell. -/
def become (run : Runner) (path : String) (args : List String) : Act (Except Fault Nat) :=
  becomeBy (execute run mostPrograms 0) path args

end ReleaseBundle.Shell
