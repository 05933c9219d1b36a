import ReleaseBundle.Shell.Condition
import ReleaseBundle.Shell.Evaluation
import ReleaseBundle.Shell.Executable
import ReleaseBundle.Shell.Format
import ReleaseBundle.Shell.Programs.Mode

/-!
# Builtins

The commands that the shell carries out itself, because they change the shell or because they are so
frequent. Some of them are special: a mistake in their use ends the script, and variables that are set for
them stay set.
-/

namespace ReleaseBundle.Shell

/-- A command of the shell itself. It gets what runs commands, and whether it is tested. -/
abbrev Builtin := Runner → Bool → List String → Act Nat

namespace Builtin

open Act

/-! ## Output -/

/-- Prints a text for a builtin that goes well. -/
def printed (t : String) : Act Nat := do
  print t
  return 0

/-! ## Options -/

/-- Reads the letters of one argument as options. A colon in `known` marks the letter before it as one
with a value, which is the rest of the argument or the next argument. -/
def lettersOf (known : List Char) (others : List String) : List Char →
    Act (List (Char × String) × List String)
  | [] => return ([], others)
  | c :: cs =>
    match (if c = ':' then [] else known.dropWhile (· != c)), cs, others with
    | [], _, _ => fail ("Illegal option -" ++ c.toString)
    | _ :: ':' :: _, [], [] => fail ("No arg for -" ++ c.toString ++ " option")
    | _ :: ':' :: _, [], value :: others => return ([(c, value)], others)
    | _ :: ':' :: _, cs, _ => return ([(c, String.ofList cs)], others)
    | _, cs, _ => do
      let (found, others) ← lettersOf known others cs
      return ((c, "") :: found, others)

/-- Splits the options off so many arguments. -/
def optionsAmong (known : String) (args : List String) : Nat → Act (List (Char × String) × List String)
  | 0 => return ([], args)
  | n + 1 =>
    match args with
    | [] => return ([], [])
    | a :: others =>
      match a.toList with
      | ['-', '-'] => return ([], others)
      | '-' :: c :: cs => do
        let (found, others) ← lettersOf known.toList others (c :: cs)
        let (more, others) ← optionsAmong known others n
        return (found ++ more, others)
      | _ => return ([], args)

/-- Splits the options off the arguments of a builtin. -/
def optionsOf (known : String) (args : List String) : Act (List (Char × String) × List String) :=
  optionsAmong known args args.length

/-- The arguments of a builtin that has no options. -/
def operandsOf (args : List String) : Act (List String) :=
  return (← optionsOf "" args).2

def echo : Builtin := fun _ _ args => do
  printed (if ← isExtended then Format.spoken args else Format.echoed args)

def printf : Builtin := fun _ _ args => do
  match ← operandsOf args with
  | [] => fail "usage: printf format [arg ...]"
  | format :: args =>
    let p := Format.filled format args
    let status ← printed (String.ofList p.text.reverse)
    match p.problems with
    | [] => return status
    | problem :: problems =>
      if p.wrong then do
        problems.reverse.forM warn
        fail problem
      else do
        p.problems.reverse.forM warn
        return 1

/-! ## Control -/

def illegalNumber {α : Type} (t : String) : Act α := fail ("Illegal number: " ++ t)

/-- The number that an argument has to be. -/
def number (t : String) : Act Nat := do
  if t != "" && t.toList.all Char.isDigit then return t.toNat?.getD 0 else illegalNumber t

def exit : Builtin := fun _ _ args => do
  match args with
  | [] => throw (.exited (← status))
  | a :: _ => throw (.exited (← number a))

def return_ : Builtin := fun _ _ args => do
  match args with
  | [] => throw (.returned (← status))
  | a :: _ => throw (.returned (← number a))

/-- How many loops an argument means. -/
def loopCount (args : List String) : Act Nat := do
  let loops := (← process).loops
  match args with
  | [] => return min 1 loops
  | a :: _ => do
    let n ← number a
    if n = 0 then illegalNumber a
    return min n loops

def break_ : Builtin := fun _ _ args => do
  let n ← loopCount args
  if n = 0 then return 0 else throw (.broken n)

def continue_ : Builtin := fun _ _ args => do
  let n ← loopCount args
  if n = 0 then return 0 else throw (.continued n)

/-- Runs its arguments as a script, whose lines a larger shell counts on from the line it is at. -/
def eval : Builtin := fun run tested args => do
  let text := " ".intercalate args
  if ← isExtended then
    setProcess fun p => { p with speaker := none }
    evaluateFrom (← process).line run tested text
  else evaluate run tested text

/-- Runs something that `return` leaves. -/
def returning (a : Act Nat) : Act Nat :=
  tryCatch a fun
    | .returned n => return n
    | stop => throw stop

/-- Runs the script at a path in this shell. -/
def source : Builtin := fun run tested args => do
  match ← operandsOf args with
  | [] => return 0
  | name :: _ =>
    let found ← if name.contains '/' then pure (some name) else do
      let d := (← get).disk
      let candidates := (← searchDirectories).map fun dir => if dir = "" then name else dir ++ "/" ++ name
      pure (candidates.find? fun c => d.isFile (pathOf c))
    let extended ← isExtended
    match if extended then found <|> some name else found with
    | none => fail (name ++ ": not found")
    | some path =>
      match ← contentsOf path with
      | .error fault =>
        if extended then
          setProcess fun p => { p with speaker := none }
          warn (path ++ ": " ++ reason fault)
          return 1
        let why := if fault = .os .notFound ∨ fault = .os .notDirectory then "No such file" else reason fault
        fail ("cannot open " ++ path ++ ": " ++ why)
      | .ok content => do
        setProcess fun p =>
          if extended then { p with speaker := none, sourced := some path } else { p with speaker := some path }
        returning (evaluate run tested (textOf content))

/-! ## Variables -/

/-- A text in single quotes, so that a shell reads it back. -/
def singleQuoted (t : String) : String := "'" ++ "'\"'\"'".intercalate (t.splitOn "'") ++ "'"

/-- The variables in order of their names. -/
def sortedVariables : Act (List (String × Variable)) :=
  return (← process).bindings.mergeSort fun a b => a.1 ≤ b.1

/-- Splits an argument at the sign that assigns. -/
def splitAssignment (t : String) : String × Option String :=
  let name := String.ofList (t.toList.takeWhile (· != '='))
  if name.length < t.length then (name, some (String.ofList (t.toList.drop (name.length + 1))))
  else (name, none)

/-- The name at the front of an argument, up to the sign that assigns. -/
def nameIn (t : String) : Act String := do
  let (name, _) := splitAssignment t
  if isName name then return name else fail (name ++ ": bad variable name")

/-- Lists or sets variables with a mark. -/
def marking (word : String) (isMarked : Variable → Bool) (mark : Variable → Variable) : Builtin :=
  fun _ _ args => do
    let (lists, args) ← optionsOf "p" args
    if args.isEmpty || !lists.isEmpty then do
      (← sortedVariables).forM fun (name, v) => do
        if isMarked v then
          let value := match v.value with
            | some value => "=" ++ singleQuoted value
            | none => ""
          print (word ++ " " ++ name ++ value ++ "\n")
      return 0
    else do
      args.forM fun a => do
        let name ← nameIn a
        match (splitAssignment a).2 with
        | some value => Act.assign name value
        | none => pure ()
        enter name (mark ((← entry? name).getD ⟨none, false, false⟩))
      return 0

def export_ : Builtin := marking "export" Variable.exported fun v => { v with exported := true }

def readonly : Builtin := marking "readonly" Variable.readOnly fun v => { v with readOnly := true }

def local_ : Builtin := fun _ _ args => do
  match (← process).hidden with
  | [] => fail "not in a function"
  | scope :: scopes => do
    let mut saved := scope
    for a in args do
      if a = "-" then continue
      let name ← nameIn a
      let before ← entry? name
      if (saved.lookup name).isNone then saved := (name, before) :: saved
      setProcess fun p => { p with hidden := saved :: scopes }
      match (splitAssignment a).2 with
      | some value => Act.assign name value
      | none => pure ()
    return 0

def unset : Builtin := fun _ _ args => do
  let (kinds, names) ← optionsOf "vf" args
  let functions := (kinds.getLast?.map Prod.fst) = some 'f'
  names.forM fun name => do
    if functions then setProcess fun p => { p with functions := p.functions.filter fun f => f.1 != name }
    else do
      let name ← nameIn name
      if (← entry? name).any Variable.readOnly then fail (name ++ ": is read only")
      setProcess fun p => { p with bindings := p.bindings.filter fun v => v.1 != name }
  return 0

def shift : Builtin := fun _ _ args => do
  let n ← match args with
    | [] => pure 1
    | a :: _ => number a
  if n > (← process).arguments.length then fail "can't shift that many"
  setProcess fun p => { p with arguments := p.arguments.drop n }
  return 0

/-- The options that have names. -/
def optionNames : List (String × Char) :=
  [("errexit", 'e'), ("noglob", 'f'), ("ignoreeof", 'I'), ("interactive", 'i'), ("monitor", 'm'),
    ("noexec", 'n'), ("stdin", 's'), ("xtrace", 'x'), ("verbose", 'v'), ("vi", 'V'), ("emacs", 'E'),
    ("noclobber", 'C'), ("allexport", 'a'), ("notify", 'b'), ("nounset", 'u'), ("privileged", 'p'), ("nolog", '0'),
    ("debug", '1')]

/-- The option that makes a pipeline fail with any of its commands. -/
def pipeFailure : Char := '2'

/-- The option with a name. -/
def namedOption? (name : String) : Act (Option Char) := do
  if name = "pipefail" && (← isExtended) then return some pipeFailure
  else return optionNames.lookup name

/-- Switches an option. -/
def switch (on : Bool) (c : Char) : Act Unit :=
  setProcess fun p =>
    let others := p.options.filter (· != c)
    { p with options := if on then c :: others else others }

/-- Shows all options, as a table or as commands. -/
def showOptions (asCommands : Bool) : Act Unit := do
  let options := (← process).options
  if !asCommands then print "Current option settings\n"
  optionNames.forM fun (name, c) =>
    let on := options.contains c
    if asCommands then print ("set " ++ (if on then "-o " else "+o ") ++ name ++ "\n")
    else
      print (name ++ String.ofList (List.replicate (16 - name.length) ' ') ++ (if on then "on" else "off") ++ "\n")

/-- Switches options that arguments name, and answers what is left of the arguments; nothing if there was
no mark that the rest are arguments of the script. -/
def switchAll : List String → Act (Option (List String))
  | [] => return none
  | "--" :: rest => return some rest
  | "-" :: rest => do
    switch false 'x'
    switch false 'v'
    return if rest.isEmpty then none else some rest
  | a :: rest =>
    match a.toList with
    | sign :: c :: cs =>
      if sign = '-' ∨ sign = '+' then do
        let on := sign = '-'
        (c :: cs).forM fun c =>
          if c = 'o' then pure ()
          else if optionLetters.contains c then switch on c
          else fail ("Illegal option " ++ sign.toString ++ c.toString)
        if (c :: cs).contains 'o' then
          match rest with
          | [] => do
            showOptions (!on)
            return none
          | name :: rest =>
            match ← namedOption? name with
            | none => fail ("Illegal option " ++ sign.toString ++ "o " ++ name)
            | some c => do
              switch on c
              switchAll rest
        else switchAll rest
      else return some (a :: rest)
    | _ => return some (a :: rest)

def set_ : Builtin := fun _ _ args => do
  if args.isEmpty then
    (← sortedVariables).forM fun (name, v) =>
      match v.value with
      | some value => print (name ++ "=" ++ singleQuoted value ++ "\n")
      | none => pure ()
    return 0
  else
    match ← switchAll args with
    | some rest => setProcess fun p => { p with arguments := rest }
    | none => pure ()
    return 0

/-! ## Reading -/

/-- A line from the standard input, its characters marked as quoted where a backslash stood before them,
and whether it was complete. -/
def inputLine (raw : Bool) (sofar : List Mark) : Nat → Act (List Mark × Bool)
  | 0 => return (sofar.reverse, false)
  | limit + 1 => do
    match ← Act.read 0 fun bs => min 1 bs.length with
    | .ok [b] =>
      let c := Char.ofNat b.toNat
      if c = '\n' then return (sofar.reverse, true)
      else if c = '\\' && !raw then
        match ← Act.read 0 fun bs => min 1 bs.length with
        | .ok [b] =>
          if b = 0x0A then inputLine raw sofar limit
          else inputLine raw (⟨Char.ofNat b.toNat, true⟩ :: sofar) limit
        | _ => return (sofar.reverse, false)
      else if c = '\x00' then inputLine raw sofar limit
      else inputLine raw (⟨c, false⟩ :: sofar) limit
    | _ => return (sofar.reverse, false)

/-- The longest line that can be read. -/
def longestInput : Nat := 1000000

def isSeparator (separators : String) (m : Mark) : Bool := !m.quoted && separators.contains m.char

def isBlankSeparator (separators : String) (m : Mark) : Bool :=
  isSeparator separators m && Glyph.isBlank m.char

/-- Splits a line into fields for so many names; the last one gets all that is left. -/
def distribute (separators : String) (ms : List Mark) : Nat → List String
  | 0 => []
  | names + 1 =>
    let isBlank := isBlankSeparator separators
    let start := ms.dropWhile isBlank
    if names = 0 then
      let trimmed := (start.reverse.dropWhile isBlank).reverse
      let field := trimmed.takeWhile fun m => !isSeparator separators m
      if field.length + 1 = trimmed.length then [plainText field] else [plainText trimmed]
    else
      let field := start.takeWhile fun m => !isSeparator separators m
      let rest := (start.drop field.length).dropWhile isBlank
      let rest := match rest with
        | m :: more => if isSeparator separators m then more else rest
        | [] => []
      plainText field :: distribute separators rest names

def read : Builtin := fun _ _ args => do
  let (settings, names) ← optionsOf "p:r" args
  if names.isEmpty then fail "arg count"
  let (line, complete) ← inputLine (settings.any fun s => s.1 == 'r') [] longestInput
  let values := distribute (← separators) line names.length
  (names.zip values).forM fun (name, value) => do Act.assign (← nameIn name) value
  return if complete then 0 else 1

def getopts : Builtin := fun _ _ args => do
  match args with
  | letters :: name :: others => do
    let given ← if others.isEmpty then pure (← process).arguments else pure others
    let index := max 1 (((← value? "OPTIND").bind String.toNat?).getD 1)
    let offset := (← process).optionOffset
    let silent := letters.startsWith ":"
    let finish (index offset : Nat) (found : String) (argument : Option String) (status : Nat) : Act Nat := do
      Act.assign "OPTIND" (toString index)
      setProcess fun p => { p with optionOffset := offset }
      let name ← nameIn name
      Act.assign name found
      match argument with
      | some a => Act.assign "OPTARG" a
      | none => setProcess fun p => { p with bindings := p.bindings.filter fun v => v.1 != "OPTARG" }
      return status
    let current := given[index - 1]?
    let cs := ((current.getD "").toList).drop (max 1 offset)
    match current with
    | none => finish index 0 "?" none 1
    | some a =>
      if a = "--" && offset ≤ 1 then finish (index + 1) 0 "?" none 1
      else if !a.startsWith "-" || a = "-" then finish index 0 "?" none 1
      else
        match cs with
        | [] => finish (index + 1) 0 "?" none 1
        | c :: rest =>
          let onward := if rest.isEmpty then (index + 1, 0) else (index, max 1 offset + 1)
          let behind := letters.toList.dropWhile (· != c)
          if c = ':' || behind.isEmpty then
            if silent then finish onward.1 onward.2 "?" (some c.toString) 0
            else do
              complain ("Illegal option -" ++ c.toString)
              finish onward.1 onward.2 "?" none 0
          else if behind.tail.head? = some ':' then
            if !rest.isEmpty then finish (index + 1) 0 c.toString (some (String.ofList rest)) 0
            else
              match given[index]? with
              | some value => finish (index + 2) 0 c.toString (some value) 0
              | none =>
                if silent then finish (index + 1) 0 ":" (some c.toString) 0
                else do
                  complain ("No arg for -" ++ c.toString ++ " option")
                  finish (index + 1) 0 "?" none 0
          else finish onward.1 onward.2 c.toString none 0
  | _ => fail "Usage: getopts optstring var [arg...]"

/-! ## Directories -/

/-- A path with its steps up and its idle parts taken out. -/
def normalized (t : String) : String :=
  let parts := t.splitOn "/"
  let kept := parts.foldl
    (fun sofar part =>
      if part = "" ∨ part = "." then sofar
      else if part = ".." then sofar.tail
      else part :: sofar)
    ([] : List String)
  "/" ++ "/".intercalate kept.reverse

/-- Goes to a directory. -/
def goTo (physical : Bool) (name : String) : Act (Option String) := do
  let p ← process
  let logical := normalized (if name.startsWith "/" then name else p.directory ++ "/" ++ name)
  let target := if physical || name.startsWith "/" then name else logical
  match ← look fun d => d.stat (pathOf target) with
  | .ok (at_, .directory) => do
    let here := textOf (Disk.pathOf at_).bytes
    let shown := if physical then here else logical
    modify fun s => { s with disk := { s.disk with cwd := at_ } }
    let old := p.directory
    setProcess fun p => { p with directory := shown }
    Act.assign "OLDPWD" old
    Act.assign "PWD" shown
    return some shown
  | _ => return none

def cd : Builtin := fun _ _ args => do
  let (ways, operands) ← optionsOf "LP" args
  let physical := (ways.getLast?.map Prod.fst) = some 'P'
  let name ← match operands with
    | [] => pure ((← value? "HOME").getD "")
    | "-" :: _ => pure ((← value? "OLDPWD").getD "")
    | name :: _ => pure name
  let name' := if name = "" then "." else name
  let shows := operands.head? = some "-"
  let paths := (((← value? "CDPATH").map fun t => t.splitOn ":").getD []).filter (· != "")
  let isSearched := !(name'.startsWith "/" || name'.startsWith "./" || name'.startsWith "../" ||
    name' = "." || name' = "..")
  let d := (← get).disk
  let found := if isSearched then (paths.map fun p => p ++ "/" ++ name').find? fun c => d.isDirectory (pathOf c)
    else none
  match ← goTo physical (found.getD name') with
  | some shown => do
    if shows || found.isSome then print (shown ++ "\n")
    return 0
  | none =>
    if ← isExtended then
      let fault := match (← get).disk.stat (pathOf name') with
        | .ok _ => Fault.os .notDirectory
        | .error fault => fault
      fail (name ++ ": " ++ reason fault)
    else fail ("can't cd to " ++ name)

def pwd : Builtin := fun _ _ args => do
  let (ways, _) ← optionsOf "LP" args
  let p ← process
  let here ← look fun d => textOf (Disk.pathOf d.cwd).bytes
  printed ((if (ways.getLast?.map Prod.fst) = some 'P' then here else p.directory) ++ "\n")

/-! ## Processes -/

def killUsage {α : Type} : Act α :=
  fail ("Usage: kill [-s sigspec | -signum | -sigspec] [pid | job]... or\nkill -l [exitstatus]")

/-- Sends a signal to a process. A sign in front of the number means a group of processes, and no
process here leads one. -/
def send (signal : Nat) (target : String) : Act Nat := do
  if target.startsWith "%" then fail ("No such job: " ++ target)
  let isGroup := target.startsWith "-"
  let pid ← number (if isGroup then (target.drop 1).toString else target)
  let s ← get
  if isGroup then do
    warn "No such process\n"
    return 1
  else if s.jobs.any fun j => j.pid == pid then do
    if signal = 0 || Signal.isHarmless signal then return 0
    set { s with
      jobs := s.jobs.filter fun j => j.pid != pid
      ended := (pid, .killed signal) :: s.ended }
    return 0
  else if pid = 0 && signal = 0 then return 0
  else if pid = s.process.pid ∨ s.process.ancestors.contains pid then do
    if signal != 0 then set { s with signals := (pid, signal) :: s.signals }
    return 0
  else do
    warn "No such process\n"
    return 1

def kill : Builtin := fun _ _ args => do
  match args with
  | [] => killUsage
  | "-l" :: [] => do
    Signal.names.forM fun n => print (n ++ "\n")
    return 0
  | "-l" :: a :: _ => do
    let n ← number a
    let signal := if n > 128 then n - 128 else n
    if signal = 0 ∨ signal > Signal.largest then
      fail ("invalid signal number or exit status: " ++ a)
    print (Signal.name signal ++ "\n")
    return 0
  | "-s" :: name :: targets => deliverTo (Signal.ofName? name) name targets
  | "--" :: targets => deliverTo (some 15) "" targets
  | a :: targets =>
    match a.toList with
    | '-' :: c :: cs =>
      match Signal.ofName? (String.ofList (c :: cs)) with
      | some n => deliverTo (some n) "" targets
      | none => fail ("Illegal option -" ++ c.toString)
    | _ => deliverTo (some 15) "" (a :: targets)
where
  /-- Sends a signal to all targets. -/
  deliverTo (signal? : Option Nat) (name : String) (targets : List String) : Act Nat := do
    match signal?, targets with
    | none, _ => fail ("invalid signal number or name: " ++ name)
    | some _, [] => killUsage
    | some n, targets => targets.foldlM (fun worst t => return max worst (← send n t)) 0

def wait : Builtin := fun run _ args => do
  let args ← operandsOf args
  if args.isEmpty then do
    settle run none mostJobs
    deliver run
    return 0
  else
    args.foldlM
      (fun _ a => do
        let pid ← if a.startsWith "%" then fail ("No such job: " ++ a) else number a
        settle run (some pid) mostJobs
        deliver run
        match (← get).ended.lookup pid with
        | some ending => noticed ending
        | none => return 127)
      0

def trap : Builtin := fun _ _ args => do
  match ← operandsOf args with
  | [] => do
    ((← process).traps.mergeSort fun a b => a.1 ≤ b.1).forM fun (n, action) =>
      print ("trap -- " ++ singleQuoted action ++ " " ++ Signal.name n ++ "\n")
    return 0
  | [name] => change none [name]
  | action :: names =>
    if (action.toNat?.filter (· ≤ Signal.largest)).isSome then change none (action :: names)
    else change (if action = "-" then none else some action) names
where
  /-- Sets or resets what signals do. -/
  change (action : Option String) : List String → Act Nat
    | [] => return 0
    | name :: names => do
      match Signal.ofName? name with
      | none => do
        complain ("trap: " ++ name ++ ": bad trap")
        return 1
      | some n => do
        setProcess fun p =>
          let others := p.traps.filter fun t => t.1 != n
          { p with traps := others ++ (action.map fun a => (n, a)).toList }
        change action names

/-! ## Permission bits and the rest -/

def umask : Builtin := fun _ _ args => do
  let mask := (← process).mask
  match ← optionsOf "S" args with
  | ([], []) => printed (Mode.padded 4 mask ++ "\n")
  | (_, []) =>
    let part (rights : Nat) := String.ofList
      ((if rights / 4 % 2 == 0 then ['r'] else []) ++ (if rights / 2 % 2 == 0 then ['w'] else []) ++
        if rights % 2 == 0 then ['x'] else [])
    printed ("u=" ++ part (mask / 64) ++ ",g=" ++ part (mask / 8) ++ ",o=" ++ part mask ++ "\n")
  | (_, text :: _) => do
    if (text.toList.head?.map Char.isDigit) = some true then
      match Mode.octal? text with
      | some n => setProcess fun p => { p with mask := n % 512 }
      | none => illegalNumber text
    else
      let isIdle (clause : String) : Bool := clause = "a" || clause.toList.all "ugo".toList.contains
      let clauses := (text.splitOn ",").filter (!isIdle ·)
      if clauses.isEmpty then return 0
      match if text.contains 't' then none else Mode.applied? 0 false (",".intercalate clauses) (0o777 ^^^ mask) with
      | some bits => setProcess fun p => { p with mask := 0o777 ^^^ (bits % 512) }
      | none => fail ("Illegal mode: " ++ text)
    return 0

def test (closing : Bool) : Builtin := fun _ _ args => do
  if closing && args.getLast? != some "]" then fail "missing ]"
  let args := if closing then args.dropLast else args
  match Condition.holds (← get).disk args with
  | .ok b => return if b then 0 else 1
  | .error e => fail e

def times : Builtin := fun _ _ _ => printed "0m0.000000s 0m0.000000s\n0m0.000000s 0m0.000000s\n"

def ulimit : Builtin := fun _ _ args => do
  match ← optionsOf "HSatfdscmlpnvwr" args with
  | (_, []) => printed "unlimited\n"
  | (_, a :: _) =>
    if a = "unlimited" || a.toList.all Char.isDigit then return 0 else fail "bad number"

def always (n : Nat) : Builtin := fun _ _ _ => return n

/-- Resumes a job; there is none to resume. -/
def noJob : Builtin := fun _ _ args => do
  match ← operandsOf args with
  | [] => fail "No current job"
  | job :: _ => fail ("No such job: " ++ job)

/-- Lists the jobs. -/
def jobs : Builtin := fun _ _ args => do
  match ← optionsOf "lp" args with
  | (_, []) => return 0
  | (_, job :: _) => fail ("No such job: " ++ job)

end Builtin

/-- The builtins whose mistakes end the script. -/
def specialTable : List (String × Builtin) :=
  [(".", Builtin.source), (":", Builtin.always 0), ("break", Builtin.break_),
    ("continue", Builtin.continue_), ("eval", Builtin.eval), ("exit", Builtin.exit),
    ("export", Builtin.export_), ("local", Builtin.local_), ("readonly", Builtin.readonly),
    ("return", Builtin.return_), ("set", Builtin.set_), ("shift", Builtin.shift),
    ("times", Builtin.times), ("trap", Builtin.trap), ("unset", Builtin.unset)]

/-- The other builtins. -/
def regularTable : List (String × Builtin) :=
  [("[", Builtin.test true), ("alias", Builtin.always 0), ("bg", Builtin.noJob), ("cd", Builtin.cd),
    ("chdir", Builtin.cd), ("echo", Builtin.echo), ("false", Builtin.always 1), ("fg", Builtin.noJob),
    ("getopts", Builtin.getopts), ("jobs", Builtin.jobs), ("kill", Builtin.kill),
    ("printf", Builtin.printf), ("pwd", Builtin.pwd), ("read", Builtin.read), ("test", Builtin.test false),
    ("true", Builtin.always 0), ("ulimit", Builtin.ulimit), ("umask", Builtin.umask),
    ("unalias", Builtin.always 0), ("wait", Builtin.wait)]

end ReleaseBundle.Shell
