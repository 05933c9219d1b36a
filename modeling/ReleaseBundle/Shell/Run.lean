import ReleaseBundle.Shell.Execution
import ReleaseBundle.Shell.Redirection

/-!
# Running commands

`run` runs a command with everything in it. Its first argument bounds how deeply commands may lie in each
other, function calls included; loops count for themselves.

A command that fails ends the script if the option `e` asks for it, unless somebody looks at its status:
conditions, and what stands before `&&` and `||`, are tested in this sense.
-/

namespace ReleaseBundle.Shell

open Act

/-- How often a loop may go around. -/
def mostRounds : Nat := 10000000

/-- How many function calls may be open. -/
def mostCalls : Nat := 1000

/-- Runs the body of a loop. Answers whether the loop goes on, and the status. -/
def loopBody (a : Act Nat) : Act (Bool × Nat) :=
  tryCatch (do return (true, ← a)) fun
    | .broken 1 => return (false, 0)
    | .broken n => throw (.broken (n - 1))
    | .continued 1 => return (true, 0)
    | .continued n => throw (.continued (n - 1))
    | stop => throw stop

/-- Does something that counts as a loop. -/
def inLoop {α : Type} (a : Act α) : Act α :=
  restoring
    (fun before after => { after with process := { after.process with loops := before.process.loops } })
    (do
      setProcess fun p => { p with loops := p.loops + 1 }
      a)

/-- Repeats a body while a condition has a status. -/
def repeatWhile (condition : Act Bool) (body : Act Nat) (last : Nat) : Nat → Act Nat
  | 0 => return last
  | n + 1 => do
    let (goesOn, holds) ← (do
      let c ← loopBody (do return if ← condition then 0 else 1)
      return (c.1, c.2 == 0))
    if !goesOn then return 0
    else if !holds then return last
    else
      let (goesOn, status) ← loopBody body
      if goesOn then repeatWhile condition body status n else return status

/-- Does a body for each of some values. -/
def repeatFor (body : String → Act Nat) (last : Nat) : List String → Act Nat
  | [] => return last
  | v :: vs => do
    let (goesOn, status) ← loopBody (body v)
    if goesOn then repeatFor body status vs else return status

/-- Calls a function. What it makes local comes back at its end. -/
def call (run : Runner) (tested : Bool) (body : Command) (args : List String) : Act Nat := do
  if mostCalls ≤ (← process).calls then
    fail ("Maximum function recursion depth (" ++ toString mostCalls ++ ") reached")
  let putBack (before after : State) : State :=
    let scope := after.process.hidden.headD []
    let bindings := scope.foldl
      (fun (vs : List (String × Variable)) (name, v?) =>
        match v? with
        | some v => entered name v vs
        | none => vs.filter fun e => e.1 != name)
      after.process.bindings
    { after with
      process :=
        { after.process with
          arguments := before.process.arguments
          loops := before.process.loops
          calls := before.process.calls
          hidden := before.process.hidden
          bindings := bindings } }
  restoring putBack do
    setProcess fun p =>
      { p with arguments := args, loops := 0, calls := p.calls + 1, hidden := [] :: p.hidden }
    Builtin.returning (run tested body)

/-- Does something with variables that have other values meanwhile. -/
def withAssignments (assignments : List (String × String)) (a : Act Nat) : Act Nat := do
  if assignments.isEmpty then a
  else
    let before ← process
    let putBack (_ after : State) : State :=
      let restored := assignments.foldl
        (fun (vs : List (String × Variable)) (name, _) =>
          match before.bindings.lookup name with
          | some v => entered name v vs
          | none => vs.filter fun e => e.1 != name)
        after.process.bindings
      { after with process := { after.process with bindings := restored } }
    restoring putBack do
      assignments.forM fun (name, value) => do
        Act.assign name value
        enter name { (← entry? name).getD ⟨none, false, false⟩ with exported := true }
      a

/-- Runs a builtin under its name. One whose output gets lost says so last, and fails. -/
def runBuiltin (run : Runner) (tested : Bool) (name : String) (b : Builtin) (args : List String) : Act Nat :=
  restoring
    (fun before after =>
      let p := before.process
      { after with process := { after.process with speaker := p.speaker, sourced := p.sourced } })
    (do
      setProcess fun p => { p with speaker := some name, unwritten := none }
      let status ← b run tested args
      match (← process).unwritten with
      | none => return status
      | some fault => do
        setProcess fun p => { p with unwritten := none }
        if ← isExtended then warn ("write error: " ++ reason fault) else warn (name ++ ": I/O error")
        return status ||| 1)

/-- Runs something whose mistakes only make it fail. -/
def tolerant (a : Act Nat) : Act Nat :=
  tryCatch a fun
    | .failed => mistakeStatus
    | stop => throw stop

/-- Refuses to assign to variables that may not change. -/
def guardAssignments (assignments : List (String × String)) : Act Unit :=
  assignments.forM fun (name, _) => do
    if ((← entry? name).map Variable.readOnly) = some true then fail (name ++ ": is read only")

/-- Notes where a program is. -/
def noteLocated (name path : String) : Act Unit := do
  if !name.contains '/' then
    setProcess fun p =>
      if (p.located.lookup name).isSome then p else { p with located := (name, path) :: p.located }

/-- Looks for a program, and notes where it is. -/
def locate (name : String) : Act (Except Fault String) := do
  let r ← findProgram name
  if let .ok path := r then noteLocated name path
  return r

/-- Runs a program in a new process. -/
def runProgram (run : Runner) (assignments : List (String × String)) (name : String) (args : List String) :
    Act Nat := do
  guardAssignments assignments
  if (assignments.lookup "PATH").isNone then
    let _ ← locate name
  else forgetLocated
  let ending ← child run <| withAssignments assignments do
    let extended ← isExtended
    match ← findProgram name with
    | .error fault => do
      warn (name ++ ": " ++ if extended && fault = .os .notFound then "command not found" else executionReason fault)
      return 127
    | .ok path =>
      match ← become run path (name :: args) with
      | .ok status => return status
      | .error fault => do
        let isFolder ← look fun d => d.isDirectory (pathOf path)
        warn (name ++ ": " ++ if extended then reason (if isFolder then .os .isDirectory else fault)
          else executionReason fault)
        return executionStatus fault
  noticed ending

/-- Turns the shell itself into a program. -/
def exec (run : Runner) (assignments : List (String × String)) (name : String) (args : List String) :
    Act Nat :=
  withAssignments assignments do
    let refuse (fault : Fault) : Act Nat := do
      warn (name ++ ": " ++ executionReason fault)
      throw (.exited (executionStatus fault))
    match ← findProgram name with
    | .error fault => refuse fault
    | .ok path => do
      let before ← process
      match ← become run path (name :: args) with
      | .ok status => do
        setProcess fun p => { p with traps := [] }
        throw (.exited status)
      | .error fault => do
        setProcess fun _ => before
        refuse fault

/-- The builtins that are about commands. -/
def commandNames : List String := ["command", "type", "hash"]

/-- Says what a command name stands for. -/
def describe (verbose : Bool) (name : String) : Act Nat := do
  let p ← process
  let say (brief long : String) : Act Nat := do
    print ((if verbose then name ++ long else brief) ++ "\n")
    return 0
  if keywords.contains name then say name " is a shell keyword"
  else if (p.functions.lookup name).isSome then say name " is a shell function"
  else if (specialTable.lookup name).isSome || name = "exec" then
    say name (if name = "local" then " is a shell builtin" else " is a special shell builtin")
  else if (regularTable.lookup name).isSome || commandNames.contains name then
    say name " is a shell builtin"
  else
    let before := p.located.lookup name
    match ← findProgram name with
    | .ok path =>
      if name.contains '/' && !(← look fun d => (d.stat (pathOf path)).isOk) then missing
      else if p.extended then
        say path (if before.isSome then " is hashed (" ++ path ++ ")" else " is " ++ path)
      else
        noteLocated name path
        say path ((if before.isSome then " is a tracked alias for " else " is ") ++ path)
    | .error _ => missing
where
  /-- Says that a name stands for nothing. -/
  missing : Act Nat := do
    if verbose then print (name ++ ": not found\n")
    return 127

def type_ : Builtin := fun _ _ args =>
  args.foldlM (fun worst name => return max worst (← describe true name)) 0

/-- The list that a name is kept in, and so when it is shown among others. -/
def listNumber (name : String) : Nat :=
  (name.toList.foldl (fun n c => n + c.toNat) (16 * (name.toList.headD ' ').toNat)) % 31

def hash : Builtin := fun _ _ args => do
  let (forgets, names) ← Builtin.optionsOf "r" args
  if !forgets.isEmpty then
    forgetLocated
    return 0
  if names.isEmpty && !(← isExtended) then
    let found := (← process).located.reverse.mergeSort fun a b => listNumber a.1 ≤ listNumber b.1
    found.forM fun e => print (e.2 ++ "\n")
  let p ← process
  let isInside (name : String) : Bool :=
    (p.functions.lookup name).isSome || (specialTable.lookup name).isSome || (regularTable.lookup name).isSome ||
      commandNames.contains name
  (names.filter (!isInside ·)).foldlM
    (fun worst name => do
      match ← locate name with
      | .ok _ => return worst
      | .error _ => do
        warn (name ++ ": not found")
        return 1)
    0

/-- What `command` says when it does not run a command. -/
def describing : Builtin := fun _ _ args => do
  let (ways, names) ← Builtin.optionsOf "pvV" args
  match ways.find? fun w => w.1 != 'p', names with
  | some _, name :: _ =>
    let answer := describe (ways.any fun w => w.1 == 'V') name
    if ways.any fun w => w.1 == 'p' then withAssignments [("PATH", standardSearchPath)] answer else answer
  | _, _ => return 0

/-- The command behind `command` and its options, and whether it is looked for in the standard places;
nothing where there is another option. -/
def commanded (standard : Bool) : List String → Option (Bool × List String)
  | "--" :: rest => some (standard, rest)
  | a :: rest =>
    match a.toList with
    | '-' :: c :: cs => if (c :: cs).all (· == 'p') then commanded true rest else none
    | _ => some (standard, a :: rest)
  | [] => some (standard, [])

/-- What a command of the larger shell is called in the smaller one. -/
def larger (name : String) (args : List String) : String × List String :=
  let equal (t : String) : String := if t = "==" then "=" else t
  if name = "source" then (".", args)
  else if name = "[[" && args.getLast? = some "]]" then ("test", args.dropLast.map equal)
  else if name = "[" ∨ name = "test" then (name, args.map equal)
  else (name, args)

/-- Runs a command by its name. The assignments are those in front of it. -/
def dispatch (run : Runner) (tested functions : Bool) (assignments : List (String × String)) (name : String)
    (args : List String) : Nat → Act Nat
  | 0 => return 2
  | limit + 1 => do
    let extended ← isExtended
    let (name, args) := if extended then larger name args else (name, args)
    let known := (← process).functions
    let function? := if functions then known.lookup name else none
    match specialTable.lookup name with
    | some b =>
      if functions then do
        assignments.forM fun (x, value) => Act.assign x value
        runBuiltin run tested name b args
      else tolerant (withAssignments assignments (runBuiltin run tested name b args))
    | none =>
      match function? with
      | some body => withAssignments assignments (call run tested body args)
      | none =>
        if name = "exec" then
          match args with
          | [] => do
            assignments.forM fun (x, value) => Act.assign x value
            return 0
          | program :: rest =>
            runBuiltin run tested name (fun run _ _ => exec run assignments program rest) args
        else if name = "command" then
          match commanded false args with
          | some (_, []) => return 0
          | some (true, n :: rest) =>
            withAssignments [("PATH", standardSearchPath)] (dispatch run tested false assignments n rest limit)
          | some (false, n :: rest) => dispatch run tested false assignments n rest limit
          | none => tolerant (runBuiltin run tested name describing args)
        else
          match (if name = "type" then some type_ else if name = "hash" then some hash
            else regularTable.lookup name) with
          | some b => do
            guardAssignments assignments
            tolerant (withAssignments assignments (runBuiltin run tested name b args))
          | none => runProgram run assignments name args

/-- How often `command` may stand in front of a command. -/
def mostPrefixes : Nat := 1000

/-- Whether a command keeps the redirections that are made for it. -/
def keepsRedirections (name : String) (args : List String) : Bool := name == "exec" && args.isEmpty

/-- Shows a command before it runs, on request. -/
def trace (assignments : List (String × String)) (fields : List String) : Act Unit := do
  if ← hasOption 'x' then
    let shown := assignments.map fun (name, value) => name ++ "=" ++ value
    complain ("+ " ++ " ".intercalate (shown ++ fields))

/-- The builtins whose arguments may be assignments. -/
def declaring : List String := ["export", "readonly", "local"]

/-- The fields of the words of a command. -/
def commandFields (capture : Capture) : List Word → Act (List String)
  | [] => return []
  | w :: ws => do
    match ← Word.fields capture w with
    | [] => commandFields capture ws
    | name :: more => do
      let rest ← ws.flatMapM fun w => do
        match if declaring.contains name then assignment? w else none with
        | some (x, value) => return [x ++ "=" ++ (← Word.assigned capture value)]
        | none => Word.fields capture w
      return name :: more ++ rest

/-- Runs a simple command. -/
def runSimple (run : Runner) (tested : Bool) (line : Nat) (assignments : List (String × Word))
    (words : List Word) (redirects : List Redirect) : Act Nat := do
  setProcess fun p => { p with line := line, substituted := none }
  let capture := capture run
  let fields ← commandFields capture words
  let openings ← redirects.mapM (expandRedirect capture)
  let values (whole : Bool) : Act (List (String × String)) :=
    assignments.mapM fun (name, w) => do
      let value ← Word.assigned capture w
      if whole then Act.assign name value
      return (name, value)
  match fields with
  | [] =>
    redirected capture openings do
      trace (← values true) []
      return (← process).substituted.getD 0
  | name :: args => do
    if name = "exec" || (specialTable.lookup name).isSome then
      if keepsRedirections name args then do
        openings.forM (redirect capture)
        let given ← values false
        trace given fields
        dispatch run tested true given name args mostPrefixes
      else
        withDescriptors do
          openings.forM (redirect capture)
          let given ← values false
          trace given fields
          dispatch run tested true given name args mostPrefixes
    else
      redirected capture openings do
        let given ← values false
        trace given fields
        dispatch run tested true given name args mostPrefixes

/-- Runs commands of which each reads what the one before it writes. The status is that of the last one, or of
the last one that fails if an option asks for it. -/
def runPipeline (run : Runner) (tested : Bool) (input : Option Nat) (notice : Option Nat) (worst : Nat) :
    List Command → Act Nat
  | [] => return 0
  | c :: cs => do
    let output ← if cs.isEmpty then pure none
      else some <$> newHandle ⟨.pipe [], true, true, false, 0⟩
    let ending ← subshell run do
      if let some n := input then bindDescriptor 0 n
      if let some n := output then bindDescriptor 1 n
      run tested c
    let notice := match notice, ending with
      | none, .killed n => some n
      | notice, _ => notice
    if cs.isEmpty then do
      if let some n := notice then
        let _ ← noticed (.killed n)
      let strict ← hasOption Builtin.pipeFailure
      return if strict && ending.status = 0 then worst else ending.status
    else runPipeline run tested output notice (if ending.status = 0 then worst else ending.status) cs

/-- Ends the script after a failure if the options ask for it. -/
def checked (tested : Bool) (a : Act Nat) : Act Nat := do
  let n ← a
  setStatus n
  if n != 0 && !tested && (← hasOption 'e') then throw (.exited n)
  return n

/-- Runs a command. -/
def run : Nat → Runner
  | 0 => fun _ _ => fail "commands are nested too deeply"
  | depth + 1 => fun tested c => do
    let again := run depth
    let n ← match c with
      | .simple line assignments words redirects =>
        checked tested (runSimple again tested line assignments words redirects)
      | .pipeline cs => checked tested (runPipeline again tested none none 0 cs)
      | .negated c => do
        let n ← again true c
        pure (if n = 0 then 1 else 0)
      | .both a b => do
        let n ← again true a
        if n = 0 then again tested b else pure n
      | .either a b => do
        let n ← again true a
        if n = 0 then pure n else again tested b
      | .sequence a b => do
        let _ ← again tested a
        again tested b
      | .background c => do
        putAside c
        pure 0
      | .subshell line c =>
        checked tested do
          setProcess fun p => { p with line := line }
          noticed (← subshell again (again tested c))
      | .redirected line c redirects => do
        setProcess fun p => { p with line := line }
        let openings ← redirects.mapM (expandRedirect (capture again))
        redirected (capture again) openings (again tested c)
      | .branch condition consequence alternative => do
        let n ← again true condition
        if n = 0 then again tested consequence
        else
          match alternative with
          | some c => again tested c
          | none => pure 0
      | .loop whileHolds condition body =>
        inLoop <|
          repeatWhile (do return ((← again true condition) == 0) == whileHolds) (again tested body) 0 mostRounds
      | .each line name words body => do
        setProcess fun p => { p with line := line }
        let values ← words.flatMapM (Word.fields (capture again))
        inLoop <|
          repeatFor (fun v => do
            Act.assign name v
            again tested body)
            0 values
      | .select line subject cases => do
        setProcess fun p => { p with line := line }
        let text ← Word.text (capture again) subject
        let chosen ← cases.findSomeM? fun (patterns, body) => do
          let fits ← patterns.anyM fun w => do
            return Wildcard.covers (← Word.marks (capture again) w) text
          return if fits then some body else none
        match chosen with
        | some (some body) => again tested body
        | _ => pure 0
      | .definition _ name body => do
        setProcess fun p => { p with functions := (name, body) :: p.functions.filter fun f => f.1 != name }
        pure 0
    setStatus n
    deliver again
    return n

/-- How deeply commands may lie in each other. -/
def greatestDepth : Nat := 100000

/-- Runs commands in commands. -/
def runner : Runner := run greatestDepth

end ReleaseBundle.Shell
