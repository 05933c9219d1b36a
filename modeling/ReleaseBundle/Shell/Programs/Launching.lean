import ReleaseBundle.Shell.Executable
import ReleaseBundle.Shell.Programs.Lines

/-!
# Programs that start others

`env` and its like change something about their process and then become another program. `xargs` starts
programs one after the other and waits for them. All of them are given the function that turns a process
into a program.
-/

namespace ReleaseBundle.Shell

/-- Turns this process into the program that the words name, or answers why that is not possible. -/
abbrev Start := List String → Act (Except Fault Nat)

/-- A program that starts others. -/
abbrev Launcher := Start → Program

namespace Programs

open Act

/-- Where programs are looked for by a process without a search path. -/
def defaultSearchPath : String := "/bin:/usr/bin"

/-- The status of a program that could not be started. -/
def unstartedStatus (fault : Fault) : Nat := if fault = .os .notFound then 127 else 126

/-- Becomes another program, or complains and answers a status. -/
def becomeOr (start : Start) (words : List String) (complaint : String → Fault → String) : Act Nat := do
  match ← start words with
  | .ok n => return n
  | .error fault => do
    complain (complaint (words.headD "") fault)
    return unstartedStatus fault

/-! ## Another environment -/

/-- Cuts a text into words as `env -S` does. Quotes keep blanks together. -/
def splitWords (text : String) : List String :=
  let finish (sofar : List String) (word : Option (List Char)) : List String :=
    match word with
    | some w => String.ofList w.reverse :: sofar
    | none => sofar
  let rec go (sofar : List String) (word : Option (List Char)) (quote : Option Char) : List Char → List String
    | [] => (finish sofar word).reverse
    | c :: cs =>
      match quote with
      | some q => if c = q then go sofar word none cs else go sofar (some (c :: word.getD [])) quote cs
      | none =>
        if c = '\'' ∨ c = '"' then go sofar (some (word.getD [])) (some c) cs
        else if Arithmetic.isSpace c then go (finish sofar word) none none cs
        else go sofar (some (c :: word.getD [])) none cs
  go [] none none text.toList

def environmentManual : Manual :=
  { program := "env", flags := "i0v", valued := "uCS", misuse := 125, mixed := false
    long := [("ignore-environment", 'i'), ("null", '0'), ("unset", 'u'), ("chdir", 'C'), ("split-string", 'S'),
      ("debug", 'v')] }

/-- Puts the words of a text that is to be split in its place. -/
def withSplitWords : List String → List String
  | [] => []
  | "-S" :: t :: rest => splitWords t ++ rest
  | a :: rest =>
    if a.startsWith "-S" then splitWords (a.drop 2).toString ++ rest
    else if a.startsWith "--split-string=" then splitWords (a.drop 15).toString ++ rest
    else if a.startsWith "-vS" then splitWords (a.drop 3).toString ++ rest
    else a :: rest

/-- The variables that a program is given. -/
def environment : Act (List (String × String)) :=
  return (← process).bindings.filterMap fun v => if v.2.exported then v.2.value.map (v.1, ·) else none

/-- Splits an operand that sets a variable. -/
def setting? (t : String) : Option (String × String) :=
  let name := t.toList.takeWhile (· != '=')
  if name.length < t.length then some (String.ofList name, String.ofList (t.toList.drop (name.length + 1))) else none

def changeEnvironment : Launcher := fun start args =>
  let m := environmentManual
  m.run
    (fun a => do
      let (clears, operands) := match a.operands with
        | "-" :: rest => (true, rest)
        | operands => (a.has 'i', operands)
      let unset := a.values 'u'
      setProcess fun p =>
        { p with bindings := p.bindings.filter fun v => !clears && !unset.contains v.1 }
      let settings := (operands.takeWhile fun t => (setting? t).isSome).filterMap setting?
      settings.forM fun (name, value) => enter name ⟨some value, true, false⟩
      let refusal? ← match a.value? 'C' with
        | none => pure none
        | some t =>
          match ← look fun d => d.stat (pathOf t) with
          | .error fault => pure (some (t, fault))
          | .ok (at_, .directory) => do
            modify fun s => { s with disk := { s.disk with cwd := at_ } }
            pure none
          | .ok _ => pure (some (t, .os .notDirectory))
      match refusal?, operands.drop settings.length with
      | some (t, fault), _ => do
        m.complain ("cannot change directory to " ++ quoted t ++ ": " ++ reason fault)
        return 125
      | none, [] => do
        (← environment).forM fun (name, value) =>
          print (name ++ "=" ++ value ++ if a.has '0' then "\x00" else "\n")
        return 0
      | none, words => do
        match ← start words with
        | .ok n => return n
        | .error fault => do
          let name := words.headD ""
          m.complain (cited name ++ ": " ++ reason fault)
          if fault = .os .notFound && name.toList.any Arithmetic.isSpace then
            m.complain "use -[v]S to pass options in shebang lines"
          return unstartedStatus fault)
    (withSplitWords args)

def printEnvironment : Program :=
  let m : Manual := { program := "printenv", flags := "0", long := [("null", '0')], misuse := 2 }
  m.run fun a => do
    let given ← environment
    let ending := if a.has '0' then "\x00" else "\n"
    if a.operands.isEmpty then do
      given.forM fun (name, value) => print (name ++ "=" ++ value ++ ending)
      return 0
    else
      forEach
        (fun name => do
          match given.lookup name with
          | some value => do
            print (value ++ ending)
            return 0
          | none => return 1)
        a.operands

/-! ## Another way to run -/

/-- Becomes the program that is named, as it is. -/
def runDetached : Launcher := fun start =>
  let m : Manual := { program := "nohup", flags := "", misuse := 125, mixed := false }
  m.run fun a => do
    if a.operands.isEmpty then m.misused "missing operand"
    else becomeOr start a.operands fun name fault =>
      "nohup: failed to run command " ++ quoted name ++ ": " ++ reason fault

def runNicely : Launcher := fun start =>
  let m : Manual :=
    { program := "nice", flags := "", valued := "n", long := [("adjustment", 'n')], misuse := 125, mixed := false }
  m.run fun a => do
    if let some t := (a.values 'n').reverse.find? fun t => t.toInt?.isNone then
      m.complain ("invalid adjustment " ++ cited t)
      return 125
    if a.operands.isEmpty then do
      print "0\n"
      return 0
    else becomeOr start a.operands fun name fault => "nice: " ++ cited name ++ ": " ++ reason fault

/-- The thousandths of a second that a text stands for. -/
def duration? (t : String) : Option Nat :=
  let cs := t.toList
  let (number, unit) := match cs.getLast? with
    | some 's' => (cs.dropLast, 1)
    | some 'm' => (cs.dropLast, 60)
    | some 'h' => (cs.dropLast, 3600)
    | some 'd' => (cs.dropLast, 86400)
    | _ => (cs, 1)
  let whole := number.takeWhile Char.isDigit
  let rest := number.drop whole.length
  let places := match rest with
    | '.' :: ds => ds
    | _ => []
  if number.isEmpty || !places.all Char.isDigit || (rest != [] && rest.head? != some '.') ||
      (whole.isEmpty && places.isEmpty) then none
  else
    let part := (places ++ ['0', '0', '0']).take 3
    some (unit * ((whole ++ part).foldl (fun n c => 10 * n + (c.toNat - 48)) 0))

def rest : Program :=
  let m : Manual := { program := "sleep", flags := "" }
  m.run fun a => do
    if a.operands.isEmpty then m.misused "missing operand"
    else
      let wrong := a.operands.filter fun t => t != "inf" && t != "infinity" && (duration? t).isNone
      match wrong.reverse with
      | [] => return 0
      | last :: before => do
        before.reverse.forM fun t => m.complain ("invalid time interval " ++ cited t)
        m.misused ("invalid time interval " ++ cited last)

/-- Runs a program that is stopped after a while. A program that only waits longer is stopped. -/
def runLimited : Launcher := fun start =>
  let m : Manual :=
    { program := "timeout", flags := "vf", valued := "sk", misuse := 125, mixed := false
      long := [("signal", 's'), ("kill-after", 'k'), ("preserve-status", 'f'), ("foreground", 'f'), ("verbose", 'v')] }
  m.run fun a => do
    match a.operands with
    | limit :: name :: args =>
      match duration? limit with
      | none => m.misused ("invalid time interval " ++ cited limit)
      | some n =>
        let waits := (args.filterMap duration?).foldl (· + ·) 0
        if lastName name = "sleep" && 0 < n && n < waits then return 124
        else
          let ending ← inChild <| becomeOr start (name :: args) fun name fault =>
            "timeout: failed to run command " ++ cited name ++ ": " ++ reason fault
          return ending.status
    | _ => do
      complain "Try 'timeout --help' for more information."
      return 125

/-! ## Arguments from the input -/

/-- The arguments in a text, each with a mark at the end of a line, and the kind of a quote that is not closed.
Ends of lines separate them, and on request blanks; quotes and backslashes keep these in them. -/
def argumentsIn (cuts : Bool) (text : String) : List (String × Bool) × Option String :=
  let finish (sofar : List (String × Bool)) (word : Option (List Char)) (last : Bool) : List (String × Bool) :=
    match word with
    | some w => (String.ofList w.reverse, last) :: sofar
    | none =>
      match sofar with
      | (w, _) :: ws => if last then (w, true) :: ws else sofar
      | [] => []
  let rec go (sofar : List (String × Bool)) (word : Option (List Char)) : List Char → Nat →
      List (String × Bool) × Option String
    | [], _ | _, 0 => ((finish sofar word true).reverse, none)
    | c :: cs, n + 1 =>
      let unclosed := (sofar.reverse, some (if c = '"' then "double" else "single"))
      if c = '\n' then go (finish sofar word true) none cs n
      else if Glyph.isBlank c && (cuts || word.isNone) then go (finish sofar word false) none cs n
      else if c = '\\' then
        match cs with
        | [] => go sofar word [] n
        | e :: rest => go sofar (some (e :: word.getD [])) rest n
      else if c = '\'' ∨ c = '"' then
        let inner := cs.takeWhile fun e => e != c && e != '\n'
        match cs.drop inner.length with
        | e :: rest =>
          if e = c then go sofar (some (inner.reverse ++ word.getD [])) rest n else unclosed
        | [] => if inner.isEmpty && word.isNone then (sofar.reverse, none) else unclosed
      else go sofar (some (c :: word.getD [])) cs n
  go [] none text.toList (text.length + 1)

/-- Groups of at most so many. -/
def groups (n : Nat) (ts : List String) : Nat → List (List String)
  | 0 => []
  | k + 1 => if ts.isEmpty then [] else ts.take n :: groups n (ts.drop n) k

/-- Groups of arguments that come from so many lines. -/
def lineGroups (n : Nat) (sofar : List String) (lines : Nat) : List (String × Bool) → List (List String)
  | [] => if sofar.isEmpty then [] else [sofar.reverse]
  | (t, last) :: rest =>
    if last then
      if lines + 1 = n then (t :: sofar).reverse :: lineGroups n [] 0 rest
      else lineGroups n (t :: sofar) (lines + 1) rest
    else lineGroups n (t :: sofar) lines rest

def argumentsManual : Manual :=
  { program := "xargs", flags := "0rtpx", valued := "adnLIPsE", joined := "ile", mixed := false
    long := [("null", '0'), ("no-run-if-empty", 'r'), ("verbose", 't'), ("max-args", 'n'), ("max-lines", 'l'),
      ("replace", 'i'), ("delimiter", 'd'), ("arg-file", 'a'), ("max-procs", 'P')] }

/-- Starts programs in turn. The status tells of the worst that happened. -/
def startAll (start : Start) (shows : Bool) (worst : Nat) : List (List String) → Act Nat
  | [] => return worst
  | words :: rest => do
    if shows then complain (" ".intercalate (words.map shellWord))
    let nothing ← newHandle ⟨.nothing, true, true, false, 0⟩
    let name := words.headD ""
    let ending ← inChild do
      bindDescriptor 0 nothing
      match ← start words with
      | .ok n => return n
      | .error fault => do
        complain ("xargs: " ++ name ++ ": " ++ reason fault)
        return unstartedStatus fault
    match ending with
    | .killed n => do
      complain ("xargs: " ++ name ++ ": terminated by signal " ++ toString n)
      return 125
    | .exited 0 => startAll start shows worst rest
    | .exited 255 => do
      complain ("xargs: " ++ name ++ ": exited with status 255; aborting")
      return 124
    | .exited n => if n = 126 ∨ n = 127 then return n else startAll start shows 123 rest

def withArguments : Launcher := fun start =>
  let m := argumentsManual
  m.run fun a => do
    let number (c : Char) : Option (Option Nat) := (a.value? c).map fun v => v.toNat?.filter (· != 0)
    match ["n", "L", "P"].find? fun c => (number (c.toList.headD 'n')) = some none && c != "P" with
    | some c =>
      m.misused ("invalid number \"" ++ (a.value? (c.toList.headD 'n')).getD "" ++ "\" for -" ++ c ++ " option")
    | none =>
      let command := if a.operands.isEmpty then ["echo"] else a.operands
      match ← inputOf ((a.value? 'a').getD "-") with
      | .error fault => do
        m.complain ("Cannot open input file " ++ cited ((a.value? 'a').getD "-") ++ ": " ++ reason fault)
        return 1
      | .ok text =>
        let replaced := match a.value? 'I', a.value? 'i' with
          | some r, _ => some r
          | none, some "" => some "\x7b\x7d"
          | none, r => r
        let separator := if a.has '0' then some '\x00'
          else (a.value? 'd').bind fun t => if t = "\\n" then some '\n' else if t = "\\0" then some '\x00' else t.toList.head?
        let (items, unclosed) := match separator with
          | some c =>
            let parts := text.toList.splitOn c
            let parts := if parts.getLast? = some [] then parts.dropLast else parts
            (parts.map fun p => (String.ofList p, true), none)
          | none => argumentsIn replaced.isNone text
        let words := items.map Prod.fst
        let calls := match replaced, number 'L', number 'n' with
          | some r, _, _ => words.map fun w => command.map fun t => t.replace r w
          | none, some (some n), _ =>
            let found := (lineGroups n [] 0 items).map (command ++ ·)
            if unclosed.isNone then found else found.take ((items.filter Prod.snd).length / n)
          | none, _, some (some n) => (groups n words (words.length + 1)).map (command ++ ·)
          | none, _, _ => if words.isEmpty then [] else [command ++ words]
        let isAlone := calls.isEmpty && !a.has 'r' && replaced.isNone && unclosed.isNone
        let status ← startAll start (a.has 't') 0 (if isAlone then [command] else calls)
        match unclosed with
        | some kind =>
          if 124 ≤ status then return status
          m.failed ("unmatched " ++ kind ++ " quote; by default quotes are special to xargs unless you use the -0 option")
        | none => return status

end Programs

end ReleaseBundle.Shell
