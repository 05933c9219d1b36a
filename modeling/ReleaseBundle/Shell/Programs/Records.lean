import ReleaseBundle.Shell.Programs.Record.Run

/-!
# Working on records

`awk` runs a program that is given as an argument or in files on the records of its operands. Operands that give
a variable a value do so when it is their turn.
-/

namespace ReleaseBundle.Shell.Programs

open Record

/-- What a program on records was asked for. -/
structure RecordUse where
  separator : Option String := none
  settings : List (String × String) := []
  files : List String := []
  operands : List String := []

/-- How the program is used. -/
def recordUsage : List String :=
  ["Usage: mawk [Options] [Program] [file ...]",
    "",
    "Program:",
    "    The -f option value is the name of a file containing program text.",
    "    If no -f option is given, a \"--\" ends option processing; the following",
    "    parameters are the program text.",
    "",
    "Options:",
    "    -f program-file  Program  text is read from file instead of from the",
    "                     command-line.  Multiple -f options are accepted.",
    "    -F value         sets the field separator, FS, to value.",
    "    -v var=value     assigns value to program variable var.",
    "    --               unambiguous end of options.",
    "",
    "    Implementation-specific options are prefixed with \"-W\".  They can be",
    "    abbreviated:",
    "",
    "    -W version       show version information and exit.",
    "    -W compat        pre-POSIX 2001.",
    "    -W dump          show assembler-like listing of program and exit.",
    "    -W help          show this message and exit.",
    "    -W interactive   set unbuffered output, line-buffered input.",
    "    -W exec file     use file as program as well as last option.",
    "    -W posix         stricter POSIX checking.",
    "    -W random=number set initial random seed.",
    "    -W sprintf=number adjust size of sprintf buffer.",
    "    -W usage         show this message and exit."]

/-- Why a program on records is not run. -/
inductive RecordRefusal where
  | notAnOption (a : String)
  | lacksValue (c : Char)
  | improper (setting : String)
  | help

def RecordRefusal.message : RecordRefusal → String
  | notAnOption a => "not an option: " ++ a
  | lacksValue c => "option -" ++ c.toString ++ " lacks argument"
  | improper setting => "improper assignment: -v " ++ setting
  | help => "\n".intercalate recordUsage

/-- Notes an option with its value. -/
def RecordUse.note (u : RecordUse) (c : Char) (v : String) : Except RecordRefusal RecordUse :=
  if c = 'F' then .ok { u with separator := some v }
  else if c = 'f' then .ok { u with files := u.files ++ [v] }
  else if c = 'W' then if v = "help" ∨ v = "usage" then .error .help else .ok u
  else
    match Running.assignment? v with
    | some setting => .ok { u with settings := u.settings ++ [setting] }
    | none => .error (.improper v)

/-- Reads the arguments. -/
def recordUse (u : RecordUse) : List String → Except RecordRefusal RecordUse
  | [] => .ok u
  | "--" :: rest => .ok { u with operands := rest }
  | "--help" :: _ | "--usage" :: _ => .error .help
  | a :: rest =>
    match a.toList with
    | '-' :: c :: cs =>
      if ['F', 'f', 'v', 'W'].contains c then
        match cs, rest with
        | [], [] => .error (.lacksValue c)
        | [], v :: rest =>
          match u.note c v with
          | .ok u => recordUse u rest
          | .error e => .error e
        | cs, rest =>
          match u.note c (String.ofList cs) with
          | .ok u => recordUse u rest
          | .error e => .error e
      else .error (.notAnOption a)
    | _ => .ok { u with operands := a :: rest }

/-- The text of a program that stands in files, or why one of them cannot be read. -/
def programText (files : List String) : Act (Except (String × Fault) String) :=
  files.foldlM
    (fun sofar path => do
      match sofar, ← inputOf path with
      | .error e, _ => return .error e
      | .ok _, .error fault => return .error (path, fault)
      | .ok t, .ok more => return .ok (t ++ more ++ "\n"))
    (.ok "")

/-- The variables that a program finds. -/
def standardValues (argumentCount : Nat) (separator : Option String) : Std.HashMap String Value :=
  let text (t : String) : Value := .text t
  Std.HashMap.ofList
    [("FS", text (separator.getD " ")), ("OFS", text " "), ("ORS", text "\n"), ("RS", text "\n"),
      ("SUBSEP", text "\x1c"), ("CONVFMT", text "%.6g"), ("OFMT", text "%.6g"), ("FILENAME", text ""),
      ("NR", .number 0), ("FNR", .number 0), ("RSTART", .number 0), ("RLENGTH", .number (-1)),
      ("ARGC", .ofNat argumentCount)]

/-- The tables that a program finds. -/
def standardTables (args : List String) (given : List (String × String)) : Std.HashMap String Table :=
  let arguments := args.zipIdx.foldl
    (fun (t : Table) (a, i) => t.insert ⟨toString i, some i⟩ (.ofInput a)) {}
  let environment := given.foldl (fun (t : Table) (k, v) => t.insert ⟨k, none⟩ (.ofInput v)) {}
  Std.HashMap.ofList [("ARGV", arguments), ("ENVIRON", environment)]

/-- Complains about what kept a program from going on, and gives up. -/
def giveUp (name : String) : Leave → Running Unit
  | .failed m => do
    Running.act (Act.complain (name ++ ": run time error: " ++ m))
    Running.act (Act.complain (← Running.whereabouts))
    modify fun s => { s with status := 2 }
  | .refused m => do
    Running.act (Act.complain (name ++ ": " ++ m))
    modify fun s => { s with status := 2 }
  | e => throw e

/-- Runs a program in a session. -/
def runRecords (s : Setting) (u : RecordUse) (name : String) : Running Unit := do
  tryCatch
    (do
      u.settings.forM fun (x, v) => Running.setFromOutside x v
      Running.follow s)
    (giveUp name)
  tryCatch (Running.finish s) (giveUp name)

/-- The status of a program whose output may have got lost. -/
def closePrinted (name : String) (status : Nat) : Act Nat := do
  match (← Act.process).unwritten with
  | none => return status
  | some fault => do
    Act.setProcess fun p => { p with unwritten := none }
    Act.complain (name ++ ": close failed on file \"/dev/stdout\" (" ++ reason fault ++ ")")
    return 2

def workOnRecords : Launcher := fun start args => do
  let name := lastName (← Act.process).name
  let refuse (m : String) : Act Nat := do
    Act.complain (name ++ ": " ++ m)
    return 2
  let usage := RecordRefusal.help.message
  match recordUse {} args with
  | .error .help => do
    Act.print (usage ++ "\n")
    return 0
  | .error e => refuse e.message
  | .ok u =>
    if args.isEmpty then
      Act.complain usage
      return 0
    let text? ← if u.files.isEmpty then pure (.ok (u.operands.headD "")) else programText u.files
    match text? with
    | .error (path, fault) => refuse ("cannot open \"" ++ path ++ "\" (" ++ reason fault ++ ")")
    | .ok text =>
      match Rules.read text with
      | .error m => do
        m.complaints.forM fun t => Act.complain (name ++ ": " ++ t)
        return 2
      | .ok rules =>
        if rules.rules.isEmpty then return 0
        let operands := if u.files.isEmpty then u.operands.tail else u.operands
        let given ← environment
        let separator := u.separator.map fun t => if t = "t" then "t" else Token.plain t.toList
        let run : Act Nat := fun shell =>
          let session : Session :=
            { shell := shell
              program := name
              values := standardValues (operands.length + 1) separator
              tables := standardTables (name :: operands) given }
          match runRecords ⟨start, rules⟩ u name session with
          | .ok _ s => .ok s.status s.shell
          | .error (.stopped stop) s => .error stop s.shell
          | .error _ s => .ok s.status s.shell
        closePrinted name (← run)

end ReleaseBundle.Shell.Programs
