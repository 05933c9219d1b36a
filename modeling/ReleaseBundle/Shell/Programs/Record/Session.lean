import ReleaseBundle.Shell.Open
import ReleaseBundle.Shell.Programs.Launching
import ReleaseBundle.Shell.Programs.Record.Format
import ReleaseBundle.Shell.Programs.Record.Table
import ReleaseBundle.Shell.Programs.Record.Tree

/-!
# Sessions of programs on records

What a program on records remembers while it runs: its variables and tables, the record with its fields, and
what is open. Printed text waits in the session until something else might be looked at: a command that is
started, a file that is closed, or the end.

The record and its fields are two views of one thing. One of the two may be missing, and is made of the other
when it is asked for.
-/

namespace ReleaseBundle.Shell.Programs.Record

/-- Something that lines are read from. -/
structure Input where
  handle : Nat
  rest : List Char := []
  /-- Whether nothing more can come. -/
  ended : Bool := false
  /-- How the command ended that wrote the lines. -/
  status : Nat := 0

/-- Something that text is written to. -/
structure Output where
  outlet : Outlet
  handle : Nat
  /-- The text that is not written yet, the last first. -/
  waiting : List String := []

/-- What the parameters of a function stand for. -/
structure Frame where
  values : List (String × Value) := []
  /-- Tables by the names that they have outside. -/
  tables : List (String × String) := []

structure Session where
  shell : State
  /-- The name that complaints begin with. -/
  program : String
  values : Std.HashMap String Value := {}
  tables : Std.HashMap String Table := {}
  frame : Frame := {}
  /-- The record, unless a field was changed since it was looked at. -/
  record : Option Value := some .unset
  fields : Option (Array Value) := none
  /-- The printed text that is not written yet, the last first. -/
  waiting : List String := []
  outputs : List (String × Output) := []
  inputs : List (String × Input) := []
  /-- The records that are read now. -/
  records : Option Input := none
  /-- The argument that is read next. -/
  argument : Nat := 1
  /-- Whether there were any records to read. -/
  hadRecords : Bool := false
  /-- Rules that follow records up to one that ends their range. -/
  ranges : List Nat := []
  status : Nat := 0
  /-- What numbers that nobody can foresee come from. -/
  seed : Nat := 0
  /-- A number that no table of a function has yet. -/
  fresh : Nat := 0

/-- Why a program on records stops what it does. -/
inductive Leave where
  | nextRecord
  | nextFile
  | exited
  /-- Something went wrong in the program. -/
  | failed (message : String)
  /-- Something cannot be done. -/
  | refused (message : String)
  | stopped (s : Stop)

/-- A step of a program on records. -/
abbrev Running := EStateM Leave Session

namespace Running

variable {α : Type}

/-- A step of the process. -/
def act (a : Act α) : Running α := fun s =>
  match a s.shell with
  | .ok r shell => .ok r { s with shell := shell }
  | .error stop shell => .error (.stopped stop) { s with shell := shell }

/-! ## Variables -/

/-- The value of a variable that is no field count. -/
def global (name : String) : Running Value := return (← get).values.getD name .unset

def setGlobal (name : String) (v : Value) : Running Unit :=
  modify fun s => { s with values := s.values.insert name v }

/-- The format that numbers become text by. -/
def numberFormat : Running String := do
  match (← get).values.get? "CONVFMT" with
  | some (.text t) => return t
  | _ => return "%.6g"

def textOf (v : Value) : Running String := do
  match v with
  | .number x => if isWhole x then return wholeText x else return numberText (← numberFormat) x
  | v => return v.toText ""

def globalText (name : String) : Running String := do textOf (← global name)

/-- Reads the expression of a text. -/
def patternOfText (t : String) : Running Expression := do
  match patternOf t with
  | .ok e => return e
  | .error flaw => throw (.failed ("regular expression compile failed (" ++ flaw.message ++ ")\n" ++ t))

/-! ## Fields -/

end Running

/-- What separates fields. -/
inductive Separator where
  | blanks
  | char (c : Char)
  /-- Every character is a field. -/
  | nothing
  | pattern (e : Expression)

/-- Pieces of a text between characters that separate them. -/
def piecesBetween (isSeparator : Char → Bool) (piece : List Char) : List Char → List String
  | [] => [String.ofList piece.reverse]
  | c :: cs =>
    if isSeparator c then String.ofList piece.reverse :: piecesBetween isSeparator [] cs
    else piecesBetween isSeparator (c :: piece) cs

/-- The first match that takes something from a place on. -/
def firstFull? (e : Expression) (before : List Char) : List Char → Option Expression.Found
  | [] => none
  | c :: cs =>
    match Expression.longest? false e ⟨before, c :: cs, []⟩ with
    | some f => if f.text.isEmpty then firstFull? e (c :: before) cs else some f
    | none => firstFull? e (c :: before) cs

/-- Pieces of a text between matches. -/
def piecesAround (e : Expression) (before : List Char) : Nat → List Char → List String
  | 0, cs => [String.ofList cs]
  | n + 1, cs =>
    match firstFull? e before cs with
    | none => [String.ofList cs]
    | some f =>
      String.ofList (cs.take (f.before.length - before.length)) ::
        piecesAround e (f.text.reverse ++ f.before) n f.after

/-- The fields of a text. An end of a line may separate fields besides. -/
def Separator.split (s : Separator) (byLines : Bool) (t : String) : List String :=
  let cs := t.toList
  if t = "" then []
  else
    match s with
    | .blanks => (piecesBetween Arithmetic.isSpace [] cs).filter (· != "")
    | .char c => piecesBetween (fun d => d == c || (byLines && d == '\n')) [] cs
    | .nothing => cs.map Char.toString
    | .pattern e =>
      piecesAround (if byLines then .either e (.char (· == '\n')) else e) [] (cs.length + 1) cs

namespace Running

/-- The separator that a text stands for. -/
def separatorOf (t : String) : Running Separator := do
  match t.toList with
  | [] => return .nothing
  | [c] => return if c = ' ' then .blanks else .char c
  | _ => return .pattern (← patternOfText t)

/-- The fields of the record. -/
def fields : Running (Array Value) := do
  let s ← get
  match s.fields, s.record with
  | some vs, _ => return vs
  | none, r => do
    let t ← textOf (r.getD .unset)
    let separator ← separatorOf (← globalText "FS")
    let byLines := (← globalText "RS") = ""
    let vs := ((separator.split byLines t).map Value.ofInput).toArray
    modify fun s => { s with fields := some vs }
    return vs

/-- The record. -/
def record : Running Value := do
  let s ← get
  match s.record with
  | some r => return r
  | none => do
    let ts ← (s.fields.getD #[]).toList.mapM textOf
    let r := Value.ofInput ((← globalText "OFS").intercalate ts)
    modify fun s => { s with record := some r }
    return r

def setRecord (v : Value) : Running Unit := modify fun s => { s with record := some v, fields := none }

/-- Sets how many fields there are. -/
def setFieldCount (n : Int) : Running Unit := do
  if n < 0 then throw (.failed "negative value assigned to NF")
  let vs ← fields
  let vs := (vs.toList.take n.toNat ++ List.replicate (n.toNat - vs.size) (Value.text "")).toArray
  modify fun s => { s with fields := some vs, record := none }

def setField (n : Nat) (v : Value) : Running Unit := do
  if n = 0 then setRecord (.ofInput (← textOf v))
  else
    if (← fields).size < n then setFieldCount n
    modify fun s => { s with fields := s.fields.map fun vs => vs.setIfInBounds (n - 1) v, record := none }

def field (n : Nat) : Running Value := do
  if n = 0 then record else return ((← fields)[n - 1]?).getD .unset

/-! ## Names -/

def value (name : String) : Running Value := do
  let s ← get
  match s.frame.values.lookup name with
  | some v => return v
  | none => if name = "NF" then return .ofNat (← fields).size else return s.values.getD name .unset

def setValue (name : String) (v : Value) : Running Unit := do
  let s ← get
  if (s.frame.values.lookup name).isSome then
    modify fun s =>
      { s with
        frame := { s.frame with values := s.frame.values.map fun e => if e.1 = name then (name, v) else e } }
  else if name = "NF" then setFieldCount (truncated v.toNumber)
  else
    if name = "FS" then
      let _ ← fields
    setGlobal name v

/-- The name that a table has outside of functions. -/
def tableName (name : String) : Running String := return ((← get).frame.tables.lookup name).getD name

def table (name : String) : Running Table := return (← get).tables.getD (← tableName name) {}

def changeTable (name : String) (f : Table → Table) : Running Unit := do
  let name ← tableName name
  modify fun s => { s with tables := s.tables.alter name fun t => some (f (t.getD {})) }

/-- Whether a name stands for a table. -/
def isTable (name : String) : Running Bool := return (← get).tables.contains (← tableName name)

/-- The key of values between commas. -/
def keyOf (vs : List Value) : Running Key := do
  match vs with
  | [.number x] => do
    return ⟨← textOf (.number x), if isWhole x then some (truncated x) else none⟩
  | vs => return ⟨(← globalText "SUBSEP").intercalate (← vs.mapM textOf), none⟩

/-! ## Writing -/

/-- Writes text that waits to the standard output. -/
def flushPrinted : Running Unit := do
  let waiting := (← get).waiting
  modify fun s => { s with waiting := [] }
  act (Act.print (String.join waiting.reverse))

/-- Writes text that waits for an output. -/
def flushOutput (name : String) : Running Unit := do
  match (← get).outputs.lookup name with
  | none => pure ()
  | some o => do
    if !o.waiting.isEmpty then
      modify fun s =>
        { s with outputs := s.outputs.map fun e => if e.1 = name then (name, { o with waiting := [] }) else e }
      let _ ← act (Act.writeHandle o.handle (bytesOf (String.join o.waiting.reverse)))

/-- Writes all text that waits. -/
def flushAll : Running Unit := do
  flushPrinted
  (← get).outputs.forM fun o => flushOutput o.1

/-- A descriptor that nothing is read from yet. -/
def newPipe : Running Nat := act (Act.newHandle ⟨.pipe [], true, true, false, 0⟩)

/-- Prints a text to the standard output. -/
def emit (t : String) : Running Unit := modify fun s => { s with waiting := t :: s.waiting }

/-- Opens an output. -/
def openOutput (outlet : Outlet) (name : String) : Running Output := do
  match outlet with
  | .command => do
    flushAll
    return ⟨outlet, ← newPipe, []⟩
  | .file appends => do
    match ← act (Act.openPath name (if appends then .append else .write) false) with
    | .ok handle => return ⟨outlet, handle, []⟩
    | .error fault => throw (.refused ("cannot open \"" ++ name ++ "\" for output (" ++ reason fault ++ ")"))

/-- Prints a text to an output. -/
def emitTo (outlet : Outlet) (name t : String) : Running Unit := do
  if outlet != .command && name = "/dev/stdout" then emit t
  else if outlet != .command && name = "/dev/stderr" then
    let _ ← act (Act.write 2 (bytesOf t))
  else
    let o ← match (← get).outputs.lookup name with
      | some o => pure o
      | none => openOutput outlet name
    let others := (← get).outputs.filter fun e => e.1 != name
    modify fun s => { s with outputs := others ++ [(name, { o with waiting := t :: o.waiting })] }

/-! ## Commands -/

/-- Runs a command of the shell with the descriptors that are given. -/
def command (start : Start) (shell text : String) (input output : Option Nat) : Running Ending :=
  act <| Act.inChild do
    if let some n := input then Act.bindDescriptor 0 n
    if let some n := output then Act.bindDescriptor 1 n
    match ← start [shell, "-c", text] with
    | .ok status => return status
    | .error _ => return 127

/-- How the ending of a command is told. -/
def told : Ending → Nat
  | .exited n => n
  | .killed n => 256 + n

/-- Closes an output. Answers how the command ended that it led to. -/
def closeOutput (start : Start) (name : String) (o : Output) : Running Nat := do
  flushOutput name
  modify fun s => { s with outputs := s.outputs.filter fun e => e.1 != name }
  match o.outlet with
  | .file _ => return 0
  | .command => return told (← command start "/bin/sh" name (some o.handle) none)

/-- Closes what has a name. -/
def close (start : Start) (name : String) : Running Value := do
  let s ← get
  match s.outputs.lookup name, s.inputs.lookup name with
  | some o, _ => return .ofNat (← closeOutput start name o)
  | none, some i => do
    modify fun s => { s with inputs := s.inputs.filter fun e => e.1 != name }
    return .ofNat i.status
  | none, none => return .number (-1)

/-! ## Reading -/

/-- How much is read at most where there is no end. -/
def mostBlocks : Nat := 10000

/-- Reads on. -/
def refill (i : Input) : Running Input := do
  match ← act (Act.readHandle i.handle List.length) with
  | .ok [] => return { i with ended := true }
  | .ok bs => return { i with rest := i.rest ++ (Shell.textOf bs).toList }
  | .error fault => throw (.refused ("read error (" ++ reason fault ++ ")"))

/-- The next record of a text up to a character, and what follows it; nothing while its end is not there. -/
def lineAt? (c : Char) (sofar : List Char) : List Char → Option (List Char × List Char)
  | [] => none
  | d :: ds => if d = c then some (sofar.reverse, ds) else lineAt? c (d :: sofar) ds

/-- What separates records. -/
inductive Ender where
  | char (c : Char)
  | emptyLines
  | pattern (e : Expression)

/-- The next record of a text, and what follows it; nothing while its end is not there. -/
def Ender.next? (e : Ender) (cs : List Char) : Option (List Char × List Char) :=
  match e with
  | .char c => lineAt? c [] cs
  | .emptyLines =>
    let rec go (sofar : List Char) : List Char → Option (List Char × List Char)
      | '\n' :: '\n' :: rest => some (sofar.reverse, rest.dropWhile (· == '\n'))
      | c :: rest => go (c :: sofar) rest
      | [] => none
    go [] cs
  | .pattern e =>
    (firstFull? e [] cs).bind fun f => if f.after.isEmpty then none else some (f.before.reverse, f.after)

/-- The last record of a text. -/
def Ender.last? (e : Ender) (cs : List Char) : Option (List Char) :=
  if cs.isEmpty then none
  else
    match e with
    | .char _ => some cs
    | .emptyLines =>
      let cs := (cs.reverse.dropWhile (· == '\n')).reverse
      if cs.isEmpty then none else some cs
    | .pattern e =>
      match firstFull? e [] cs with
      | some f => some f.before.reverse
      | none => some cs

/-- What separates records now. -/
def ender : Running Ender := do
  let t ← globalText "RS"
  match t.toList with
  | [] => return .emptyLines
  | [c] => return .char c
  | _ => return .pattern (← patternOfText t)

/-- Reads a record. -/
def readFrom (e : Ender) (i : Input) : Nat → Running (Option String × Input)
  | 0 => return (none, i)
  | n + 1 => do
    let rest := match e with
      | .emptyLines => i.rest.dropWhile (· == '\n')
      | _ => i.rest
    match e.next? rest with
    | some (t, rest) => return (some (String.ofList t), { i with rest := rest })
    | none =>
      if i.ended then return ((e.last? rest).map String.ofList, { i with rest := [] })
      else readFrom e (← refill { i with rest := rest }) n

/-- Counts a record. -/
def countUp (name : String) : Running Unit := do
  setGlobal name (.number ((← global name).toNumber + 1))

end Running

end ReleaseBundle.Shell.Programs.Record
