import ReleaseBundle.Shell.Programs.Launching
import ReleaseBundle.Shell.Programs.Listing
import ReleaseBundle.Shell.Programs.Regex

/-!
# Finding files

`find` walks through directories and asks the same question about everything that it meets. Some parts of a
question do something when it gets to them: they print, remove or start a program. Names in a directory come in
their order as bytes.
-/

namespace ReleaseBundle.Shell.Programs

open Act

namespace Find

/-- How a number is compared: it is more, less or the same. -/
inductive Measure where
  | more (n : Nat)
  | less (n : Nat)
  | exactly (n : Nat)

def Measure.fits (m : Measure) (k : Nat) : Bool :=
  match m with
  | more n => n < k
  | less n => k < n
  | exactly n => k == n

/-- How permission bits are compared: they are these, hold all of these, or any of them. -/
inductive Bits where
  | exactly (mode : Nat)
  | all (mode : Nat)
  | any (mode : Nat)

def Bits.fits (b : Bits) (mode : Nat) : Bool :=
  match b with
  | exactly n => mode == n
  | all n => mode &&& n == n
  | any n => n == 0 || mode &&& n != 0

/-- What is asked about a path. -/
inductive Question where
  | constant (b : Bool)
  | name (pattern : String) (folds : Bool)
  | path (pattern : String) (folds : Bool)
  | whole (e : Expression)
  | kind (letters : List Char)
  | empty
  | size (unit : Nat) (m : Measure)
  | permissions (b : Bits)
  | owner (allows : Nat)
  | print (ending : String)
  | format (t : String)
  | delete
  /-- Starts a program for each path. -/
  | start (words : List String)
  /-- Starts a program for all paths together, in the end. -/
  | gather (number : Nat) (words : List String)
  | prune
  | quit
  | negation (q : Question)
  | both (a b : Question)
  | either (a b : Question)
  | after (a b : Question)

/-- Whether a question does something that is to be seen. -/
def Question.acts : Question → Bool
  | print _ | format _ | delete | start _ | gather _ _ | quit => true
  | negation q => q.acts
  | both a b | either a b | after a b => a.acts || b.acts
  | _ => false

/-! ## Reading -/

/-- How the walk goes. -/
structure Walk where
  deepest : Nat := 4096
  least : Nat := 0
  /-- Whether a directory comes after what is in it. -/
  contentsFirst : Bool := false
  follows : Bool := false

structure Pending where
  rest : List String
  walk : Walk := {}
  /-- How many questions gather paths. -/
  gathered : Nat := 0
  /-- The name of the question that was read last. -/
  last : String := ""
  /-- Whether something is at a path. -/
  isThere : String → Bool := fun _ => false

abbrev Reading := EStateM String Pending

def next? : Reading (Option String) := do
  match (← get).rest with
  | [] => return none
  | t :: rest => do
    modify fun p => { p with rest := rest }
    return some t

def argument (name : String) : Reading String := do
  match ← next? with
  | some t => return t
  | none => throw ("missing argument to \x60" ++ name ++ "'")

def measure (t : String) : Option (Measure × String) :=
  let (make, cs) : (Nat → Measure) × List Char := match t.toList with
    | '+' :: cs => (.more, cs)
    | '-' :: cs => (.less, cs)
    | cs => (.exactly, cs)
  let ds := cs.takeWhile Char.isDigit
  (String.ofList ds).toNat?.map fun n => (make n, String.ofList (cs.drop ds.length))

def units : List (String × Nat) :=
  [("", 512), ("b", 512), ("c", 1), ("w", 2), ("k", 1024), ("M", 1048576), ("G", 1073741824)]

/-- The words of a program up to the sign that ends them. -/
def command (name : String) (sofar : List String) : Nat → Reading (List String × Bool)
  | 0 => throw ("missing argument to \x60" ++ name ++ "'")
  | n + 1 => do
    match ← next? with
    | none => throw ("missing argument to \x60" ++ name ++ "'")
    | some ";" =>
      if sofar.isEmpty then throw ("missing argument to \x60" ++ name ++ "'")
      else return (sofar.reverse, false)
    | some t =>
      match t, sofar with
      | "+", "\x7b\x7d" :: words => return (words.reverse, true)
      | _, _ => command name (t :: sofar) n

/-- Changes how the walk goes. -/
def setWalk (f : Walk → Walk) : Reading Question := do
  modify fun p => { p with walk := f p.walk }
  return .constant true

def depth (name : String) : Reading Nat := do
  let t ← argument name
  match t.toNat? with
  | some n => return n
  | none => throw ("Expected a positive decimal integer argument to " ++ name ++ ", but got " ++ cited t)

/-- The questions about patterns, which a shell can have replaced by names of files. -/
def patternQuestions : List String :=
  ["-name", "-iname", "-path", "-ipath", "-wholename", "-iwholename", "-regex"]

/-- Refuses a path that comes too late. -/
def stray (path : String) : Reading Question := do
  let p ← get
  throw ("paths must precede expression: \x60" ++ path ++ "'" ++
    if p.isThere path && patternQuestions.contains p.last then
      "\nfind: possible unquoted pattern after predicate \x60" ++ p.last ++ "'?"
    else "")

/-- Reads a question without operators behind its name. -/
def simple (name : String) : Reading Question := do
  if name.startsWith "-" then modify fun p => { p with last := name }
  match name with
  | "-name" => return .name (← argument name) false
  | "-iname" => return .name (← argument name) true
  | "-path" | "-wholename" => return .path (← argument name) false
  | "-ipath" | "-iwholename" => return .path (← argument name) true
  | "-regex" =>
    match Expression.read false (← argument name) with
    | .ok e => return .whole e
    | .error problem => throw problem
  | "-type" | "-xtype" => do
    let t ← argument name
    let letters := t.toList.filter (· != ',')
    match letters.find? fun c => !"bcdpflsD".contains c with
    | some c => throw ("Unknown argument to " ++ name ++ ": " ++ c.toString)
    | none => return .kind letters
  | "-empty" => return .empty
  | "-size" => do
    let t ← argument name
    match (measure t).bind fun (m, unit) => (units.lookup unit).map fun u => (m, u) with
    | some (m, u) => return .size u m
    | none => throw ("Invalid argument \x60" ++ t ++ "' to -size")
  | "-perm" => do
    let t ← argument name
    let (make, text) : (Nat → Bits) × String := match t.toList with
      | '-' :: cs => (.all, String.ofList cs)
      | '/' :: cs => (.any, String.ofList cs)
      | _ => (.exactly, t)
    match Mode.applied? 0 false text 0 with
    | some bits => return .permissions (make bits)
    | none => throw ("invalid mode " ++ cited t)
  | "-executable" => return .owner 0o100
  | "-readable" => return .owner 0o400
  | "-writable" => return .owner 0o200
  | "-print" => return .print "\n"
  | "-print0" => return .print "\x00"
  | "-printf" => return .format (← argument name)
  | "-delete" => do
    let _ ← setWalk fun w => { w with contentsFirst := true }
    return .delete
  | "-exec" | "-execdir" | "-ok" => do
    let (words, gathers) ← command name [] ((← get).rest.length + 1)
    if gathers then do
      let n := (← get).gathered
      modify fun p => { p with gathered := n + 1 }
      return .gather n words
    else return .start words
  | "-prune" => return .prune
  | "-quit" => return .quit
  | "-true" => return .constant true
  | "-false" => return .constant false
  | "-maxdepth" => do
    let n ← depth name
    setWalk fun w => { w with deepest := n }
  | "-mindepth" => do
    let n ← depth name
    setWalk fun w => { w with least := n }
  | "-depth" => setWalk fun w => { w with contentsFirst := true }
  | "-follow" => setWalk fun w => { w with follows := true }
  | "-xdev" | "-mount" | "-noleaf" | "-warn" | "-nowarn" => return .constant true
  | "-user" | "-group" | "-regextype" => do
    let _ ← argument name
    return .constant true
  | "-newer" => do
    let t ← argument name
    if !((← get).isThere t) then throw (cited t ++ ": No such file or directory")
    return .constant false
  | "-mtime" | "-mmin" | "-atime" | "-ctime" => do
    let t ← argument name
    if ((measure t).filter fun m => m.2 = "").isNone then
      throw ("invalid argument \x60" ++ t ++ "' to \x60" ++ name ++ "'")
    return .constant false
  | name =>
    if name.startsWith "-" then throw ("unknown predicate \x60" ++ name ++ "'")
    else stray name

mutual

/-- Reads questions between commas. -/
def sequence : Nat → Reading Question
  | 0 => throw "invalid expression"
  | n + 1 => do
    let a ← disjunction n
    match (← get).rest with
    | "," :: rest => do
      modify fun p => { p with rest := rest }
      return .after a (← sequence n)
    | _ => return a

def disjunction : Nat → Reading Question
  | 0 => throw "invalid expression"
  | n + 1 => do
    let a ← conjunction n
    match (← get).rest with
    | o :: rest =>
      if o = "-o" ∨ o = "-or" then
        if rest.isEmpty then throw ("expected an expression after '" ++ o ++ "'")
        modify fun p => { p with rest := rest }
        return .either a (← disjunction n)
      else return a
    | [] => return a

def conjunction : Nat → Reading Question
  | 0 => throw "invalid expression"
  | n + 1 => do
    let a ← single n
    match (← get).rest with
    | [] => return a
    | o :: rest =>
      if o = "-a" ∨ o = "-and" then
        if rest.isEmpty then throw ("expected an expression after '" ++ o ++ "'")
        modify fun p => { p with rest := rest }
        return .both a (← conjunction n)
      else if o = "-o" ∨ o = "-or" ∨ o = ")" ∨ o = "," then return a
      else return .both a (← conjunction n)

def single : Nat → Reading Question
  | 0 => throw "invalid expression"
  | n + 1 => do
    match ← next? with
    | none => throw "invalid expression"
    | some t =>
      if t = "!" ∨ t = "-not" then
        if (← get).rest.isEmpty then throw ("expected an expression after '" ++ t ++ "'")
        return .negation (← single n)
      else if t = "(" then do
        let q ← sequence n
        match ← next? with
        | some ")" => return q
        | _ => throw "invalid expression; I was expecting to find a ')' somewhere but did not see one."
      else if t = ")" then throw "you have too many ')'"
      else if ["-o", "-or", "-a", "-and", ","].contains t then
        throw ("invalid expression; you have used a binary operator '" ++ t ++ "' with nothing before it.")
      else simple t

end

/-- Reads a question; what asks for nothing to be done prints. -/
def question : Reading Question := do
  if (← get).rest.isEmpty then return .print "\n"
  else
    let q ← sequence (8 * (← get).rest.length + 16)
    if !(← get).rest.isEmpty then throw "you have too many ')'"
    return if q.acts then q else .both q (.print "\n")

/-! ## Walking -/

/-- What was met: its path, how deep it lies, and what is there. -/
structure Meeting where
  path : String
  start : String
  depth : Nat
  at_ : Location
  node : Node

structure Finder where
  gathered : List (Nat × String) := []
  pruned : Bool := false
  quit : Bool := false
  failed : Bool := false

abbrev Finding := StateT Finder Act

/-- The marks of a pattern, where a backslash takes the meaning from the character behind it. -/
def wildcard : List Char → List Mark
  | [] => []
  | '\\' :: c :: rest => ⟨c, true⟩ :: wildcard rest
  | c :: rest => ⟨c, false⟩ :: wildcard rest

def covers (pattern text : String) (folds : Bool) : Bool :=
  if folds then Wildcard.covers (wildcard pattern.toLower.toList) text.toLower
  else Wildcard.covers (wildcard pattern.toList) text

def complain (t : String) : Finding Unit := do
  Act.complain ("find: " ++ t)
  modify fun f => { f with failed := true }

/-- What a letter in a format stands for. -/
def letter (d : Disk) (m : Meeting) : Char → String
  | 'p' => m.path
  | 'f' => lastName m.path
  | 'h' => directoryName m.path
  | 'P' => ((m.path.drop m.start.length).toString.dropWhile (· == '/')).toString
  | 'H' => m.start
  | 's' => toString (listedSize d m.node)
  | 'd' => toString m.depth
  | 'm' => String.ofList (Nat.toDigits 8 (modeOf d m.node))
  | 'M' => (kindLetter m.node).toString ++ Mode.text (modeOf d m.node)
  | 'y' => match m.node with
    | .file _ => "f"
    | .directory => "d"
    | .link _ => "l"
  | 'l' => match m.node with
    | .link target => textOf target.bytes
    | _ => ""
  | 'n' => toString (nameCount d m.at_ m.node)
  | '%' => "%"
  | c => "%" ++ c.toString

/-- The text that a format makes of what was met. -/
def formatted (d : Disk) (m : Meeting) : Nat → List Char → String
  | 0, _ | _, [] => ""
  | n + 1, '%' :: c :: rest => letter d m c ++ formatted d m n rest
  | n + 1, '\\' :: c :: rest =>
    let (cs, rest) := Shell.Format.escape (c :: rest)
    String.ofList cs ++ formatted d m n rest
  | n + 1, c :: rest => c.toString ++ formatted d m n rest

/-- Runs a program and tells whether it went well. -/
def started (start : Start) (words : List String) : Act Bool := do
  let ending ← inChild <| becomeOr start words fun name fault => "find: " ++ cited name ++ ": " ++ reason fault
  return ending.status = 0

/-- Answers a question about what was met. -/
def ask (start : Start) (m : Meeting) : Question → Finding Bool
  | .constant b => return b
  | .name pattern folds => return covers pattern (lastName m.path) folds
  | .path pattern folds => return covers pattern m.path folds
  | .whole e =>
    return (Expression.ends false e ⟨[], m.path.toList, []⟩).any fun q => q.after.isEmpty
  | .kind letters =>
    let own := match m.node with
      | .file _ => 'f'
      | .directory => 'd'
      | .link _ => 'l'
    return letters.contains own
  | .empty => do
    let d := (← getThe State).disk
    match m.node with
    | .directory => return (d.children m.at_).isEmpty
    | .file n => return (d.data n).content.isEmpty
    | .link _ => return false
  | .size unit measure => do
    let n := listedSize (← getThe State).disk m.node
    return measure.fits ((n + unit - 1) / unit)
  | .permissions b => return b.fits (modeOf (← getThe State).disk m.node)
  | .owner bits => return modeOf (← getThe State).disk m.node &&& bits != 0
  | .print ending => do
    Act.print (m.path ++ ending)
    return true
  | .format t => do
    Act.print (formatted (← getThe State).disk m t.length t.toList)
    return true
  | .delete => do
    let holds ← Act.look fun d => m.node == .directory && !(d.children m.at_).isEmpty
    if holds then do
      complain ("cannot delete " ++ cited m.path ++ ": Directory not empty")
      return false
    else if m.path = "." then return true
    else do
      Act.change (forget m.at_)
      return true
  | .start words => started start (words.map fun w => w.replace "\x7b\x7d" m.path)
  | .gather n _ => do
    modify fun f => { f with gathered := (n, m.path) :: f.gathered }
    return true
  | .prune => do
    modify fun f => { f with pruned := true }
    return true
  | .quit => do
    modify fun f => { f with quit := true }
    return true
  | .negation q => return !(← ask start m q)
  | .both a b => do
    if (← ask start m a) && !(← get).quit then ask start m b else return false
  | .either a b => do
    if (← ask start m a) || (← get).quit then return true else ask start m b
  | .after a b => do
    let _ ← ask start m a
    ask start m b

/-- Asks about a path and everything below it. -/
def walk (start : Start) (w : Walk) (q : Question) (origin path : String) (depth : Nat) (follows : Bool) :
    Nat → Finding Unit
  | 0 => return
  | n + 1 => do
    if (← get).quit then return
    let found ← Act.look fun d =>
      match if follows then d.stat (pathOf path) else d.lstat (pathOf path) with
      | .error fault => if follows then d.lstat (pathOf path) else .error fault
      | found => found
    match found with
    | .error fault => complain (cited path ++ ": " ++ reason fault)
    | .ok (at_, node) => do
      let meeting : Meeting := ⟨path, origin, depth, at_, node⟩
      let askHere : Finding Unit := do
        if w.least ≤ depth && !(← get).quit then
          let _ ← ask start meeting q
      modify fun f => { f with pruned := false }
      if !w.contentsFirst then askHere
      let pruned := (← get).pruned && !w.contentsFirst
      let isGone ← Act.look fun d => !(d.lstat (pathOf path)).isOk
      if node == .directory && isGone then complain (cited path ++ ": " ++ reason (.os .notFound))
      else if node == .directory && depth < w.deepest && !pruned then
        let names := (← entries path).mergeSort (· ≤ ·)
        names.forM fun name => walk start w q origin (inside path name) (depth + 1) w.follows n
      if w.contentsFirst then askHere

/-- The programs that gathered paths are for. -/
def gatherings : Question → List (Nat × List String)
  | .gather n words => [(n, words)]
  | .negation q => gatherings q
  | .both a b | .either a b | .after a b => gatherings a ++ gatherings b
  | _ => []

end Find

def find : Launcher := fun start args => do
  let leading := args.takeWhile fun a => ["-L", "-H", "-P", "-O3", "-O2", "-O1"].contains a
  let follows := leading.getLast? = some "-L"
  let args := args.drop leading.length
  let isPath (a : String) : Bool := !(a.startsWith "-" && a != "-") && a != "(" && a != "!" && a != ")" && a != ","
  let paths := args.takeWhile isPath
  let d := (← get).disk
  let pending : Find.Pending :=
    { rest := args.drop paths.length, walk := { follows := follows }
      isThere := fun t => (d.stat (pathOf t)).isOk }
  match Find.question.run pending with
  | .error problem _ => do
    complain ("find: " ++ problem)
    return 1
  | .ok q p => do
    let paths := if paths.isEmpty then ["."] else paths
    let work : Find.Finding Unit :=
      paths.forM fun t => Find.walk start p.walk q t t 0 (p.walk.follows || leading.getLast? = some "-H") deepest
    let ((), f) ← work.run {}
    let fine ← (Find.gatherings q).allM fun (n, words) => do
      let gathered := (f.gathered.reverse.filter fun g => g.1 == n).map Prod.snd
      if gathered.isEmpty then return true else Find.started start (words ++ gathered)
    return if f.failed || !fine then 1 else 0

end ReleaseBundle.Shell.Programs
