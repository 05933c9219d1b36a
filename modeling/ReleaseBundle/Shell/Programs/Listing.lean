import ReleaseBundle.Disk.Difference
import ReleaseBundle.Shell.Builtins
import ReleaseBundle.Shell.Programs.Files

/-!
# Programs that look at files

Listing directories, and telling about paths and where they lead.
-/

namespace ReleaseBundle.Shell.Programs

open Act

/-! ## Listing -/

/-- What is listed: a name, and what it leads to. -/
structure Entry where
  name : String
  at_ : Location
  node : Node

/-- The permission bits of a node; directories and links have usual ones. -/
def modeOf (d : Disk) : Node → Nat
  | .directory => 0o755
  | .link _ => 0o777
  | .file n => (d.data n).mode % 4096

/-- The size of a node as it is listed. -/
def listedSize (d : Disk) : Node → Nat
  | .directory => 4096
  | .link target => target.bytes.length
  | .file n => (d.data n).content.length

/-- How many names a node has. -/
def nameCount (d : Disk) (at_ : Location) : Node → Nat
  | .directory => 2 + ((d.children at_).filter fun c => c.2 == .directory).length
  | .link _ => 1
  | .file n => (d.numbers.filter (· == n)).length

/-- How many blocks a node takes. -/
def blockCount (d : Disk) : Node → Nat
  | .directory => 4
  | .link _ => 0
  | .file n => ((d.data n).content.length + 4095) / 4096 * 4

def kindLetter : Node → Char
  | .directory => 'd'
  | .link _ => 'l'
  | .file _ => '-'

def listManual : Manual :=
  { program := "ls", flags := "1aAdFpRrSlLHmnogsiQbNhtucUXvBCxkqfG", valued := "IwT:"
    misuse := 2
    long := [("group-directories-first", '^'), ("hide", 'I'), ("all", 'a'), ("almost-all", 'A'), ("directory", 'd'), ("recursive", 'R'), ("reverse", 'r'),
      ("color", ':'), ("classify", 'F'), ("ignore", 'I'), ("quote-name", 'Q'), ("literal", 'N'),
      ("sort", ':'), ("size", 's'), ("inode", 'i'), ("human-readable", 'h'), ("dereference", 'L')] }

/-- The name of an entry with the mark that is asked for. -/
def markedName (d : Disk) (a : Arguments) (e : Entry) : String :=
  let name := if a.has 'Q' then "\"" ++ e.name ++ "\"" else e.name
  let mark := match e.node with
    | .directory => if a.hasAny "Fp" then "/" else ""
    | .link _ => if a.has 'F' then "@" else ""
    | .file n => if a.has 'F' && (d.data n).mode &&& 0o111 != 0 then "*" else ""
  name ++ mark

/-- The line of an entry. -/
def entryLine (d : Disk) (a : Arguments) (e : Entry) : String :=
  let name := markedName d a e
  let blocks := if a.has 's' then toString (blockCount d e.node) ++ " " else ""
  if a.hasAny "lnog" then
    let owner := if a.has 'g' then "" else "root "
    let group := if a.has 'o' then "" else "root "
    let arrow := match e.node with
      | .link target => " -> " ++ textOf target.bytes
      | _ => ""
    blocks ++ (kindLetter e.node).toString ++ Mode.text (modeOf d e.node) ++ " " ++
      toString (nameCount d e.at_ e.node) ++ " " ++ owner ++ group ++ toString (listedSize d e.node) ++
      " Jan  1 00:00 " ++ name ++ arrow
  else blocks ++ name

/-- Prints entries. -/
def printEntries (a : Arguments) (es : List Entry) : Act Unit := do
  let d := (← get).disk
  let lines := es.map (entryLine d a)
  if lines.isEmpty then return
  if a.has 'm' then print (", ".intercalate lines ++ "\n")
  else print (String.join (lines.map (· ++ "\n")))

/-- Entries in the order that is asked for. -/
def sortedEntries (d : Disk) (a : Arguments) (es : List Entry) : List Entry :=
  let byName := es.mergeSort fun x y => x.name ≤ y.name
  let sorted := if a.has 'S' then byName.mergeSort fun x y => listedSize d y.node ≤ listedSize d x.node
    else byName
  let turned := if a.has 'r' then sorted.reverse else sorted
  if a.has '^' then
    let (directories, others) := turned.partition fun e => e.node == .directory
    directories ++ others
  else turned

/-- Lists a directory, and those below it on request. -/
def listDirectory (a : Arguments) (headed : Bool) (t : String) (at_ : Location) : Nat → Act Unit
  | 0 => return
  | n + 1 => do
    let d := (← get).disk
    let hides (name : String) : Bool :=
      !a.hasAny "aA" && name.startsWith "." ||
        (a.values 'I').any fun p => Wildcard.covers (p.toList.map fun c => ⟨c, false⟩) name
    let own := (d.children at_).map fun c => Entry.mk (textOf c.1.bytes) (c.1 :: at_) c.2
    let dots := if a.has 'a' then [Entry.mk "." at_ .directory, .mk ".." at_.tail .directory] else []
    let es := sortedEntries d a (dots ++ own.filter fun e => !hides e.name)
    if headed then print (t ++ ":\n")
    if a.hasAny "lnogs" then
      print ("total " ++ toString (es.foldl (fun n e => n + blockCount d e.node) 0) ++ "\n")
    printEntries a es
    if a.has 'R' then
      es.forM fun e => do
        if e.node == .directory && e.name != "." && e.name != ".." then
          print "\n"
          listDirectory a true (inside t e.name) e.at_ n

def list : Program :=
  let m := listManual
  m.run fun a => do
    let operands := if a.operands.isEmpty then ["."] else a.operands
    let follows := !(a.has 'd' || a.has 'F' || a.hasAny "lnog") || a.hasAny "LH"
    let (status, files, directories) ← operands.foldlM
      (fun (status, files, directories) t => do
        let found ← match ← if follows then stat? t else lstat? t with
          | .error (.os .notFound) => lstat? t
          | found => pure found
        match found with
        | .error fault => do
          m.complain ("cannot access " ++ quoted t ++ ": " ++ reason fault)
          return (2, files, directories)
        | .ok (at_, node) =>
          let e := Entry.mk t at_ node
          if node == .directory && !a.has 'd' then return (status, files, e :: directories)
          else return (status, e :: files, directories))
      ((0 : Nat), ([] : List Entry), ([] : List Entry))
    let d := (← get).disk
    printEntries a (sortedEntries d a files.reverse)
    let headed := operands.length > 1 || a.has 'R'
    let _ ← (sortedEntries d a directories.reverse).foldlM
      (fun first e => do
        if !first then print "\n"
        listDirectory a headed e.name e.at_ deepest
        return false)
      files.isEmpty
    return status

/-! ## Names -/

def baseName : Program :=
  let m : Manual :=
    { program := "basename", flags := "az", valued := "s", long := [("multiple", 'a'), ("suffix", 's')], mixed := false }
  let shorten (name suffix : String) : String :=
    if suffix != "" && name.endsWith suffix && name != suffix then
      String.ofList (name.toList.take (name.length - suffix.length))
    else name
  m.run fun a => do
    let say (suffix : String) (t : String) : Act Unit := print (shorten (lastName t) suffix ++ "\n")
    match a.operands with
    | [] => m.misused "missing operand"
    | t :: rest =>
      if a.hasAny "as" then do
        (t :: rest).forM (say ((a.value? 's').getD ""))
        return 0
      else
        match rest with
        | [] => do say "" t; return 0
        | [suffix] => do say suffix t; return 0
        | _ :: extra :: _ => m.misused ("extra operand " ++ cited extra)

/-- The path without its last part. -/
def directoryName (t : String) : String :=
  (parent? t).getD (if t.startsWith "/" then "/" else ".")

def dirName : Program :=
  let m : Manual := { program := "dirname", flags := "z" }
  m.run fun a => do
    if a.operands.isEmpty then m.misused "missing operand"
    else do
      a.operands.forM fun t => print (directoryName t ++ "\n")
      return 0

/-! ## Where paths lead -/

/-- How much of a path has to exist. -/
inductive Existence where
  | all
  | allButLast
  | nothing
  deriving DecidableEq

/-- The path without links that a path stands for. -/
def resolved (e : Existence) (t : String) : Act (Except Fault String) := do
  let d := (← get).disk
  let text (at_ : Location) := textOf (Disk.pathOf at_).bytes
  match d.locate (pathOf t) with
  | .ok (.found at_ _) => return .ok (text at_)
  | .ok (.vacant dir name) =>
    if e = .all then return .error (.os .notFound) else return .ok (text (name :: dir))
  | .error fault =>
    if e = .nothing then
      let here := textOf (Disk.pathOf d.cwd).bytes
      return .ok (Builtin.normalized (if t.startsWith "/" then t else here ++ "/" ++ t))
    else if e = .allButLast && t.endsWith "/" then
      match d.locate (pathOf t).withoutSlashes with
      | .ok (.vacant dir name) => return .ok (text (name :: dir))
      | _ => return .error fault
    else return .error fault

def readLink : Program :=
  let m : Manual :=
    { program := "readlink", flags := "femnvqsz"
      long := [("canonicalize", 'f'), ("canonicalize-existing", 'e'), ("canonicalize-missing", 'm'),
        ("no-newline", 'n'), ("verbose", 'v')] }
  m.run fun a => do
    if a.operands.isEmpty then m.misused "missing operand"
    else
      let ending := if a.has 'n' && a.operands.length = 1 then "" else "\n"
      forEach
        (fun t => do
          let found ← match a.last? "fem" with
            | some 'f' => resolved .allButLast t
            | some 'e' => resolved .all t
            | some _ => resolved .nothing t
            | none =>
              match ← lstat? t with
              | .ok (_, .link target) => pure (.ok (textOf target.bytes))
              | .ok _ => pure (.error (.os .invalidArgument))
              | .error fault => pure (.error fault)
          match found with
          | .ok shown => do
            print (shown ++ ending)
            return 0
          | .error fault => do
            if a.has 'v' then m.complain (quotedIfNeeded t ++ ": " ++ reason fault)
            return 1)
        a.operands

def realPath : Program :=
  let m : Manual :=
    { program := "realpath", flags := "emsqLPz", valued := "R"
      long := [("canonicalize-existing", 'e'), ("canonicalize-missing", 'm'), ("strip", 's'),
        ("no-symlinks", 's'), ("relative-to", 'R'), ("quiet", 'q')] }
  m.run fun a => do
    if a.operands.isEmpty then m.misused "missing operand"
    else
      forEach
        (fun t => do
          let here ← look fun d => textOf (Disk.pathOf d.cwd).bytes
          let found ← match a.last? "em" with
            | some 'e' => resolved .all t
            | some _ => resolved .nothing t
            | none =>
              if a.has 's' then
                pure (.ok (Builtin.normalized (if t.startsWith "/" then t else here ++ "/" ++ t)))
              else resolved .allButLast t
          match found with
          | .ok shown => do
            let shown ← match a.value? 'R' with
              | some base => do
                match ← resolved .allButLast base with
                | .ok b => pure (relativeFrom (Disk.locationOf (pathOf b)) (Disk.locationOf (pathOf shown)))
                | .error _ => pure shown
              | none => pure shown
            print (shown ++ "\n")
            return 0
          | .error fault => do
            if !a.has 'q' then m.complain (quotedIfNeeded t ++ ": " ++ reason fault)
            return 1)
        a.operands

/-- The name of a kind of node. -/
def kindName (d : Disk) : Node → String
  | .directory => "directory"
  | .link _ => "symbolic link"
  | .file n => if (d.data n).content.isEmpty then "regular empty file" else "regular file"

/-- Fills a format with what is known of a path. -/
def describePath (d : Disk) (t : String) (at_ : Location) (node : Node) (escapes : Bool) :
    Nat → List Char → String
  | 0, _ => ""
  | _, [] => ""
  | n + 1, '%' :: c :: cs =>
    let kind := match node with
      | .directory => 0o40000
      | .link _ => 0o120000
      | .file _ => 0o100000
    let shown := match c with
      | 'n' => t
      | 'N' => match node with
        | .link target => quoted t ++ " -> " ++ quoted (textOf target.bytes)
        | _ => quoted t
      | 's' => toString (listedSize d node)
      | 'a' => Mode.digits (modeOf d node)
      | 'A' => (kindLetter node).toString ++ Mode.text (modeOf d node)
      | 'F' => kindName d node
      | 'h' => toString (nameCount d at_ node)
      | 'f' => String.ofList (Nat.toDigits 16 (kind + modeOf d node))
      | 'U' | 'G' => "root"
      | 'u' | 'g' => "0"
      | '%' => "%"
      | _ => "?"
    shown ++ describePath d t at_ node escapes n cs
  | n + 1, '\\' :: cs =>
    if escapes then
      let (shown, rest) := Format.escape cs
      String.ofList shown ++ describePath d t at_ node escapes n rest
    else "\\" ++ describePath d t at_ node escapes n cs
  | n + 1, c :: cs => c.toString ++ describePath d t at_ node escapes n cs

def status : Program :=
  let m : Manual :=
    { program := "stat", flags := "Lft", valued := "cp"
      long := [("format", 'c'), ("printf", 'p'), ("dereference", 'L'), ("terse", 't')] }
  m.run fun a => do
    if a.operands.isEmpty then m.misused "missing operand"
    else
      forEach
        (fun t => do
          match ← if a.has 'L' then stat? t else lstat? t with
          | .error fault => m.failed ("cannot statx " ++ quoted t ++ ": " ++ reason fault)
          | .ok (at_, node) => do
            let d := (← get).disk
            match a.value? 'c', a.value? 'p' with
            | some format, _ => print (describePath d t at_ node false (format.length + 1) format.toList ++ "\n")
            | none, some format => print (describePath d t at_ node true (format.length + 1) format.toList)
            | none, none => print ("  File: " ++ t ++ "\n")
            return 0)
        a.operands

/-- Puts letters that depend on a number in the place of the last `X`s of a template. -/
def filledTemplate (template : List Char) (number : Nat) : List Char :=
  let back := template.reverse
  let behind := back.takeWhile (· != 'X')
  let xs := (back.drop behind.length).takeWhile (· == 'X')
  let letters := (List.range xs.length).map fun i => Char.ofNat (97 + (number / Nat.pow 7 i + 5 * i) % 26)
  ((back.drop (behind.length + xs.length)).reverse ++ letters) ++ behind.reverse

def makeTemporary : Program :=
  let m : Manual :=
    { program := "mktemp", flags := "duqt", valued := "ps"
      long := [("directory", 'd'), ("dry-run", 'u'), ("quiet", 'q'), ("tmpdir", 't'), ("suffix", 's')] }
  m.run fun a => do
    if 1 < a.operands.length then return ← m.misused "too many templates"
    let given := a.operands.head?
    let place := a.value? 'p'
    let template := given.getD "tmp.XXXXXXXXXX" ++ (a.value? 's').getD ""
    let xs := ((template.toList.reverse.dropWhile (· != 'X')).takeWhile (· == 'X')).length
    if xs < 3 then m.failed ("too few X's in template " ++ cited template)
    else
      let standard ← do
        match ← value? "TMPDIR" with
        | some t => pure (if t = "" then "/tmp" else t)
        | none => pure "/tmp"
      let directory := match place with
        | some p => some (if p = "" then standard else p)
        | none => if given.isNone || a.has 't' then some standard else none
      let number ← fresh
      let name := String.ofList (filledTemplate template.toList number)
      let path := match directory with
        | some dir => inside dir name
        | none => name
      let shown := match directory with
        | some dir => inside dir template
        | none => template
      let fault? ←
        if a.has 'u' then pure none
        else if a.has 'd' then changing fun d => d.makeDirectory (pathOf path)
        else do
          match ← attempt fun d => d.openForWriting (pathOf path) 0o600 with
          | .ok _ => pure none
          | .error fault => pure (some fault)
      match fault? with
      | some fault =>
        m.failed ("failed to create " ++ (if a.has 'd' then "directory" else "file") ++ " via template " ++
          cited shown ++ ": " ++ reason fault)
      | none => do
        print (path ++ "\n")
        return 0

def printDirectory : Program := fun args => do
  let here ← look fun d => textOf (Disk.pathOf d.cwd).bytes
  let logical := (← value? "PWD").getD here
  print ((if args.contains "-L" then logical else here) ++ "\n")
  return 0

end ReleaseBundle.Shell.Programs
