import ReleaseBundle.Shell.Programs.Files
import ReleaseBundle.Shell.Programs.Regex

/-!
# Looking for lines

`grep` prints the lines in which one of its expressions matches, or tells whether there are any. The status is
zero if there are, one if there are none, and two if something went wrong.
-/

namespace ReleaseBundle.Shell.Programs

open Act

/-- What lines are looked for. -/
structure Sought where
  expressions : List Expression
  folds : Bool := false
  negated : Bool := false
  wholeLines : Bool := false
  wholeWords : Bool := false

namespace Sought

/-- The expression of a text that stands for itself. -/
def literal (t : String) : Expression :=
  t.toList.foldl (fun e c => .sequence e (.char (· == c))) .nothing

/-- Whether a match that began behind some characters may end at a place. -/
def allows (s : Sought) (before : List Char) (q : Expression.Place) : Bool :=
  (!s.wholeLines || (before.isEmpty && q.after.isEmpty)) &&
    (!s.wholeWords || (!(before.head?.any Expression.isWord) && !(q.after.head?.any Expression.isWord)))

/-- The longest match at a place: how many characters it takes. -/
def lengthAt? (s : Sought) (before after : List Char) : Option Nat :=
  let lengths := s.expressions.flatMap fun e =>
    ((Expression.ends s.folds e ⟨before, after, []⟩).filter (s.allows before)).map fun q =>
      after.length - q.after.length
  lengths.max?

/-- The first match from a place on: what is before it, it, and what follows. -/
def first? (s : Sought) (before : List Char) (after : List Char) : Option (List Char × List Char × List Char) :=
  match s.lengthAt? before after, after with
  | some n, _ => some (before, after.take n, after.drop n)
  | none, [] => none
  | none, c :: rest => first? s (c :: before) rest

/-- All matches that take something. -/
def all (s : Sought) (before after : List Char) : Nat → List (List Char)
  | 0 => []
  | n + 1 =>
    match s.first? before after with
    | none => []
    | some (before, [], after) =>
      match after with
      | [] => []
      | c :: rest => all s (c :: before) rest n
    | some (before, found, after) => found :: all s (found.reverse ++ before) after n

/-- Whether a line is one that is looked for. -/
def selects (s : Sought) (line : String) : Bool := (s.first? [] line.toList).isSome != s.negated

end Sought

def matchManual : Manual :=
  { program := "grep", flags := "EFGPivcnlLoxwqshHrRabzZUyT", valued := "emABCfDd+^", misuse := 2
    long := [("extended-regexp", 'E'), ("fixed-strings", 'F'), ("basic-regexp", 'G'), ("perl-regexp", 'P'),
      ("ignore-case", 'i'), ("invert-match", 'v'), ("count", 'c'), ("line-number", 'n'), ("quiet", 'q'),
      ("silent", 'q'), ("files-with-matches", 'l'), ("files-without-match", 'L'), ("only-matching", 'o'),
      ("line-regexp", 'x'), ("word-regexp", 'w'), ("no-messages", 's'), ("no-filename", 'h'),
      ("with-filename", 'H'), ("recursive", 'r'), ("dereference-recursive", 'R'), ("text", 'a'), ("regexp", 'e'),
      ("max-count", 'm'), ("file", 'f'), ("after-context", 'A'), ("before-context", 'B'), ("context", 'C'),
      ("include", '+'), ("exclude", '^'), ("color", 'U'), ("colour", 'U'), ("byte-offset", 'b')] }

/-- Says how the program is used. -/
def matchUsage : Act Nat := do
  complain "Usage: grep [OPTION]... PATTERNS [FILE]..."
  complain "Try 'grep --help' for more information."
  return 2

/-- Options that are a number stand for lines around what is found. -/
def withContextOption : List String → List String
  | [] => []
  | "--" :: rest => "--" :: rest
  | a :: rest =>
    match a.toList with
    | '-' :: c :: cs =>
      if c.isDigit && cs.all Char.isDigit then ("-C" ++ String.ofList (c :: cs)) :: withContextOption rest
      else if a.startsWith "--color" || a.startsWith "--colour" then withContextOption rest
      else a :: withContextOption rest
    | _ => a :: withContextOption rest

/-- How found lines are shown. -/
structure Display where
  named : Bool
  numbered : Bool
  before : Nat := 0
  after : Nat := 0

/-- The lines that are shown of a text: those that were found and those around them, by their numbers. -/
def Display.around (s : Display) (count : Nat) (found : List Nat) : List Nat :=
  (List.range count).filter fun i => found.any fun f => f ≤ i + s.before && i ≤ f + s.after

/-- How lines begin: with the name of the file and their number. -/
def Display.heading (s : Display) (name : String) (number : Nat) (mark : String) : String :=
  (if s.named then name ++ mark else "") ++ if s.numbered then toString (number + 1) ++ mark else ""

/-- What is printed of a text. -/
def Display.shown (s : Display) (name : String) (lines : List String) (found : List Nat) : List String :=
  let chosen := s.around lines.length found
  let gaps := s.before + s.after > 0
  (chosen.zip (chosen.head? :: chosen.map some)).flatMap fun (i, previous) =>
    let break_ := gaps && previous != some i && previous.any (· + 1 < i)
    (if break_ then ["--"] else []) ++
      [s.heading name i (if found.contains i then ":" else "-") ++ lines.getD i ""]

/-- Looks through the text of one file. Answers whether something was found. -/
def matchText (a : Arguments) (s : Sought) (display : Display) (most : Option Nat) (name text : String) :
    Act Bool := do
  let lines := linesOf text
  let all := (List.range lines.length).filter fun i => s.selects (lines.getD i "")
  let found := match most with
    | some n => all.take n
    | none => all
  let isFound := !found.isEmpty
  if a.has 'q' then return isFound
  else if a.has 'L' then do
    if !isFound then print (name ++ "\n")
    return isFound
  else if a.has 'l' then do
    if isFound then print (name ++ "\n")
    return isFound
  else if a.has 'c' then do
    print ((if display.named then name ++ ":" else "") ++ toString found.length ++ "\n")
    return isFound
  else if isFound && text.contains '\x00' && !a.has 'a' then do
    matchManual.complain (name ++ ": binary file matches")
    return isFound
  else if a.has 'o' then do
    if !s.negated then
      found.forM fun i =>
        let line := (lines.getD i "").toList
        (s.all [] line (2 * line.length + 2)).forM fun t =>
          print (display.heading name i ":" ++ String.ofList t ++ "\n")
    return isFound
  else do
    print (unlines (display.shown name lines found))
    return isFound

/-- The files below a path, by name. -/
def filesBelow (t : String) : Nat → Act (List String)
  | 0 => return []
  | n + 1 => do
    match ← lstat? t with
    | .ok (_, .directory) => do
      let names := (← entries t).mergeSort (· ≤ ·)
      names.flatMapM fun name => filesBelow (inside t name) n
    | .ok (_, .file _) => return [t]
    | _ => return []

/-- Reads the expressions that are looked for. -/
def soughtOf (a : Arguments) (texts : List String) : Except String Sought := do
  let expressions ← (texts.flatMap fun t => t.splitOn "\n").mapM fun t =>
    if a.has 'F' then .ok (Sought.literal t)
    else
      match Expression.read (a.has 'E' || a.has 'P') t with
      | .ok e => .ok e
      | .error problem =>
        .error (if problem.startsWith "Unmatched [" then
          (if t.endsWith "[" then "Invalid regular expression" else problem) else problem)
  return ⟨expressions, a.hasAny "iy", a.has 'v', a.has 'x', a.has 'w'⟩

/-- Whether a file below a directory is looked into. -/
def isIncluded (a : Arguments) (t : String) : Bool :=
  let fits (p : String) : Bool := Wildcard.covers (p.toList.map fun c => ⟨c, false⟩) (lastName t)
  ((a.values '+').isEmpty || (a.values '+').any fits) && !(a.values '^').any fits

/-- Looks through the files that operands name. -/
def matchFiles (a : Arguments) (s : Sought) (most : Option Nat) (operands : List String) : Act Nat := do
  let m := matchManual
  let recursive := a.hasAny "rR"
  let operands := if operands.isEmpty then (if recursive then ["."] else ["-"]) else operands
  let context (c : Char) : Nat :=
    ((a.value? c).bind String.toNat?).getD (((a.value? 'C').bind String.toNat?).getD 0)
  let display : Display :=
    { named := match a.last? "hh" with
        | some 'h' => false
        | some _ => true
        | none => operands.length > 1 || recursive
      numbered := a.has 'n', before := context 'B', after := context 'A' }
  let lookInto (name t : String) : Act (Bool × Bool) := do
    match ← inputOf t with
    | .ok text => return (← matchText a s display most name text, false)
    | .error fault => do
      if !a.has 's' then m.complain (name ++ ": " ++ reason fault)
      if a.has 'c' && fault = .os .isDirectory then
        let _ ← matchText a { s with expressions := [], negated := false } display most name ""
      return (false, true)
  let (found, wrong) ← operands.foldlM
    (fun (found, wrong) t => do
      if found && a.has 'q' then return (found, wrong)
      else
        let files ← if recursive && (← isDirectory t) then
            (do
              let files := (← filesBelow t deepest).filter (isIncluded a)
              pure (if a.operands.length ≤ 1 && operands = ["."] then
                files.map fun f => if f.startsWith "./" then (f.drop 2).toString else f else files))
          else pure [t]
        files.foldlM
          (fun (found, wrong) f => do
            let (b, w) ← lookInto (if f = "-" then "(standard input)" else f) f
            return (found || b, wrong || w))
          (found, wrong))
    (false, false)
  return if found && (a.has 'q' || !wrong) then 0 else if wrong then 2 else 1

def matchLines : Program := fun args => do
  let m := matchManual
  match m.read {} (withContextOption args) with
  | .error e => do
    m.complain e.message
    matchUsage
  | .ok a =>
    let given := a.hasAny "ef"
    match given, a.operands with
    | false, [] => matchUsage
    | _, operands =>
      let fromFiles ← (a.values 'f').foldlM
        (fun (sofar : Except Fault (List String)) t => do
          match sofar, ← inputOf t with
          | .error fault, _ | .ok _, .error fault => return .error fault
          | .ok ts, .ok text => return .ok (ts ++ linesOf text))
        (.ok [])
      match fromFiles with
      | .error fault => do
        m.complain ((a.value? 'f').getD "" ++ ": " ++ reason fault)
        return 2
      | .ok texts =>
        let texts := if given then a.values 'e' ++ texts else operands.take 1
        let files := if given then operands else operands.drop 1
        match (a.value? 'm').map String.toNat?, soughtOf a texts with
        | some none, _ => do
          m.complain "invalid max count"
          return 2
        | _, .error problem => do
          m.complain problem
          return 2
        | most, .ok s =>
          match ["A", "B", "C"].findSome? fun c => (a.value? (c.toList.headD 'A')).filter fun v => v.toNat?.isNone with
          | some v => do
            m.complain (v ++ ": invalid context length argument")
            return 2
          | none => matchFiles a s (most.bind id) files

end ReleaseBundle.Shell.Programs
