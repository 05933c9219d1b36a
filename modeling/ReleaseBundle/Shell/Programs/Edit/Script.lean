import ReleaseBundle.Shell.Format
import ReleaseBundle.Shell.Programs.Regex

/-!
# Scripts for editing

A script for editing lines is a list of commands, each for the lines that it selects. `script` reads one.
What is wrong with a script is told together with the place in it that was reached.
-/

namespace ReleaseBundle.Shell.Programs.Edit

/-- What tells whether a line is meant. -/
inductive Address where
  | number (n : Nat)
  /-- A line, and every so many lines another one. -/
  | step (first every : Nat)
  | last
  /-- Lines that match; no expression stands for the last one that was used. -/
  | matching (e : Option Expression) (folds : Bool)

/-- Where a range of lines ends. -/
inductive Bound where
  | address (a : Address)
  | after (lines : Nat)
  | multiple (n : Nat)

/-- The lines that a command is for. -/
structure Selection where
  first : Option Address := none
  last : Option Bound := none
  negated : Bool := false

/-- What a replacement puts in: text, what a group matched, or another case for what follows. -/
inductive Piece where
  | char (c : Char)
  | group (n : Nat)
  | case_ (c : Char)

structure Substitution where
  pattern : Option Expression
  pieces : List Piece
  folds : Bool := false
  everywhere : Bool := false
  prints : Bool := false
  /-- Which match is the first one to be replaced. -/
  nth : Nat := 1
  output : Option String := none

inductive Step where
  | blockStart
  | blockEnd
  | label (name : String)
  | substitute (s : Substitution)
  | exchange (pairs : List (Char × Char))
  | add (t : String)
  | insert (t : String)
  | replace (t : String)
  | include_ (path : String)
  | copyTo (path : String)
  | jump (name : String)
  /-- Jumps if something was replaced, or if nothing was. -/
  | jumpIf (replaced : Bool) (name : String)
  | quit (status : Nat) (shows : Bool)
  | letter (c : Char)

/-- A command, with a number that no other command has. -/
structure Command where
  number : Nat
  selection : Selection
  step : Step

/-! ## Reading scripts -/

/-- What is wrong with a script: at a place in it, or as a whole. -/
inductive Problem where
  | here (t : String)
  | whole (t : String)
  | label (t : String)

/-- What is left of a script, and how much was read. -/
structure Pending where
  rest : List Char
  taken : Nat := 0

abbrev Reading := EStateM Problem Pending

def peek : Reading (Option Char) := return (← get).rest.head?

/-- Reads one character, if there is one. -/
def next : Reading (Option Char) := do
  match (← get).rest with
  | [] => return none
  | c :: _ => do
    modify fun p => ⟨p.rest.tail, p.taken + 1⟩
    return some c

def takeWhile (f : Char → Bool) : Reading (List Char) := do
  let cs := (← get).rest.takeWhile f
  modify fun p => ⟨p.rest.drop cs.length, p.taken + cs.length⟩
  return cs

def isBlank (c : Char) : Bool := c == ' ' || c == '\t'

def skipBlanks : Reading Unit := do
  let _ ← takeWhile isBlank

def number : Reading Nat := return (String.ofList (← takeWhile Char.isDigit)).toNat?.getD 0

/-- Looks for the end of a set in an expression behind its bracket. -/
def setLength (cs : List Char) : Option Nat :=
  let head := match cs with
    | '^' :: ']' :: _ => 2
    | '^' :: _ | ']' :: _ => 1
    | _ => 0
  go head (cs.drop head)
where
  /-- The length with what was passed already. -/
  go (n : Nat) : List Char → Option Nat
    | [] => none
    | '[' :: ':' :: rest => named (n + 2) rest
    | ']' :: _ => some (n + 1)
    | '\n' :: _ => none
    | _ :: rest => go (n + 1) rest
  /-- The same inside the name of a class. -/
  named (n : Nat) : List Char → Option Nat
    | [] => none
    | ':' :: ']' :: rest => go (n + 2) rest
    | _ :: rest => named (n + 1) rest

/-- Reads up to a separator. In an expression a separator inside a set does not count. -/
def upTo (separator : Char) (isExpression : Bool) (sofar : List Char) : Nat → Reading (Option (List Char))
  | 0 => return none
  | n + 1 => do
    match ← peek with
    | none | some '\n' => return none
    | some c => do
      let _ ← next
      if c = separator then return some sofar.reverse
      else if c = '\\' then
        match ← next with
        | none => return none
        | some '\n' => upTo separator isExpression ('\n' :: sofar) n
        | some e =>
          if e = separator && (isExpression || e != '&') then upTo separator isExpression (e :: sofar) n
          else upTo separator isExpression (e :: '\\' :: sofar) n
      else if c = '[' && isExpression then
        match setLength (← get).rest with
        | none => do
          let _ ← takeWhile (· != '\n')
          return none
        | some k => do
          let cs := (← get).rest.take k
          modify fun p => ⟨p.rest.drop k, p.taken + k⟩
          upTo separator isExpression (cs.reverse ++ c :: sofar) n
      else upTo separator isExpression (c :: sofar) n

/-- The character that a letter behind a backslash stands for. -/
def escaped? : Char → Option Char
  | 'a' => some '\x07'
  | 'f' => some '\x0c'
  | 'n' => some '\n'
  | 'r' => some '\r'
  | 't' => some '\t'
  | 'v' => some '\x0b'
  | _ => none

/-- Reads a character that is written by its number, behind the letter that says how. -/
def numbered? : List Char → Option (Char × List Char)
  | 'x' :: rest =>
    let ds := (rest.take 2).takeWhile fun c => (Bytes.hexValue? c).isSome
    if ds.isEmpty then none
    else some (Char.ofNat (ds.foldl (fun n c => 16 * n + (Bytes.hexValue? c).getD 0) 0), rest.drop ds.length)
  | 'o' :: rest =>
    let ds := (rest.take 3).takeWhile Shell.Format.isOctal
    if ds.isEmpty then none else some (Shell.Format.octalChar ds, rest.drop ds.length)
  | 'd' :: rest =>
    let ds := (rest.take 3).takeWhile Char.isDigit
    if ds.isEmpty then none
    else some (Char.ofNat ((String.ofList ds).toNat?.getD 0 % 256), rest.drop ds.length)
  | _ => none

/-- An expression where characters that are written by their numbers stand for themselves. -/
def withoutNumbers : Nat → List Char → List Char
  | 0, cs => cs
  | _, [] => []
  | n + 1, '\\' :: c :: rest =>
    match numbered? (c :: rest) with
    | some (e, rest) => (if "^$*.[]\\+?()\x7b\x7d|".contains e then ['\\', e] else [e]) ++ withoutNumbers n rest
    | none => '\\' :: c :: withoutNumbers n rest
  | n + 1, c :: rest => c :: withoutNumbers n rest

/-- Reads an expression that was taken out of the script. -/
def expression (extended : Bool) (cs : List Char) : Reading (Option Expression) := do
  if cs.isEmpty then return none
  else
    match Expression.read extended (String.ofList (withoutNumbers cs.length cs)) with
    | .ok e => return some e
    | .error t => throw (.here t)

/-- The length of what is left, and a little more. -/
def budget : Reading Nat := return (← get).rest.length + 1

/-- Reads an address, if there is one. -/
def address (extended : Bool) : Reading (Option Address) := do
  let pattern (separator : Char) : Reading (Option Address) := do
    match ← upTo separator true [] (← budget) with
    | none => throw (.here "unterminated address regex")
    | some cs => do
      let letters ← takeWhile fun c => c == 'I' || c == 'M'
      return some (.matching (← expression extended cs) (letters.contains 'I'))
  match ← peek with
  | some '/' => do
    let _ ← next
    pattern '/'
  | some '\\' => do
    let _ ← next
    match ← next with
    | some c => pattern c
    | none => throw (.here "unexpected \x60,'")
  | some '$' => do
    let _ ← next
    return some .last
  | some c =>
    if c.isDigit then do
      let n ← number
      if (← peek) = some '~' then do
        let _ ← next
        return some (.step n (← number))
      else return some (.number n)
    else return none
  | none => return none

/-- Reads which lines a command is for. -/
def selection (extended : Bool) : Reading Selection := do
  if (← peek) = some '+' ∨ (← peek) = some '~' then do
    let _ ← next
    let _ ← number
    throw (.here "invalid usage of +N or ~N as first address")
  let first ← address extended
  let last ← if first.isNone then pure none
    else do
      skipBlanks
      if (← peek) = some ',' then do
        let _ ← next
        skipBlanks
        match ← peek with
        | some '+' => do
          let _ ← next
          pure (some (Bound.after (← number)))
        | some '~' => do
          let _ ← next
          pure (some (Bound.multiple (← number)))
        | _ =>
          match ← address extended with
          | some a => pure (some (Bound.address a))
          | none => throw (.here "unexpected \x60,'")
      else pure none
  match first, last with
  | some (.number 0), some (.address (.matching _ _)) => pure ()
  | some (.number 0), _ => do
    let _ ← next
    throw (.here "invalid usage of line address 0")
  | _, _ => pure ()
  skipBlanks
  let negated := (← peek) = some '!'
  if negated then do
    let _ ← next
    skipBlanks
    if (← peek) = some '!' then do
      let _ ← next
      throw (.here "multiple \x60!'s")
  return ⟨first, last, negated⟩

/-- Reads the end of a command. -/
def commandEnd : Reading Unit := do
  skipBlanks
  match ← peek with
  | none | some '\x7d' | some '#' => return
  | some c => do
    let _ ← next
    if c != '\n' && c != ';' then throw (.here "extra characters after command")

/-- The pieces of a replacement. -/
def pieces : Nat → List Char → List Piece
  | 0, _ | _, [] => []
  | n + 1, '&' :: rest => .group 0 :: pieces n rest
  | n + 1, '\\' :: c :: rest =>
    if c.isDigit then .group (c.toNat - 48) :: pieces n rest
    else if "ULEul".contains c then .case_ c :: pieces n rest
    else
      match escaped? c, numbered? (c :: rest) with
      | some e, _ => .char e :: pieces n rest
      | none, some (e, rest) => .char e :: pieces n rest
      | none, none => .char c :: pieces n rest
  | n + 1, c :: rest => .char c :: pieces n rest

/-- The name of a file up to the end of the line. -/
def fileName : Reading String := do
  skipBlanks
  let cs ← takeWhile (· != '\n')
  let _ ← next
  if cs.isEmpty then throw (.here "missing filename in r/R/w/W commands")
  return String.ofList cs

/-- Reads the letters behind a substitution. -/
def flags (s : Substitution) (numbered : Bool) : Nat → Reading Substitution
  | 0 => return s
  | n + 1 => do
    match ← peek with
    | none | some '\x7d' | some '#' => return s
    | some c => do
      if c.isDigit then do
        let k ← number
        if k = 0 then throw (.here "number option to \x60s' command may not be zero")
        if numbered then throw (.here "multiple number options to \x60s' command")
        flags { s with nth := k } true n
      else do
        let _ ← next
        match c with
        | '\n' | ';' => return s
        | ' ' | '\t' | 'm' | 'M' => flags s numbered n
        | 'i' | 'I' => flags { s with folds := true } numbered n
        | 'g' =>
          if s.everywhere then throw (.here "multiple \x60g' options to \x60s' command")
          flags { s with everywhere := true } numbered n
        | 'p' =>
          if s.prints then throw (.here "multiple \x60p' options to \x60s' command")
          flags { s with prints := true } numbered n
        | 'w' => return { s with output := some (← fileName) }
        | _ => throw (.here "unknown option to \x60s'")

def substitution (extended : Bool) : Reading Step := do
  let unfinished : Problem := .here "unterminated \x60s' command"
  match ← next with
  | none => throw unfinished
  | some separator => do
    let some e ← upTo separator true [] (← budget) | throw unfinished
    let some r ← upTo separator false [] (← budget) | throw unfinished
    let ps := pieces (r.length + 1) r
    let s ← flags { pattern := none, pieces := ps } false (← budget)
    let pattern ← expression extended e
    let greatest := ps.foldl (fun n p => match p with
      | .group k => max n k
      | _ => n) 0
    if let some e := pattern then
      if e.groupCount < greatest then
        throw (.here ("invalid reference \\" ++ toString greatest ++ " on \x60s' command's RHS"))
    return .substitute { s with pattern := pattern }

/-- The characters of a list for an exchange. -/
def exchanged : List Char → List Char
  | [] => []
  | '\\' :: c :: rest => (if c = '\\' then c else (escaped? c).getD c) :: exchanged rest
  | c :: rest => c :: exchanged rest

def exchange : Reading Step := do
  let unfinished : Problem := .here "unterminated \x60y' command"
  match ← next with
  | none => throw unfinished
  | some separator => do
    let some a ← upTo separator false [] (← budget) | throw unfinished
    let some b ← upTo separator false [] (← budget) | throw unfinished
    let a := exchanged a
    let b := exchanged b
    if a.length != b.length then throw (.here "strings for \x60y' command are different lengths")
    commandEnd
    return .exchange (a.zip b)

/-- Reads a text up to the end of a line that no backslash hides. -/
def lines (sofar : List Char) : Nat → Reading (List Char)
  | 0 => return sofar.reverse
  | n + 1 => do
    match ← next with
    | none | some '\n' => return sofar.reverse
    | some '\\' =>
      match ← next with
      | none => return sofar.reverse
      | some c => lines ((if c = '\\' then c else (escaped? c).getD c) :: sofar) n
    | some c => lines (c :: sofar) n

/-- Reads the text of a command that prints one. -/
def text : Reading String := do
  skipBlanks
  match ← peek with
  | none => throw (.here "expected \\ after \x60a', \x60c' or \x60i'")
  | some '\\' =>
    match (← get).rest.tail with
    | [] => do
      let _ ← next
      return ""
    | '\n' :: rest => do
      modify fun p => ⟨p.rest.drop 2, p.taken + 2⟩
      if rest.isEmpty then return ""
    | c :: _ => if escaped? c = none || isBlank c || c = 't' then do let _ ← next
  | some _ => pure ()
  return String.ofList (← lines [] (← budget)) ++ "\n"

def labelName (isEnd : Char → Bool) : Reading String := do
  skipBlanks
  let cs ← takeWhile fun c => !isEnd c
  return String.ofList cs

def isLabelEnd (c : Char) : Bool := isBlank c || c == '\n' || c == ';'

/-- Reads a command behind its addresses. -/
def step (extended : Bool) (s : Selection) (depth : Nat) : Reading Step := do
  let plain (c : Char) : Reading Step := do
    commandEnd
    return .letter c
  match ← next with
  | none => throw (.here "missing command")
  | some c =>
    match c with
    | '\x7b' => return .blockStart
    | '\x7d' => do
      if depth = 0 || s.first.isSome then throw (.here "unexpected \x60\x7d'")
      commandEnd
      return .blockEnd
    | ':' => do
      if s.first.isSome then throw (.here ": doesn't want any addresses")
      let name ← labelName isLabelEnd
      if name = "" then throw (.here "\":\" lacks a label")
      return .label name
    | 's' => substitution extended
    | 'y' => exchange
    | 'a' => return .add (← text)
    | 'i' => return .insert (← text)
    | 'c' => return .replace (← text)
    | 'r' => return .include_ (← fileName)
    | 'w' => return .copyTo (← fileName)
    | 'b' | 't' | 'T' => do
      let name ← labelName fun c => isLabelEnd c || c == '\x7d'
      commandEnd
      return if c = 'b' then .jump name else .jumpIf (c = 't') name
    | 'q' | 'Q' => do
      if s.last.isSome then throw (.here "command only uses one address")
      skipBlanks
      let n ← number
      commandEnd
      return .quit n (c = 'q')
    | 'l' | 'L' => do
      skipBlanks
      let _ ← number
      plain c
    | c =>
      if "=dDgGhHnNpPxzF".contains c then plain c
      else throw (.here ("unknown command: \x60" ++ c.toString ++ "'"))

/-- Reads commands. -/
def commands (extended : Bool) (sofar : List Command) (depth : Nat) : Nat → Reading (List Command)
  | 0 => return sofar.reverse
  | n + 1 => do
    let _ ← takeWhile fun c => isBlank c || c == '\n' || c == ';'
    match ← peek with
    | none => do
      if depth != 0 then throw (.whole "unmatched \x60\x7b'")
      return sofar.reverse
    | some _ => do
      let s ← selection extended
      if (← peek) = some '#' then do
        let _ ← next
        if s.first.isSome then throw (.here "comments don't accept any addresses")
        let _ ← takeWhile (· != '\n')
        commands extended sofar depth n
      else do
        let e ← step extended s depth
        let depth := match e with
          | .blockStart => depth + 1
          | .blockEnd => depth - 1
          | _ => depth
        commands extended (⟨sofar.length, s, e⟩ :: sofar) depth n

/-- The part of a program behind a label; no name leads to the end. -/
def behind (program : List Command) (name : String) : Option (List Command) :=
  if name = "" then some []
  else
    match program.dropWhile (fun c => match c.step with
      | .label l => l != name
      | _ => true) with
    | [] => none
    | _ :: rest => some rest

/-- Reads a script whose labels all exist. -/
def script (extended : Bool) : Reading (List Command) := do
  let program ← commands extended [] 0 (← budget)
  program.forM fun c => do
    match c.step with
    | .jump name | .jumpIf _ name =>
      if (behind program name).isNone then throw (.label name)
    | _ => pure ()
  return program

end ReleaseBundle.Shell.Programs.Edit
