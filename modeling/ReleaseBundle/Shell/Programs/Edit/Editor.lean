import ReleaseBundle.Shell.Programs.Edit.Script
import ReleaseBundle.Shell.Programs.Options

/-!
# Editing lines

An editor takes one line after the other into its hand, does to it what a script says, and prints it. `edit`
is a function: what it prints, and what it writes to files, is collected in the editor.
-/

namespace ReleaseBundle.Shell.Programs.Edit

/-- How a script is run. -/
structure Manner where
  /-- Whether lines are printed only on request. -/
  quiet : Bool := false
  /-- What ends a line. -/
  ending : Char := '\n'
  /-- The text of the file at a path. -/
  contents : String → Option String
  /-- Where copies for the standard output go: among the rest, or apart from it. -/
  apart : Bool := false

/-- A line, and whether its end was there. -/
structure Line where
  text : List Char
  ended : Bool

/-- What is printed behind a line. -/
inductive Extra where
  | text (t : String)
  | contents (path : String)

structure Editor where
  line : Line := ⟨[], true⟩
  hold : List Char := []
  number : Nat := 0
  waiting : List Line
  /-- The name of the file that is read. -/
  name : String := "-"
  replaced : Bool := false
  /-- Ranges that are not at their end: a command and, if it is known, the line where they end. -/
  ranges : List (Nat × Option Nat) := []
  extras : List Extra := []
  /-- The expression that was used last. -/
  pattern : Option Expression := none
  output : List String := []
  /-- Whether the output lacks the end of its last line. -/
  isOpen : Bool := false
  /-- What was written to files, the last first. -/
  copies : List (String × String) := []

/-- How a script comes to its end for a line. -/
inductive Outcome where
  | finished
  | dropped
  /-- The script starts again without a new line. -/
  | again
  | quit (status : Nat) (shows : Bool)

abbrev Editing := EStateM String Editor

/-- Prints something behind complete lines. -/
def put (m : Manner) (t : String) (ended : Bool) : Editing Unit :=
  modify fun e =>
    let before := if e.isOpen then [m.ending.toString] else []
    { e with output := t :: before ++ e.output, isOpen := !ended }

/-- Prints a line. -/
def putLine (m : Manner) (l : List Char) (ended : Bool) : Editing Unit :=
  put m (String.ofList (if ended then l ++ [m.ending] else l)) ended

/-- Writes a copy of a line to a file. -/
def copyLine (m : Manner) (path : String) (l : List Char) (ended : Bool) : Editing Unit := do
  if path = "/dev/stdout" && !m.apart then putLine m l ended
  else modify fun e => { e with copies := (path, String.ofList (if ended then l ++ [m.ending] else l)) :: e.copies }

/-- The expression that is meant, which is then the last one used. -/
def meant (e : Option Expression) : Editing Expression := do
  match e with
  | some e => do
    modify fun s => { s with pattern := some e }
    return e
  | none =>
    match (← get).pattern with
    | some e => return e
    | none => throw "no previous regular expression"

def fits (a : Address) : Editing Bool := do
  let s ← get
  match a with
  | .number n => return s.number = n
  | .step first every =>
    return if every = 0 then s.number = first else first ≤ s.number && (s.number - first) % every = 0
  | .last => return s.waiting.isEmpty
  | .matching e folds => return (Expression.first? folds (← meant e) [] s.line.text).isSome

def setRange (number : Nat) (finish : Option (Option Nat)) : Editing Unit :=
  modify fun s =>
    let others := s.ranges.filter fun r => r.1 != number
    { s with ranges := (finish.map fun f => (number, f)).toList ++ others }

/-- Whether a range that has begun goes on at this line. -/
def goesOn (number : Nat) (bound : Bound) (finish : Option Nat) : Editing Bool := do
  let here := (← get).number
  match finish, bound with
  | some n, _ => do
    if n ≤ here then setRange number none
    return here ≤ n
  | none, .address a => do
    if ← fits a then setRange number none
    return true
  | none, _ => return true

/-- Whether a range begins at this line. -/
def begins (number : Nat) (a : Address) (bound : Bound) : Editing Bool := do
  if ← fits a then
    let here := (← get).number
    let finish : Option Nat := match bound with
      | .address (.number n) => some n
      | .after n => some (here + n)
      | .multiple n => some (if n = 0 then here else (here + n - 1) / n * n)
      | .address _ => none
    if finish.any (· ≤ here) then return true
    setRange number (some finish)
    return true
  else return false

/-- Whether a command is for the line at hand. -/
def selects (c : Command) : Editing Bool := do
  let chosen ← match c.selection.first, c.selection.last with
    | none, _ => pure true
    | some a, none => fits a
    | some a, some bound =>
      match (← get).ranges.lookup c.number with
      | some finish => do
        if ← goesOn c.number bound finish then pure true else begins c.number a bound
      | none => begins c.number a bound
  return chosen != c.selection.negated

/-- What a replacement becomes. The two letters are the case for everything and for the next character. -/
def filled (f : Expression.Found) (all next : Char) : List Piece → List Char
  | [] => []
  | .case_ c :: ps => if c = 'u' ∨ c = 'l' then filled f all c ps else filled f c 'E' ps
  | p :: ps =>
    let cs := match p with
      | .char c => [c]
      | .group 0 => f.text
      | .group n => (f.groups.lookup n).getD []
      | .case_ _ => []
    match cs with
    | [] => filled f all next ps
    | c :: rest =>
      let turned (how : Char) (c : Char) : Char :=
        if how = 'U' ∨ how = 'u' then c.toUpper else if how = 'L' ∨ how = 'l' then c.toLower else c
      turned (if next = 'E' then all else next) c :: (rest.map (turned all) ++ filled f all 'E' ps)

/-- Replaces matches. `touching` says that the last match ends here, where an empty one does not count. -/
def substituted (s : Substitution) (e : Expression) (before : List Char) (count : Nat) (touching : Bool)
    (after : List Char) : Nat → List Char × Bool
  | 0 => (after, false)
  | n + 1 =>
    match Expression.first? s.folds e before after with
    | none => (after, false)
    | some f =>
      let passed := after.take (f.before.length - before.length)
      if f.text.isEmpty && passed.isEmpty && touching then
        match after with
        | [] => ([], false)
        | c :: rest =>
          let (t, b) := substituted s e (c :: before) count false rest n
          (c :: t, b)
      else
        let replaces := s.nth ≤ count + 1
        let new := if replaces then filled f 'E' 'E' s.pieces else f.text
        if replaces && !s.everywhere then (passed ++ new ++ f.after, true)
        else
          let (t, b) := substituted s e (f.text.reverse ++ f.before) (count + 1) true f.after n
          (passed ++ new ++ t, replaces || b)

/-- How a line looks where nothing in it is hidden. -/
def visible (cs : List Char) : List Char :=
  let shown (c : Char) : String :=
    match c with
    | '\\' => "\\\\"
    | '\n' => "\\n"
    | c =>
      if c.toNat < 32 || 126 < c.toNat then escapedChar c else c.toString
  let rec rows (width : Nat) : List Char → List Char
    | [] => ['$']
    | c :: rest =>
      let t := (shown c).toList
      if 69 < width + t.length then '\\' :: '\n' :: t ++ rows t.length rest
      else t ++ rows (width + t.length) rest
  rows 0 cs

/-- Takes the next line. -/
def takeLine (join : Bool) : Editing Bool := do
  let s ← get
  match s.waiting with
  | [] => return false
  | l :: rest => do
    set { s with
      line := if join then ⟨s.line.text ++ '\n' :: l.text, l.ended⟩ else l
      waiting := rest
      number := s.number + 1 }
    return true

/-- Prints what stands behind a line. -/
def flushExtras (m : Manner) : Editing Unit := do
  let extras := (← get).extras
  modify fun s => { s with extras := [] }
  extras.forM fun x => do
    match x with
    | .text t => if t != "" then put m t true
    | .contents path =>
      match m.contents path with
      | some t => if t != "" then put m t true
      | none => pure ()

def setText (cs : List Char) : Editing Unit := modify fun s => { s with line := { s.line with text := cs } }

/-- Does what one letter says. -/
def letter (m : Manner) (c : Char) : Editing (Option Outcome) := do
  let s ← get
  let here := s.line.text
  match c with
  | '=' => do
    put m (toString s.number ++ "\n") true
    return none
  | 'd' => return some .dropped
  | 'D' =>
    if here.contains '\n' then do
      setText ((here.dropWhile (· != '\n')).drop 1)
      return some .again
    else return some .dropped
  | 'F' => do
    put m (s.name ++ "\n") true
    return none
  | 'g' => do
    setText s.hold
    return none
  | 'G' => do
    setText (here ++ m.ending :: s.hold)
    return none
  | 'h' => do
    modify fun s => { s with hold := here }
    return none
  | 'H' => do
    modify fun s => { s with hold := s.hold ++ m.ending :: here }
    return none
  | 'x' => do
    modify fun s => { s with hold := here, line := { s.line with text := s.hold } }
    return none
  | 'l' => do
    put m (String.ofList (visible here) ++ "\n") true
    return none
  | 'n' => do
    if s.waiting.isEmpty then return some .finished
    if !m.quiet then putLine m here s.line.ended
    flushExtras m
    let _ ← takeLine false
    return none
  | 'N' => do
    if s.waiting.isEmpty then return some .finished
    flushExtras m
    let _ ← takeLine true
    return none
  | 'p' => do
    putLine m here s.line.ended
    return none
  | 'P' => do
    putLine m (here.takeWhile (· != '\n')) true
    return none
  | 'z' => do
    setText []
    return none
  | _ => return none

/-- The part of a program behind the end of a block. -/
def behindBlock (depth : Nat) : List Command → List Command
  | [] => []
  | c :: rest =>
    match c.step with
    | .blockStart => behindBlock (depth + 1) rest
    | .blockEnd => if depth = 0 then rest else behindBlock (depth - 1) rest
    | _ => behindBlock depth rest

/-- Runs commands on the line at hand. -/
def perform (m : Manner) (program : List Command) : Nat → List Command → Editing Outcome
  | 0, _ | _, [] => return .finished
  | n + 1, c :: rest => do
    if !(← selects c) then
      match c.step with
      | .blockStart => perform m program n (behindBlock 0 rest)
      | _ => perform m program n rest
    else
      match c.step with
      | .blockStart | .blockEnd | .label _ => perform m program n rest
      | .substitute s => do
        let e ← meant s.pattern
        let line := (← get).line
        let (t, changed) := substituted s e [] 0 false line.text (2 * line.text.length + 2)
        if changed then
          modify fun s => { s with line := { s.line with text := t }, replaced := true }
          if s.prints then putLine m t line.ended
          if let some path := s.output then copyLine m path t line.ended
        perform m program n rest
      | .exchange pairs => do
        modify fun s => { s with line := { s.line with text := s.line.text.map fun c => (pairs.lookup c).getD c } }
        perform m program n rest
      | .add t => do
        modify fun s => { s with extras := s.extras ++ [.text t] }
        perform m program n rest
      | .insert t => do
        if t != "" then put m t true
        perform m program n rest
      | .replace t => do
        if c.selection.negated || ((← get).ranges.lookup c.number).isNone then
          if t != "" then put m t true
        return .dropped
      | .include_ path => do
        modify fun s => { s with extras := s.extras ++ [.contents path] }
        perform m program n rest
      | .copyTo path => do
        let line := (← get).line
        copyLine m path line.text line.ended
        perform m program n rest
      | .jump name => perform m program n ((behind program name).getD [])
      | .jumpIf replaced name => do
        let was := (← get).replaced
        modify fun s => { s with replaced := false }
        perform m program n (if was == replaced then (behind program name).getD [] else rest)
      | .quit status shows => return .quit status shows
      | .letter l => do
        match ← letter m l with
        | some outcome => return outcome
        | none => perform m program n rest

/-- How many commands may run for one line. -/
def mostSteps : Nat := 1000000

/-- Runs a program on all lines that wait. Answers a status if it asked to quit. -/
def edit (m : Manner) (program : List Command) (fresh : Bool) : Nat → Editing (Option Nat)
  | 0 => return none
  | n + 1 => do
    let there ← if fresh then do
        modify fun s => { s with replaced := false }
        takeLine false
      else pure true
    if !there then return none
    else
      let outcome ← perform m program mostSteps program
      let finish (shows : Bool) : Editing Unit := do
        let line := (← get).line
        if shows && !m.quiet then putLine m line.text line.ended
        flushExtras m
      match outcome with
      | .finished => do
        finish true
        edit m program true n
      | .dropped => do
        finish false
        edit m program true n
      | .again => do
        finish false
        edit m program false n
      | .quit status shows => do
        if shows then
          finish true
          if (← get).isOpen then put m "" true
        return some status

/-- The lines of a text. -/
def linesOf (ending : Char) (t : String) : List Line :=
  let parts := t.toList.splitOn ending
  match parts.reverse with
  | [] => []
  | last :: before =>
    before.reverse.map (fun l => ⟨l, true⟩) ++ if last.isEmpty then [] else [⟨last, false⟩]

/-- How many lines may be edited. -/
def mostLines : Nat := 1000000

end ReleaseBundle.Shell.Programs.Edit
