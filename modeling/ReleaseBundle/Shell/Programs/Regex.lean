import ReleaseBundle.Shell.Programs.Lines

/-!
# Regular expressions of programs

The programs on text know two ways to write an expression: a basic one, where most marks need a backslash
to be special, and an extended one, where they need one to be ordinary. Among the matches that begin first
the longest one counts.

`Expression.ends` answers where a match of an expression can end, every place once, the preferred
way to get there first.
-/

namespace ReleaseBundle.Shell.Programs

/-- A regular expression. -/
inductive Expression where
  | nothing
  | char (isIn : Char → Bool)
  | sequence (a b : Expression)
  | either (a b : Expression)
  | repeated (e : Expression) (least : Nat) (most : Option Nat)
  | group (number : Nat) (e : Expression)
  /-- What a group matched. -/
  | again (number : Nat)
  | lineStart
  | lineEnd
  | wordStart
  | wordEnd
  /-- The start or the end of a word, or what is neither. -/
  | boundary (isOne : Bool)

namespace Expression

/-! ## Reading -/

/-- What is left of an expression that is read, and how many groups began. -/
structure Pending where
  rest : List Char
  groups : Nat := 0

abbrev Reading := EStateM String Pending

def isWord (c : Char) : Bool := c.isAlphanum || c == '_'

/-- The class that a letter behind a backslash stands for. -/
def letterClass? : Char → Option (Char → Bool)
  | 'w' => some isWord
  | 'W' => some fun c => !isWord c
  | 's' => some fun c => c == ' ' || (0x09 ≤ c.toNat && c.toNat ≤ 0x0D)
  | 'S' => some fun c => !(c == ' ' || (0x09 ≤ c.toNat && c.toNat ≤ 0x0D))
  | _ => none

/-- The members of a set up to its bracket. -/
def members (first : Bool) (isIn : Char → Bool) : Nat → List Char → Option ((Char → Bool) × List Char)
  | 0, _ => none
  | _, [] => none
  | n + 1, ']' :: rest => if first then members false (fun c => isIn c || c == ']') n rest else some (isIn, rest)
  | n + 1, '[' :: ':' :: more =>
    let name := more.takeWhile Char.isAlpha
    match more.drop name.length, Wildcard.class? (String.ofList name) with
    | ':' :: ']' :: rest, some named => members false (fun c => isIn c || named c) n rest
    | _, _ => members false (fun c => isIn c || c == '[') n (':' :: more)
  | n + 1, '\\' :: 'n' :: rest => members false (fun c => isIn c || c == '\n') n rest
  | n + 1, '\\' :: 't' :: rest => members false (fun c => isIn c || c == '\t') n rest
  | n + 1, a :: '-' :: b :: rest =>
    if b = ']' then members false (fun c => isIn c || c == a) n ('-' :: b :: rest)
    else members false (fun c => isIn c || (a ≤ c && c ≤ b)) n rest
  | n + 1, a :: rest => members false (fun c => isIn c || c == a) n rest

/-- Reads a set behind its bracket. -/
def set : Reading Expression := do
  let cs := (← get).rest
  let (negated, cs) := match cs with
    | '^' :: cs => (true, cs)
    | cs => (false, cs)
  match members true (fun _ => false) (cs.length + 1) cs with
  | none => throw "Unmatched [, [^, [:, [., or [="
  | some (isIn, rest) => do
    modify fun p => { p with rest := rest }
    return .char fun c => isIn c != negated

/-- What comes next in an expression: a mark of the grammar, or something to match. -/
inductive Sign where
  | finish
  | opening
  | closing
  | bar
  | star
  | plus
  | question
  | brace
  | start
  | dollar
  | dot
  | bracket
  | escape (c : Char)
  | char (c : Char)
  deriving DecidableEq

/-- The next sign, and how many characters it takes. -/
def sign (extended : Bool) : List Char → Sign × Nat
  | [] => (.finish, 0)
  | '\\' :: c :: _ =>
    if extended then (.escape c, 2)
    else
      match c with
      | '(' => (.opening, 2)
      | ')' => (.closing, 2)
      | '|' => (.bar, 2)
      | '+' => (.plus, 2)
      | '?' => (.question, 2)
      | '\x7b' => (.brace, 2)
      | c => (.escape c, 2)
  | '*' :: _ => (.star, 1)
  | '.' :: _ => (.dot, 1)
  | '[' :: _ => (.bracket, 1)
  | '^' :: _ => (.start, 1)
  | '$' :: _ => (.dollar, 1)
  | c :: _ =>
    if extended then
      match c with
      | '(' => (.opening, 1)
      | ')' => (.closing, 1)
      | '|' => (.bar, 1)
      | '+' => (.plus, 1)
      | '?' => (.question, 1)
      | '\x7b' => (.brace, 1)
      | c => (.char c, 1)
    else (.char c, 1)

def peek (extended : Bool) : Reading Sign := return (sign extended (← get).rest).1

def advance (extended : Bool) : Reading Unit :=
  modify fun p => { p with rest := p.rest.drop (sign extended p.rest).2 }

/-- Reads the numbers of a repetition behind its brace. -/
def bounds (extended : Bool) : Reading (Nat × Option Nat) := do
  let cs := (← get).rest
  let a := cs.takeWhile Char.isDigit
  let rest := cs.drop a.length
  let (b?, rest) := match rest with
    | ',' :: more => (some (more.takeWhile Char.isDigit), more.dropWhile Char.isDigit)
    | rest => (none, rest)
  let rest? := match extended, rest with
    | true, '\x7d' :: rest => some rest
    | false, '\\' :: '\x7d' :: rest => some rest
    | _, _ => none
  match rest? with
  | none => throw "Unmatched \\\x7b"
  | some rest => do
    modify fun p => { p with rest := rest }
    let least := (String.ofList a).toNat?.getD 0
    match b? with
    | none => return (least, some least)
    | some [] => return (least, none)
    | some b => return (least, (String.ofList b).toNat?)

mutual

/-- Reads branches between bars. -/
def branches (extended : Bool) (depth : Nat) : Nat → Reading Expression
  | 0 => throw "Regular expression too big"
  | n + 1 => do
    let a ← branch extended depth true .nothing n
    if (← peek extended) = .bar then
      advance extended
      return .either a (← branches extended depth n)
    else return a

/-- Reads pieces up to a bar, a closing parenthesis or the end. -/
def branch (extended : Bool) (depth : Nat) (first : Bool) (sofar : Expression) : Nat → Reading Expression
  | 0 => throw "Regular expression too big"
  | n + 1 => do
    match ← peek extended with
    | .finish | .bar => return sofar
    | .closing =>
      if depth > 0 then return sofar
      else if extended then do
        advance extended
        branch extended depth false (.sequence sofar (.char (· == ')'))) n
      else throw "Unmatched ) or \\)"
    | s => do
      let e ← atom extended depth first s n
      let e ← repetitions extended e n
      branch extended depth false (.sequence sofar e) n

/-- Reads something that can be repeated. -/
def atom (extended : Bool) (depth : Nat) (first : Bool) (s : Sign) : Nat → Reading Expression
  | 0 => throw "Regular expression too big"
  | n + 1 => do
    advance extended
    match s with
    | .opening => do
      let number := (← get).groups + 1
      modify fun p => { p with groups := number }
      let e ← branches extended (depth + 1) n
      if (← peek extended) != .closing then throw "Unmatched ( or \\("
      advance extended
      return .group number e
    | .bracket => set
    | .dot => return .char fun _ => true
    | .start =>
      if extended || first then return .lineStart else return .char (· == '^')
    | .dollar => do
      match extended, ← peek extended with
      | true, _ | _, .finish | _, .closing | _, .bar => return .lineEnd
      | _, _ => return .char (· == '$')
    | .star => if extended then throw "Invalid preceding regular expression" else return .char (· == '*')
    | .plus => if extended then throw "Invalid preceding regular expression" else return .char (· == '+')
    | .question => if extended then throw "Invalid preceding regular expression" else return .char (· == '?')
    | .brace => return .char (· == '\x7b')
    | .escape c =>
      match c with
      | '<' => return .wordStart
      | '>' => return .wordEnd
      | 'b' => return .boundary true
      | 'B' => return .boundary false
      | '\x60' => return .lineStart
      | '\'' => return .lineEnd
      | 'n' => return .char (· == '\n')
      | 't' => return .char (· == '\t')
      | c =>
        match letterClass? c with
        | some isIn => return .char isIn
        | none =>
          if c.isDigit && c != '0' then
            if c.toNat - 48 ≤ (← get).groups then return .again (c.toNat - 48)
            else throw "Invalid back reference"
          else return .char (· == c)
    | .char c => if c = '\\' then throw "Trailing backslash" else return .char (· == c)
    | _ => return .nothing

/-- Reads what says how often something is repeated. -/
def repetitions (extended : Bool) (e : Expression) : Nat → Reading Expression
  | 0 => throw "Regular expression too big"
  | n + 1 => do
    match ← peek extended with
    | .star => do
      match e with
      | .lineStart =>
        if extended then do
          advance extended
          repetitions extended (.repeated e 0 none) n
        else return e
      | e => do
        advance extended
        repetitions extended (.repeated e 0 none) n
    | .plus => do
      advance extended
      repetitions extended (.repeated e 1 none) n
    | .question => do
      advance extended
      repetitions extended (.repeated e 0 (some 1)) n
    | .brace => do
      advance extended
      let (least, most) ← bounds extended
      repetitions extended (.repeated e least most) n
    | _ => return e

end

/-- Reads an expression. -/
def read (extended : Bool) (t : String) : Except String Expression :=
  match (branches extended 0 (8 * t.length + 16)).run ⟨t.toList, 0⟩ with
  | .ok e _ => .ok e
  | .error problem _ => .error problem

/-- The greatest number of a group. -/
def groupCount : Expression → Nat
  | .group n e => max n e.groupCount
  | .sequence a b | .either a b => max a.groupCount b.groupCount
  | .repeated e _ _ => e.groupCount
  | _ => 0

/-! ## Matching -/

/-- A place in a text, and what groups matched on the way to it. -/
structure Place where
  /-- What was passed, the last first. -/
  before : List Char
  after : List Char
  groups : List (Nat × List Char) := []

/-- Keeps the first of the places that are the same. -/
def distinct (sofar : List Nat) : List Place → List Place
  | [] => []
  | p :: ps =>
    if sofar.contains p.after.length then distinct sofar ps
    else p :: distinct (p.after.length :: sofar) ps

/-- Where something that is repeated can end. -/
def repeatedEnds (ends : Place → List Place) (least : Nat) (most : Option Nat) (count : Nat) (p : Place) :
    Nat → List Place
  | 0 => [p]
  | n + 1 =>
    let more :=
      if most.any (· ≤ count) then []
      else
        ((ends p).filter fun q => q.after.length < p.after.length || count < least).flatMap fun q =>
          repeatedEnds ends least most (count + 1) q n
    distinct [] (more ++ if least ≤ count then [p] else [])

/-- Where a match can end. -/
def ends (folds : Bool) : Expression → Place → List Place
  | .nothing, p => [p]
  | .char isIn, p =>
    match p.after with
    | [] => []
    | c :: rest =>
      if isIn c || (folds && (isIn c.toLower || isIn c.toUpper)) then [{ p with before := c :: p.before, after := rest }]
      else []
  | .sequence a b, p => distinct [] ((ends folds a p).flatMap (ends folds b))
  | .either a b, p => distinct [] (ends folds a p ++ ends folds b p)
  | .repeated e least most, p => repeatedEnds (ends folds e) least most 0 p (p.after.length + least + 1)
  | .group n e, p =>
    (ends folds e p).map fun q =>
      { q with groups := (n, p.after.take (p.after.length - q.after.length)) :: q.groups }
  | .again n, p =>
    let t := (p.groups.lookup n).getD []
    if t.isPrefixOf p.after then [{ p with before := t.reverse ++ p.before, after := p.after.drop t.length }] else []
  | .lineStart, p => if p.before.isEmpty then [p] else []
  | .lineEnd, p => if p.after.isEmpty then [p] else []
  | .wordStart, p =>
    if (p.after.head?.any isWord) && !(p.before.head?.any isWord) then [p] else []
  | .wordEnd, p =>
    if (p.before.head?.any isWord) && !(p.after.head?.any isWord) then [p] else []
  | .boundary isOne, p =>
    if ((p.before.head?.any isWord) != (p.after.head?.any isWord)) == isOne then [p] else []

/-- A match: the text before it, what it took, what follows, and what its groups took. -/
structure Found where
  before : List Char
  text : List Char
  after : List Char
  groups : List (Nat × List Char)

/-- The longest of the matches that begin at a place. -/
def longest? (folds : Bool) (e : Expression) (p : Place) : Option Found :=
  let found := ends folds e { p with groups := [] }
  let best := found.foldl
    (fun (b : Option Place) q =>
      match b with
      | some c => if q.after.length < c.after.length then some q else b
      | none => some q)
    none
  best.map fun q => ⟨p.before, p.after.take (p.after.length - q.after.length), q.after, q.groups⟩

/-- The first match from a place on. -/
def first? (folds : Bool) (e : Expression) (before : List Char) : List Char → Option Found
  | [] => longest? folds e ⟨before, [], []⟩
  | c :: cs =>
    match longest? folds e ⟨before, c :: cs, []⟩ with
    | some f => some f
    | none => first? folds e (c :: before) cs

/-- Whether an expression matches somewhere in a text. -/
def occursIn (folds : Bool) (e : Expression) (t : String) : Bool := (first? folds e [] t.toList).isSome

end Expression

end ReleaseBundle.Shell.Programs
