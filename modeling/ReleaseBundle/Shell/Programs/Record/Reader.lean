import ReleaseBundle.Shell.Programs.Record.Token

/-!
# Reading programs on records

Terms are read by how strongly their marks bind. Values that stand side by side are joined, which binds less
than sums and more than comparisons. In what is printed, a mark that would compare or read sends the text
somewhere, unless it stands in parentheses.
-/

namespace ReleaseBundle.Shell.Programs.Record

/-- What is wrong with a program, and in which line. -/
structure Mistake where
  line : Nat
  message : String

/-- How a mistake is complained about. A brace that closes nothing is followed by the end of its line. -/
def Mistake.complaints (m : Mistake) : List String :=
  let at_ (t : String) : String := "line " ++ toString m.line ++ ": " ++ t
  if m.message.startsWith "unexpected" then [toString m.line ++ ": " ++ m.message]
  else if m.message.startsWith "extra" then [at_ m.message, at_ "syntax error at or near end of line"]
  else [at_ m.message]

/-- A name that a function hands on to another one. -/
structure Handing where
  giver : String
  name : String
  taker : String
  position : Nat

structure Pending where
  tokens : List (Token × Nat)
  /-- Whether what is read is printed, outside parentheses. -/
  printing : Bool := false
  parentheses : Nat := 0
  braces : Nat := 0
  loops : Nat := 0
  /-- The function that is read, or nothing outside of functions. -/
  owner : String := ""
  rules : List Rule := []
  functions : List (String × List String × Statement) := []
  /-- Names that stand for tables, each with the function that it was found in. -/
  tables : List (String × String) := []
  handings : List Handing := []
  /-- Functions that are called, with how much they are given and where. -/
  calls : List (String × Nat × Nat) := []

abbrev Reading := EStateM Mistake Pending

namespace Reading

variable {α : Type}

def peek : Reading Token := return ((← get).tokens.head?.map Prod.fst).getD .finish

/-- The line of the next token. -/
def line : Reading Nat := return ((← get).tokens.head?.map Prod.snd).getD 0

def advance : Reading Unit := modify fun p => { p with tokens := p.tokens.tail }

/-- Complains about the next token. -/
def unexpected : Reading α := do
  let p ← get
  let t ← peek
  let ends := match t with
    | .newline | .finish => true
    | .mark m => m = "\x7d" || m = ";"
    | _ => false
  let message := match t with
    | .broken complaint => complaint
    | t =>
      if ends && 0 < p.parentheses then "missing ) near " ++ t.shown
      else
        match t with
        | .finish => if 0 < p.braces then "missing \x7d near end of file" else "syntax error at or near end of file"
        | t => "syntax error at or near " ++ t.shown
  throw ⟨← line, message⟩

def isMark (m : String) : Reading Bool := do
  match ← peek with
  | .mark t => return t = m
  | _ => return false

def isWord (w : String) : Reading Bool := do
  match ← peek with
  | .word t => return t = w
  | _ => return false

/-- Takes a mark if it is next. -/
def take (m : String) : Reading Bool := do
  if ← isMark m then
    advance
    return true
  else return false

def takeWord (w : String) : Reading Bool := do
  if ← isWord w then
    advance
    return true
  else return false

def expect (m : String) : Reading Unit := do
  if !(← take m) then unexpected

/-- Takes the first of some marks that is next. -/
def takeAny (ms : List String) : Reading (Option String) := do
  match ← peek with
  | .mark t =>
    if ms.contains t then
      advance
      return some t
    else return none
  | _ => return none

/-- Passes over ends of lines. -/
def skipLines : Reading Unit :=
  modify fun p =>
    { p with
      tokens := p.tokens.dropWhile fun t => match t.1 with
        | .newline => true
        | _ => false }

/-- Reads something between parentheses whose first one was read. -/
def inside (closing : String) (a : Reading α) : Reading α := do
  let before ← get
  let opened := if closing = ")" then 1 else 0
  modify fun p => { p with printing := false, parentheses := p.parentheses + opened }
  let r ← a
  expect closing
  modify fun p => { p with printing := before.printing, parentheses := before.parentheses }
  return r

/-- Notes that a name stands for a table. -/
def noteTable (name : String) : Reading Unit :=
  modify fun p => { p with tables := (p.owner, name) :: p.tables }

def name : Reading String := do
  match ← peek with
  | .name t => do
    advance
    return t
  | _ => unexpected

/-- Notes the names among what a function is given. -/
def noteHandings (taker : String) (given : List Term) : Reading Unit :=
  modify fun p =>
    let found := given.zipIdx.filterMap fun (t, i) => match t with
      | .held (.named name) => some (Handing.mk p.owner name taker i)
      | _ => none
    { p with handings := found ++ p.handings }

/-- Reads the expression of a token. -/
def pattern (t : String) : Reading Expression := do
  match patternOf t with
  | .ok e => return e
  | .error flaw =>
    throw ⟨← line, "regular expression compile failed (" ++ flaw.message ++ ")\n" ++ t⟩

/-- Whether the next token can begin a value. -/
def beginsValue : Reading Bool := do
  match ← peek with
  | .number _ _ | .text _ | .pattern _ | .name _ | .called _ | .builtin _ _ => return true
  | .word w => return w = "getline"
  | .mark m => return ["$", "!", "(", "-", "+", "++", "--"].contains m
  | _ => return false

def comparison? (printing : Bool) : String → Option Comparison
  | "<" => some .less
  | "<=" => some .notMore
  | "==" => some .equal
  | "!=" => some .different
  | ">=" => some .notLess
  | ">" => if printing then none else some .more
  | _ => none

/-- The operation of a mark that gives a place a value. -/
def assignment? : String → Option (Option Operation)
  | "=" => some none
  | "+=" => some (some .plus)
  | "-=" => some (some .minus)
  | "*=" => some (some .times)
  | "/=" => some (some .divided)
  | "%=" => some (some .modulo)
  | "^=" => some (some .power)
  | _ => none

/-- Whether a function takes so many arguments. -/
def accepts (b : Builtin) (n : Nat) : Bool :=
  match b with
  | .length | .srand => n ≤ 1
  | .substr | .split | .sub | .gsub => n = 2 || n = 3
  | .index | .matchPlace | .atan2 => n = 2
  | .sprintf => 0 < n
  | .rand => n = 0
  | .fflush => n ≤ 1
  | _ => n = 1

mutual

def term : Nat → Reading Term
  | 0 => unexpected
  | n + 1 => do
    let c ← disjunction n
    if ← take "?" then
      let a ← term n
      expect ":"
      return .choose c a (← term n)
    else return c

def disjunction : Nat → Reading Term
  | 0 => unexpected
  | n + 1 => do disjunctionFrom (← conjunction n) n

def disjunctionFrom (a : Term) : Nat → Reading Term
  | 0 => return a
  | n + 1 => do
    if ← take "||" then
      skipLines
      disjunctionFrom (.oneOf a (← conjunction n)) n
    else return a

def conjunction : Nat → Reading Term
  | 0 => unexpected
  | n + 1 => do conjunctionFrom (← membership n) n

def conjunctionFrom (a : Term) : Nat → Reading Term
  | 0 => return a
  | n + 1 => do
    if ← take "&&" then
      skipLines
      conjunctionFrom (.both a (← membership n)) n
    else return a

def membership : Nat → Reading Term
  | 0 => unexpected
  | n + 1 => do membershipFrom (← matching n) n

def membershipFrom (a : Term) : Nat → Reading Term
  | 0 => return a
  | n + 1 => do
    if ← takeWord "in" then
      let table ← name
      noteTable table
      membershipFrom (.among [a] table) n
    else return a

def matching : Nat → Reading Term
  | 0 => unexpected
  | n + 1 => do matchingFrom (← comparison n) n

def matchingFrom (a : Term) : Nat → Reading Term
  | 0 => return a
  | n + 1 => do
    match ← takeAny ["~", "!~"] with
    | some m => do
      let b ← match ← comparison n with
        | .text t => do pure (.pattern (← pattern t))
        | b => pure b
      matchingFrom (.fits (m = "!~") a b) n
    | none => return a

def comparison : Nat → Reading Term
  | 0 => unexpected
  | n + 1 => do comparisonFrom (← joined n) n

def comparisonFrom (a : Term) : Nat → Reading Term
  | 0 => return a
  | n + 1 => do
    match ← peek with
    | .mark m =>
      match comparison? (← get).printing m with
      | some c => do
        advance
        comparisonFrom (.compare c a (← joined n)) n
      | none => return a
    | _ => return a

/-- Reads values side by side, or a place that is given a value. -/
def joined : Nat → Reading Term
  | 0 => unexpected
  | n + 1 => do
    let a ← sum n
    match a, ← peek with
    | .held p, .mark m =>
      match assignment? m with
      | some o => do
        advance
        return .assign p o (← term n)
      | none => joinedFrom a n
    | a, _ => joinedFrom a n

def joinedFrom (a : Term) : Nat → Reading Term
  | 0 => return a
  | n + 1 => do
    if ← beginsValue then joinedFrom (.join a (← sum n)) n else return a

def sum : Nat → Reading Term
  | 0 => unexpected
  | n + 1 => do sumFrom (← product n) n

def sumFrom (a : Term) : Nat → Reading Term
  | 0 => return a
  | n + 1 => do
    match ← takeAny ["+", "-"] with
    | some m => do sumFrom (.compute (if m = "+" then .plus else .minus) a (← product n)) n
    | none => return a

def product : Nat → Reading Term
  | 0 => unexpected
  | n + 1 => do productFrom (← signed n) n

def productFrom (a : Term) : Nat → Reading Term
  | 0 => return a
  | n + 1 => do
    match ← takeAny ["*", "/", "%"] with
    | some m => do
      let o := if m = "*" then .times else if m = "/" then .divided else .modulo
      productFrom (.compute o a (← signed n)) n
    | none => return a

def signed : Nat → Reading Term
  | 0 => unexpected
  | n + 1 => do
    match ← takeAny ["!", "-", "+"] with
    | some "!" => return .not (← signed n)
    | some "-" => return .negative (← signed n)
    | some _ => return .positive (← signed n)
    | none => do piped (← power n) n

/-- Reads lines from a command that was read. -/
def piped (a : Term) : Nat → Reading Term
  | 0 => return a
  | n + 1 => do
    if !(← get).printing && (← isMark "|") then
      advance
      if !(← takeWord "getline") then unexpected
      piped (.read (.command a) (← placeIfAny n)) n
    else return a

def power : Nat → Reading Term
  | 0 => unexpected
  | n + 1 => do
    let a ← counted n
    if ← take "^" then
      match ← peek with
      | .mark m =>
        if ["!", "-", "+"].contains m then return .compute .power a (← signed n)
        else return .compute .power a (← power n)
      | _ => return .compute .power a (← power n)
    else return a

/-- Reads a value that may be counted up or down behind it. -/
def counted : Nat → Reading Term
  | 0 => unexpected
  | n + 1 => do
    let a ← primary n
    match a with
    | .held p =>
      match ← takeAny ["++", "--"] with
      | some m => return .step p (m = "++") true
      | none => return a
    | a => return a

/-- Reads a place if one is next. -/
def placeIfAny : Nat → Reading (Option Place)
  | 0 => return none
  | n + 1 => do
    let isNext ← match ← peek with
      | .name _ => pure true
      | .mark m => pure (m = "$")
      | _ => pure false
    if isNext then
      match ← primary n with
      | .held p => return some p
      | _ => unexpected
    else return none

/-- Reads terms between commas. -/
def terms : Nat → Reading (List Term)
  | 0 => unexpected
  | n + 1 => do
    let t ← term n
    if ← take "," then
      skipLines
      return t :: (← terms n)
    else return [t]

/-- Reads what a function is given. -/
def given : Nat → Reading (List Term)
  | 0 => unexpected
  | n + 1 => do
    expect "("
    if ← take ")" then return []
    else inside ")" (terms n)

def primary : Nat → Reading Term
  | 0 => unexpected
  | n + 1 => do
    match ← peek with
    | .number x _ => do
      advance
      return .number x
    | .text t => do
      advance
      return .text t
    | .pattern t => do
      let e ← pattern t
      advance
      return .pattern e
    | .name t => do
      advance
      if ← take "[" then
        noteTable t
        return .held (.element t (← inside "]" (terms n)))
      else return .held (.named t)
    | .called t => do
      let line ← line
      advance
      let given ← given n
      noteHandings t given
      modify fun p => { p with calls := (t, given.length, line) :: p.calls }
      return .call t given
    | .builtin b t => do
      let line ← line
      advance
      let hasGiven ← isMark "("
      let isLength := match b with
        | .length => true
        | _ => false
      if !hasGiven && !isLength then unexpected
      let given ← if hasGiven then given n else pure []
      if !accepts b given.length then throw ⟨line, "wrong number of arguments in call to " ++ t⟩
      match b, given with
      | .split, _ :: .held (.named table) :: _ => noteTable table
      | _, _ => pure ()
      return .builtin b given
    | .word w => do
      if w = "getline" then
        advance
        let p ← placeIfAny n
        if ← take "<" then return .read (.file (← power n)) p
        else return .read .records p
      else unexpected
    | .mark "$" => do
      advance
      match ← peek with
      | .mark m =>
        if ["!", "-", "+"].contains m then return .held (.field (← signed n))
        else return .held (.field (← primary n))
      | _ => return .held (.field (← primary n))
    | .mark "(" => do
      advance
      let ts ← inside ")" (terms n)
      match ts with
      | [t] => return .grouped t
      | ts => do
        if !(← takeWord "in") then unexpected
        let table ← name
        noteTable table
        return .among ts table
    | .mark m => do
      if m = "++" ∨ m = "--" then
        advance
        match ← primary n with
        | .held p => return .step p (m = "++") false
        | _ => unexpected
      else if m = "-" ∨ m = "+" ∨ m = "!" then signed n
      else unexpected
    | _ => unexpected

end

/-- Whether a statement ends here. -/
def isEnd : Reading Bool := do
  match ← peek with
  | .newline | .finish => return true
  | .mark m => return m = ";" || m = "\x7d"
  | _ => return false

/-- Takes the end of a statement. -/
def finishStatement : Reading Unit := do
  match ← peek with
  | .newline => skipLines
  | .mark ";" => do
    advance
    skipLines
  | .mark "\x7d" => pure ()
  | _ => unexpected

/-- Reads where printed text goes. -/
def outlet? (n : Nat) : Reading (Option (Outlet × Term)) := do
  let m? ← takeAny [">", ">>", "|"]
  modify fun p => { p with printing := false }
  match m? with
  | some m => do
    let way : Outlet := if m = "|" then .command else .file (m = ">>")
    return some (way, ← term n)
  | none => return none

/-- Whether a list of terms ends here. -/
def endsPrinted : Reading Bool := do
  match ← peek with
  | .mark m => return [">", ">>", "|", ";", "\x7d"].contains m
  | .newline | .finish => return true
  | _ => return false

/-- Reads what is printed. Parentheses around all of it do not count. -/
def printed (n : Nat) : Reading (List Term) := do
  modify fun p => { p with printing := true }
  if ← endsPrinted then return []
  else
    let before ← get
    if ← take "(" then
      let ts ← inside ")" (terms n)
      if 1 < ts.length && (← endsPrinted) then return ts
      else
        set before
        terms n
    else terms n

/-- Whether a loop over a table begins here, and over which one. -/
def loopOver? : Reading (Option (String × String)) := do
  match (← get).tokens with
  | (.name x, _) :: (.word "in", _) :: (.name t, _) :: (.mark ")", _) :: rest => do
    modify fun p => { p with tokens := rest }
    noteTable t
    return some (x, t)
  | _ => return none

/-- Reads something that belongs to a loop. -/
def inLoop (a : Reading α) : Reading α := do
  modify fun p => { p with loops := p.loops + 1 }
  let r ← a
  modify fun p => { p with loops := p.loops - 1 }
  return r

/-- Complains about a statement that may not stand here. -/
def refuse (message : String) : Reading α := do throw ⟨← line, message⟩

/-- Reads a statement that holds no others. -/
def simple (n : Nat) : Reading Statement := do
  match ← peek with
  | .word w => do
    if w = "print" ∨ w = "printf" then
      advance
      let ts ← printed n
      if w = "printf" && ts.isEmpty then refuse "no arguments in call to printf"
      let out ← outlet? n
      return .print (w = "printf") ts out
    else if w = "next" ∨ w = "nextfile" then
      advance
      return if w = "next" then .next else .nextFile
    else if w = "exit" then
      advance
      if ← isEnd then return .leave none else return .leave (some (← term n))
    else if w = "return" then
      if (← get).owner = "" then refuse "return outside function body"
      advance
      if ← isEnd then return .answer none else return .answer (some (← term n))
    else if w = "break" ∨ w = "continue" then
      if (← get).loops = 0 then refuse (w ++ " statement outside of loop")
      advance
      return if w = "break" then .break_ else .continue_
    else if w = "delete" then
      advance
      let table ← name
      noteTable table
      if ← take "[" then return .delete table (← inside "]" (terms n))
      else return .delete table []
    else return .evaluate (← term n)
  | _ => return .evaluate (← term n)

/-- The end of statements behind each other. -/
def skipEnds : Reading Unit :=
  modify fun p =>
    { p with
      tokens := p.tokens.dropWhile fun t => match t.1 with
        | .newline | .mark ";" => true
        | _ => false }

mutual

/-- Reads statements up to a brace. -/
def statements : Nat → Reading (List Statement)
  | 0 => unexpected
  | n + 1 => do
    skipEnds
    if ← take "\x7d" then return []
    else
      let s ← statement n
      return s :: (← statements n)

/-- Reads a block whose brace was read. -/
def block : Nat → Reading Statement
  | 0 => unexpected
  | n + 1 => do
    modify fun p => { p with braces := p.braces + 1 }
    let ss ← statements n
    modify fun p => { p with braces := p.braces - 1 }
    return .block ss

/-- Reads the statement of a loop or a branch. -/
def body : Nat → Reading Statement
  | 0 => unexpected
  | n + 1 => do
    if ← take ";" then
      skipLines
      return .block []
    else
      skipLines
      statement n

def statement : Nat → Reading Statement
  | 0 => unexpected
  | n + 1 => do
    match ← peek with
    | .mark "\x7b" => do
      advance
      let s ← block n
      skipLines
      return s
    | .mark ";" => do
      advance
      return .block []
    | .word "if" => do
      advance
      expect "("
      let c ← inside ")" (term n)
      let a ← body n
      if ← takeWord "else" then return .branch c a (some (← body n))
      else return .branch c a none
    | .word "while" => do
      advance
      expect "("
      let c ← inside ")" (term n)
      return .loop true (some c) none (← inLoop (body n))
    | .word "do" => do
      advance
      let s ← inLoop (body n)
      if !(← takeWord "while") then unexpected
      expect "("
      let c ← inside ")" (term n)
      finishStatement
      return .loop false (some c) none s
    | .word "for" => do
      advance
      expect "("
      match ← loopOver? with
      | some (x, t) => do
        return .each x t (← inLoop (body n))
      | none => do
        let (first, c, step) ← inside ")" do
          let first ← if ← isMark ";" then pure none else pure (some (Statement.evaluate (← term n)))
          expect ";"
          let c ← if ← isMark ";" then pure none else pure (some (← term n))
          expect ";"
          let step ← if ← isMark ")" then pure none else pure (some (Statement.evaluate (← term n)))
          pure (first, c, step)
        let s ← inLoop (body n)
        return .block (first.toList ++ [.loop true c step s])
    | _ => do
      let s ← simple n
      finishStatement
      return s

end

/-- Reads the names of parameters. -/
def parameters (sofar : List String) : Nat → Reading (List String)
  | 0 => unexpected
  | n + 1 => do
    let line ← line
    let p ← name
    if sofar.contains p then throw ⟨line, p ++ " is duplicated in argument list"⟩
    if ← take "," then
      skipLines
      parameters (p :: sofar) n
    else return (p :: sofar).reverse

/-- Reads a function behind its word. -/
def function (n : Nat) : Reading Unit := do
  let f ← match ← peek with
    | .name t | .called t => pure t
    | _ => unexpected
  advance
  expect "("
  let ps ← if ← take ")" then pure [] else inside ")" (parameters [] n)
  skipLines
  expect "\x7b"
  modify fun p => { p with owner := f }
  let s ← block n
  modify fun p => { p with owner := "", functions := (f, ps, s) :: p.functions }

/-- Reads the occasion of a rule. -/
def occasion (n : Nat) : Reading Occasion := do
  match ← peek with
  | .word "BEGIN" => do
    advance
    return .start
  | .word "END" => do
    advance
    return .finish
  | .mark "\x7b" => return .always
  | _ => do
    let first ← term n
    if ← take "," then
      skipLines
      return .range first (← term n)
    else return .record first

/-- Reads a rule. Without an action it prints records that fit. -/
def rule (n : Nat) : Reading Unit := do
  if (← isMark "\x7d") then
    let line ← line
    throw ⟨line, "extra '\x7d'"⟩
  let occasion ← occasion n
  let needsAction := match occasion with
    | .start | .finish => true
    | _ => false
  let action ← if ← take "\x7b" then block n
    else if needsAction then unexpected
    else pure (.print false [] none)
  modify fun p => { p with rules := ⟨occasion, action⟩ :: p.rules }

/-- Reads rules and functions to the end. -/
def items : Nat → Reading Unit
  | 0 => unexpected
  | n + 1 => do
    skipLines
    match ← peek with
    | .finish => pure ()
    | .word w => do
      if w = "function" ∨ w = "func" then
        advance
        function n
      else rule n
      let _ ← take ";"
      items n
    | _ => do
      rule n
      let _ ← take ";"
      items n

/-- Adds the names that functions hand on as tables because of how others use them. -/
def spread (functions : List (String × List String × Statement)) (handings : List Handing) :
    Nat → List (String × String) → List (String × String)
  | 0, tables => tables
  | n + 1, tables =>
    let found := handings.filterMap fun h =>
      match functions.lookup h.taker with
      | some (ps, _) =>
        if ((ps[h.position]?).any fun p => tables.contains (h.taker, p)) &&
            !tables.contains (h.giver, h.name) then
          some (h.giver, h.name)
        else none
      | none => none
    if found.isEmpty then tables else spread functions handings n (found ++ tables)

/-- Checks the calls of functions. -/
def checkCalls : Reading Unit := do
  let p ← get
  let end_ ← line
  p.calls.reverse.forM fun (f, n, line) =>
    match p.functions.lookup f with
    | none => throw ⟨end_, "function " ++ f ++ " never defined"⟩
    | some (ps, _) =>
      if ps.length < n then throw ⟨line, "too many arguments in call to " ++ f⟩ else pure ()

end Reading

/-- Reads a program. -/
def Rules.read (program : String) : Except Mistake Rules :=
  let tokens := Token.all program
  let fuel := 30 * tokens.length + 60
  let all : Reading Unit := do
    Reading.items fuel
    Reading.checkCalls
  match all.run { tokens := tokens } with
  | .error mistake _ => .error mistake
  | .ok _ p =>
    let tables := Reading.spread p.functions p.handings (p.handings.length + 1) p.tables
    .ok
      { rules := p.rules.reverse
        functions := p.functions.map fun (f, ps, s) =>
          ⟨f, ps.map fun x => ⟨x, tables.contains (f, x)⟩, s⟩ }

end ReleaseBundle.Shell.Programs.Record
