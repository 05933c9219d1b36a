import ReleaseBundle.Shell.Script

/-!
# Reading scripts

A script is read line by line, where a line may go on over several lines of text if a command or a quote
is open at its end. What is read before a mistake still runs, so `Script.read` answers the commands up to
the first mistake together with that mistake.

The readers call each other, and every call takes characters or goes one level deeper into the grammar.
So they count down from a number that the length of the text bounds.
-/

namespace ReleaseBundle.Shell

/-- A document that was announced but not read yet. -/
structure Awaited where
  number : Nat
  ending : String
  /-- Whether the document is taken as it is. -/
  literal : Bool
  /-- Whether tabs at the start of lines are left out. -/
  untabbed : Bool

/-- What is left of a script. -/
structure Source where
  rest : List Char
  line : Nat
  awaited : List Awaited
  documents : List Document
  /-- The number of the next document. -/
  next : Nat

/-- Reading that may meet a mistake. -/
abbrev Reading := EStateM Mistake Source

namespace Reading

def fault {α : Type} (message : String) : Reading α := fun s => .error ⟨s.line, message⟩ s

def peek? : Reading (Option Char) := return (← get).rest.head?

/-- Passes over characters, and counts lines. -/
def pass (n : Nat) : Reading Unit :=
  modify fun s =>
    { s with rest := s.rest.drop n, line := s.line + (s.rest.take n).count '\n' }

def lookingAt (t : String) : Reading Bool := return t.toList.isPrefixOf (← get).rest

/-- Passes over characters of a kind, and answers them. -/
def span (p : Char → Bool) : Reading String := do
  let taken := (← get).rest.takeWhile p
  pass taken.length
  return String.ofList taken

end Reading

open Reading (fault pass lookingAt span)

/-! ## Tokens -/

/-- What a command is made of. -/
inductive Token where
  | finish
  | newline
  | semicolon
  | ampersand
  | andAnd
  | orOr
  | bar
  | opening
  | closing
  | doubleSemicolon
  | word (w : Word)
  | redirect (descriptor : Option Nat) (operator : String)

/-- The words with a meaning at the start of a command. -/
def keywords : List String :=
  ["!", "case", "do", "done", "elif", "else", "esac", "fi", "for", "if", "in", "then", "until",
    "while", "\x7b", "\x7d"]

/-- The text of a word without quotes and expansions. -/
def plain? : Word → Option String
  | [] => some ""
  | .text t false :: ps => (plain? ps).map (t ++ ·)
  | _ => none

/-- The keyword that a token is. -/
def Token.keyword? : Token → Option String
  | .word w => (plain? w).filter keywords.contains
  | _ => none

/-- The name of a token in messages; keywords count only at the start of a command. -/
def Token.name (t : Token) (atStart : Bool) : String :=
  match t with
  | finish => "end of file"
  | newline => "newline"
  | semicolon => "\";\""
  | ampersand => "\"&\""
  | andAnd => "\"&&\""
  | orOr => "\"||\""
  | bar => "\"|\""
  | opening => "\"(\""
  | closing => "\")\""
  | doubleSemicolon => "\";;\""
  | redirect _ _ => "redirection"
  | word _ =>
    match t.keyword?, atStart with
    | some k, true => "\"" ++ k ++ "\""
    | _, _ => "word"

/-- Gives up at a token that does not belong here. -/
def unexpected {α : Type} (t : Token) (atStart : Bool) (wanted : Option String) : Reading α :=
  let hint := match wanted with
    | some w => " (expecting " ++ w ++ ")"
    | none => ""
  fault ("Syntax error: " ++ t.name atStart ++ " unexpected" ++ hint)

/-- Passes over blanks, joined lines, and comments. -/
def blanks : List Char → Nat × Nat
  | ' ' :: cs => let (n, l) := blanks cs; (n + 1, l)
  | '\t' :: cs => let (n, l) := blanks cs; (n + 1, l)
  | '\\' :: '\n' :: cs => let (n, l) := blanks cs; (n + 2, l)
  | '#' :: cs => (1 + (cs.takeWhile (· != '\n')).length, 0)
  | _ => (0, 0)

/-- Whether a character ends a word. -/
def endsWord (c : Char) : Bool :=
  c == ' ' || c == '\t' || c == '\n' || c == ';' || c == '&' || c == '|' || c == '(' || c == ')' ||
    c == '<' || c == '>'

/-- The operators of redirections, the longer ones first. -/
def redirectOperators : List String :=
  ["<<-", "<<", "<&", "<>", "<", ">>", ">&", ">|", ">"]

/-! ## Words -/

/-- Where a sequence of pieces stands, which decides what is special in it and where it ends. -/
inductive Context where
  /-- Outside quotes; anything that ends a word ends it. -/
  | plain
  | doubleQuotes
  /-- In the braces of a parameter, outside quotes. -/
  | braces
  /-- In the braces of a parameter, in double quotes. -/
  | quotedBraces
  | document
  | arithmetic
  deriving DecidableEq

namespace Context

/-- Whether pieces count as quoted here. -/
def isQuoted : Context → Bool
  | plain | braces => false
  | _ => true

/-- The characters that a backslash makes ordinary. -/
def escapable : Context → List Char
  | doubleQuotes => ['$', '\x60', '"', '\\']
  | quotedBraces => ['$', '\x60', '"', '\\', '\x7d']
  | _ => ['$', '\x60', '\\']

end Context

/-- Adds a character to pieces that stand with the last first. -/
def addChar (c : Char) (quoted : Bool) : List Piece → List Piece
  | .text t q :: ps => if q = quoted then .text (t.push c) q :: ps else .text c.toString quoted :: .text t q :: ps
  | ps => .text c.toString quoted :: ps

/-- The text in backquotes: a backslash before certain characters is left out. -/
def unescapeBackquoted (quoted : Bool) : List Char → List Char
  | '\\' :: c :: cs =>
    if c = '\\' ∨ c = '$' ∨ c = '\x60' ∨ (c = '"' ∧ quoted) then
      c :: unescapeBackquoted quoted cs
    else '\\' :: c :: unescapeBackquoted quoted cs
  | c :: cs => c :: unescapeBackquoted quoted cs
  | [] => []

/-- How many characters stand before the closing backquote. -/
def backquoteLength? : List Char → Option Nat
  | [] => none
  | '\x60' :: _ => some 0
  | '\\' :: _ :: cs => (backquoteLength? cs).map (· + 2)
  | _ :: cs => (backquoteLength? cs).map (· + 1)

/-- The operation that the characters behind a parameter begin, with the number of characters, as a
function of the word behind it. -/
def operation? : List Char → Option (Nat × (Word → Operation))
  | ':' :: '-' :: _ => some (2, .default true)
  | ':' :: '=' :: _ => some (2, .assign true)
  | ':' :: '?' :: _ => some (2, .complain true)
  | ':' :: '+' :: _ => some (2, .alternative true)
  | '-' :: _ => some (1, .default false)
  | '=' :: _ => some (1, .assign false)
  | '?' :: _ => some (1, .complain false)
  | '+' :: _ => some (1, .alternative false)
  | '%' :: '%' :: _ => some (2, .cutEnd true)
  | '%' :: _ => some (1, .cutEnd false)
  | '#' :: '#' :: _ => some (2, .cutStart true)
  | '#' :: _ => some (1, .cutStart false)
  | _ => none

/-- Whether an operation looks at its word as a pattern. -/
def isPatternOperation (cs : List Char) : Bool := cs.head? == some '%' || cs.head? == some '#'

def isSpecialParameter (c : Char) : Bool :=
  c == '@' || c == '*' || c == '#' || c == '?' || c == '-' || c == '$' || c == '!'

/-- The name of the parameter that comes next. -/
def parameterName? (cs : List Char) : Option String :=
  match cs with
  | c :: _ =>
    if isNameStart c then some (String.ofList (cs.takeWhile isNameChar))
    else if c.isDigit || isSpecialParameter c then some c.toString
    else none
  | [] => none

/-- The name of the parameter in braces, which may be a number of several digits. -/
def bracedName? (cs : List Char) : Option String :=
  match cs with
  | c :: _ => if c.isDigit then some (String.ofList (cs.takeWhile Char.isDigit)) else parameterName? cs
  | [] => none

/-- The part of a document up to the line that ends it, the number of characters that both take, and
whether there is such a line. -/
def documentBody (a : Awaited) (sofar : List Char) : List Char → List Char × Nat
  | [] => (sofar, 0)
  | cs =>
    let line := cs.takeWhile (· != '\n')
    let behind := cs.drop line.length
    let shown := if a.untabbed then line.dropWhile (· == '\t') else line
    if String.ofList shown = a.ending then (sofar, line.length + min 1 behind.length)
    else
      match h : behind with
      | [] => (sofar ++ shown, line.length)
      | _ :: next =>
        have : next.length < cs.length := by
          have h1 : behind.length ≤ cs.length := by simp only [behind, List.length_drop]; omega
          rw [h] at h1
          simp only [List.length_cons] at h1
          omega
        let (body, n) := documentBody a (sofar ++ shown ++ ['\n']) next
        (body, line.length + 1 + n)
termination_by cs => cs.length

/-- The delimiter of a document without its quotes, and whether it had any. -/
def delimiter : Word → String × Bool
  | [] => ("", false)
  | .text t q :: ps => let (u, r) := delimiter ps; (t ++ u, q || r)
  | .parameter name _ _ :: ps => let (u, r) := delimiter ps; ("$" ++ name ++ u, r)
  | _ :: ps => delimiter ps

/-- Reads something else for a while, whose first line has the given number, and then goes on here. -/
def elsewhere {α : Type} (line : Nat) (cs : List Char) (r : Reading α) : Reading α := do
  let s ← get
  set { s with rest := cs, line := line, awaited := [] }
  let a ← r
  modify fun t => { t with rest := s.rest, line := s.line, awaited := s.awaited }
  return a

/-- Puts commands one after the other. -/
def joined : Option Command → Command → Command
  | none, c => c
  | some a, c => .sequence a c

/-- The words that end lists of commands. -/
def closers : List String := ["fi", "done", "then", "do", "else", "elif", "esac", "\x7d"]

/-- Whether a token ends a list of commands. -/
def Token.closes (t : Token) : Bool :=
  match t with
  | .finish | .closing | .doubleSemicolon => true
  | _ => t.keyword?.any closers.contains

/-- The name and the value of a word that assigns. -/
def assignment? : Word → Option (String × Word)
  | .text t false :: ps =>
    let name := t.toList.takeWhile isNameChar
    if isName (String.ofList name) && (t.toList.drop name.length).head? == some '=' then
      let value := String.ofList (t.toList.drop (name.length + 1))
      some (String.ofList name, if value = "" then ps else .text value false :: ps)
    else none
  | _ => none

/-- The builtins that cannot be redefined. -/
def specialBuiltins : List String :=
  [".", ":", "break", "continue", "eval", "exec", "exit", "export", "readonly", "return", "set",
    "shift", "times", "trap", "unset"]

/-- What a redirection with an operator does to its descriptor. -/
def redirectOf (descriptor : Option Nat) (operator : String) (w : Word) : Redirect :=
  match operator with
  | "<" => .file (descriptor.getD 0) .read w
  | "<>" => .file (descriptor.getD 0) .both w
  | "<&" => .duplicate (descriptor.getD 0) true w
  | ">&" => .duplicate (descriptor.getD 1) false w
  | ">>" => .file (descriptor.getD 1) .append w
  | ">|" => .file (descriptor.getD 1) .clobber w
  | _ => .file (descriptor.getD 1) .write w

/-- A simple command that is being read. -/
structure Draft where
  line : Nat
  assignments : List (String × Word)
  words : List Word
  redirects : List Redirect

/-- The command, unless there is none. -/
def Draft.command? (d : Draft) : Option Command :=
  if d.assignments.isEmpty && d.words.isEmpty && d.redirects.isEmpty then none
  else some (.simple d.line d.assignments.reverse d.words.reverse d.redirects.reverse)

def tooDeep {α : Type} : Reading α := fault "Syntax error: nested too deeply"

/-! ## The grammar -/

mutual

/-- Reads pieces of a word up to where they end in their context; `sofar` holds them with the last
first. -/
def pieces (x : Context) (sofar : List Piece) (depth : Nat) : Nat → Reading (List Piece)
  | 0 => tooDeep
  | n + 1 => do
    let rest := (← get).rest
    match rest with
    | [] =>
      match x with
      | .plain | .document => return sofar.reverse
      | .doubleQuotes => fault "Syntax error: Unterminated quoted string"
      | .braces | .quotedBraces => fault "Syntax error: Missing '\x7d'"
      | .arithmetic => fault "Syntax error: Missing '))'"
    | c :: cs =>
      if x = .plain && endsWord c then return sofar.reverse
      else if (x = .braces || x = .quotedBraces) && c = '\x7d' then do
        pass 1
        return sofar.reverse
      else if x = .doubleQuotes && c = '"' then do
        pass 1
        return sofar.reverse
      else if x = .arithmetic && c = ')' && depth = 0 && cs.head? = some ')' then do
        pass 2
        return sofar.reverse
      else if x = .arithmetic && (c = '(' || c = ')') then do
        pass 1
        pieces x (addChar c true sofar) (if c = '(' then depth + 1 else depth - 1) n
      else if c = '\\' then
        match cs with
        | '\n' :: _ => do
          pass 2
          pieces x sofar depth n
        | e :: _ => do
          pass 2
          if !x.isQuoted || x.escapable.contains e then pieces x (addChar e true sofar) depth n
          else pieces x (addChar e true (addChar '\\' true sofar)) depth n
        | [] => do
          pass 1
          pieces x (addChar '\\' true sofar) depth n
      else if c = '\'' && !x.isQuoted then do
        let body := cs.takeWhile (· != '\'')
        if cs.length = body.length then do
          pass rest.length
          fault "Syntax error: Unterminated quoted string"
        pass (body.length + 2)
        pieces x (.text (String.ofList body) true :: sofar) depth n
      else if c = '"' && (x != .document && x != .arithmetic) then do
        pass 1
        let inner ← pieces .doubleQuotes [.text "" true] 0 n
        pieces x (inner.reverse ++ sofar) depth n
      else if c = '$' then do
        pass 1
        match ← dollar x n with
        | some p => pieces x (p :: sofar) depth n
        | none => pieces x (addChar '$' true sofar) depth n
      else if c = '\x60' then do
        match backquoteLength? cs with
        | none => do
          pass rest.length
          fault "Syntax error: EOF in backquote substitution"
        | some k => do
          let body := unescapeBackquoted (x = .doubleQuotes) (cs.take k)
          let inner ← elsewhere 1 body (do
            let (c, t) ← block false (← token n) n
            match t with
            | .finish => return c
            | t => unexpected t true none)
          pass (k + 2)
          pieces x (.substitution (inner.getD (.simple 0 [] [] [])) x.isQuoted :: sofar) depth n
      else do
        pass 1
        pieces x (addChar c x.isQuoted sofar) depth n

/-- Reads what a dollar sign begins; it is passed already. There is nothing if it stands for itself. -/
def dollar (x : Context) : Nat → Reading (Option Piece)
  | 0 => tooDeep
  | n + 1 => do
    let rest := (← get).rest
    match rest with
    | '(' :: '(' :: _ => do
      pass 2
      let w ← pieces .arithmetic [] 0 n
      return some (.arithmetic w x.isQuoted)
    | '(' :: _ => do
      pass 1
      let s ← get
      set { s with awaited := [] }
      let (c, t) ← block false (← token n) n
      match t with
      | .closing => do
        modify fun t => { t with awaited := s.awaited ++ t.awaited }
        return some (.substitution (c.getD (.simple 0 [] [] [])) x.isQuoted)
      | t => unexpected t true (some "\")\"")
    | '\x7b' :: cs => do
      pass 1
      let inQuotes := x.isQuoted
      let inner : Context := if inQuotes then .quotedBraces else .braces
      let length? : Option String :=
        match cs with
        | '#' :: more =>
          (bracedName? more).filter fun name => (more.drop name.length).head? == some '\x7d'
        | _ => none
      match length? with
      | some name => do
        pass (name.length + 2)
        return some (.parameter name .length inQuotes)
      | none =>
        match bracedName? cs with
        | none => do
          let _ ← pieces inner [] 0 n
          return some (.parameter "" .wrong inQuotes)
        | some name => do
          pass name.length
          let behind := (← get).rest
          if behind.head? = some '\x7d' then do
            pass 1
            return some (.parameter name .value inQuotes)
          else
            match operation? behind with
            | none => do
              let _ ← pieces inner [] 0 n
              return some (.parameter name .wrong inQuotes)
            | some (k, o) => do
              pass k
              let w ← pieces (if isPatternOperation behind then .braces else inner) [] 0 n
              return some (.parameter name (o w) inQuotes)
    | cs =>
      match parameterName? cs with
      | some name => do
        pass name.length
        return some (.parameter name .value x.isQuoted)
      | none => return none

/-- Reads the documents that are awaited at the end of a line. -/
def awaitedDocuments : Nat → Reading Unit
  | 0 => tooDeep
  | n + 1 => do
    let s ← get
    match s.awaited with
    | [] => return
    | a :: as => do
      let (body, k) := documentBody a [] s.rest
      let w : Word ← if a.literal then pure [.text (String.ofList body) true]
        else elsewhere s.line body (pieces .document [] 0 n)
      pass k
      let isLast := (s.rest.take k).getLast? != some '\n' && body.length < k
      modify fun t => { t with awaited := as, line := if isLast then t.line + 1 else t.line }
      modify fun t => { t with documents := Document.mk a.number w :: t.documents }
      awaitedDocuments n

/-- Reads a token. -/
def token : Nat → Reading Token
  | 0 => tooDeep
  | n + 1 => do
    let (k, _) := blanks (← get).rest
    pass k
    match (← get).rest with
    | [] => return .finish
    | '\n' :: _ => do
      pass 1
      awaitedDocuments n
      return .newline
    | '&' :: '&' :: _ => do pass 2; return .andAnd
    | '&' :: _ => do pass 1; return .ampersand
    | '|' :: '|' :: _ => do pass 2; return .orOr
    | '|' :: _ => do pass 1; return .bar
    | ';' :: ';' :: _ => do pass 2; return .doubleSemicolon
    | ';' :: _ => do pass 1; return .semicolon
    | '(' :: _ => do pass 1; return .opening
    | ')' :: _ => do pass 1; return .closing
    | cs =>
      let digits := cs.takeWhile Char.isDigit
      let behind := cs.drop digits.length
      match redirectOperators.find? fun o => o.toList.isPrefixOf behind with
      | some o =>
        if digits.length ≤ 1 then do
          pass (digits.length + o.length)
          return .redirect ((String.ofList digits).toNat?) o
        else return .word (← pieces .plain [] 0 n)
      | none => return .word (← pieces .plain [] 0 n)

/-- Reads the target of a redirection. -/
def target (descriptor : Option Nat) (o : String) : Nat → Reading Redirect
  | 0 => tooDeep
  | n + 1 => do
    match ← token n with
    | .word w =>
      if o = "<<" || o = "<<-" then do
        let (ending, literal) := delimiter w
        let number := (← get).next
        let a : Awaited := ⟨number, ending, literal, o = "<<-"⟩
        modify fun s => { s with awaited := s.awaited ++ [a], next := number + 1 }
        return .document (descriptor.getD 0) number
      else return redirectOf descriptor o w
    | t => unexpected t false none

/-- Reads redirections behind a command. -/
def redirects (sofar : List Redirect) (t : Token) : Nat → Reading (List Redirect × Token)
  | 0 => tooDeep
  | n + 1 =>
    match t with
    | .redirect d o => do
      let r ← target d o n
      redirects (r :: sofar) (← token n) n
    | t => return (sofar.reverse, t)

/-- Reads a list of commands up to a token that ends it; with `needed` there has to be a command unless
the text ends. -/
def block (needed : Bool) (t : Token) : Nat → Reading (Option Command × Token)
  | 0 => tooDeep
  | n + 1 =>
    match t with
    | .newline => do block needed (← token n) n
    | .finish => return (none, .finish)
    | t =>
      if !needed && t.closes then return (none, t)
      else do
        let (c, t) ← andOr t n
        blockRest c t n

/-- Goes on with a list of commands behind one of them. -/
def blockRest (c : Command) (t : Token) : Nat → Reading (Option Command × Token)
  | 0 => tooDeep
  | n + 1 =>
    match t with
    | .ampersand => do continueBlock (.background c) (← token n) n
    | .semicolon | .newline => do continueBlock c (← token n) n
    | t => return (some c, t)

/-- Goes on with a list of commands behind a separator. -/
def continueBlock (c : Command) (t : Token) : Nat → Reading (Option Command × Token)
  | 0 => tooDeep
  | n + 1 =>
    match t with
    | .newline => do continueBlock c (← token n) n
    | t =>
      if t.closes then return (some c, t)
      else do
        let (d, t) ← andOr t n
        blockRest (.sequence c d) t n

/-- Reads pipelines between `&&` and `||`. -/
def andOr (t : Token) : Nat → Reading (Command × Token)
  | 0 => tooDeep
  | n + 1 => do
    let (c, t) ← pipeline t n
    andOrRest c t n

def andOrRest (c : Command) (t : Token) : Nat → Reading (Command × Token)
  | 0 => tooDeep
  | n + 1 =>
    match t with
    | .andAnd => do
      let (d, t) ← pipeline (← afterNewlines (← token n) n) n
      andOrRest (.both c d) t n
    | .orOr => do
      let (d, t) ← pipeline (← afterNewlines (← token n) n) n
      andOrRest (.either c d) t n
    | t => return (c, t)

/-- Passes over ends of lines. -/
def afterNewlines (t : Token) : Nat → Reading Token
  | 0 => tooDeep
  | n + 1 =>
    match t with
    | .newline => do afterNewlines (← token n) n
    | t => return t

/-- Reads commands between bars. -/
def pipeline (t : Token) : Nat → Reading (Command × Token)
  | 0 => tooDeep
  | n + 1 =>
    if t.keyword? = some "!" then do
      let t ← token n
      let (c, t) ← command t n
      let (c, t) ← pipelineRest [c] t n
      return (.negated c, t)
    else do
      let (c, t) ← command t n
      pipelineRest [c] t n

def pipelineRest (cs : List Command) (t : Token) : Nat → Reading (Command × Token)
  | 0 => tooDeep
  | n + 1 =>
    match t with
    | .bar => do
      let (c, t) ← command (← afterNewlines (← token n) n) n
      pipelineRest (c :: cs) t n
    | t =>
      match cs with
      | [c] => return (c, t)
      | cs => return (.pipeline cs.reverse, t)

/-- Reads a block and the keyword behind it. -/
def blockUpTo (keyword : String) : Nat → Reading Command
  | 0 => tooDeep
  | n + 1 => do
    let (c, t) ← block true (← token n) n
    match c with
    | some c =>
      if t.keyword? = some keyword then return c
      else unexpected t true (some ("\"" ++ keyword ++ "\""))
    | none => unexpected t true (some ("\"" ++ keyword ++ "\""))

/-- Reads what follows `if` or `elif`. -/
def branches : Nat → Reading Command
  | 0 => tooDeep
  | n + 1 => do
    let condition ← blockUpTo "then" n
    let (c, t) ← block true (← token n) n
    match t.keyword?, c with
    | some "elif", some c => return .branch condition c (some (← branches n))
    | some "else", some c => return .branch condition c (some (← blockUpTo "fi" n))
    | some "fi", some c => return .branch condition c none
    | _, _ => unexpected t true (some "\"fi\"")

/-- Reads words up to the end of the line or a semicolon. -/
def wordsUpToEnd (sofar : List Word) : Nat → Reading (List Word)
  | 0 => tooDeep
  | n + 1 => do
    match ← token n with
    | .word w => wordsUpToEnd (w :: sofar) n
    | .semicolon | .newline => return sofar.reverse
    | t => unexpected t false none

/-- Reads patterns between bars up to a closing parenthesis. -/
def patterns (sofar : List Word) (t : Token) : Nat → Reading (List Word)
  | 0 => tooDeep
  | n + 1 => do
    let w := match t with
      | .word w => w
      | _ => []
    match ← token n with
    | .bar => patterns (w :: sofar) (← token n) n
    | .closing => return (w :: sofar).reverse
    | t => unexpected t false (some "\")\"")

/-- Reads the cases of a selection. -/
def cases (sofar : List (List Word × Option Command)) : Nat →
    Reading (List (List Word × Option Command))
  | 0 => tooDeep
  | n + 1 => do
    let t ← afterNewlines (← token n) n
    if t.keyword? = some "esac" then return sofar.reverse
    else do
      let t ← match t with
        | .opening => token n
        | t => pure t
      let ws ← patterns [] t n
      let (c, t) ← block false (← token n) n
      match t with
      | .doubleSemicolon => cases ((ws, c) :: sofar) n
      | t =>
        if t.keyword? = some "esac" then return ((ws, c) :: sofar).reverse
        else unexpected t true (some "\";;\"")

/-- Reads a command that is not simple, without its redirections, if there is one. -/
def compound (t : Token) : Nat → Reading (Option Command)
  | 0 => tooDeep
  | n + 1 => do
    let line := (← get).line
    match t.keyword? with
    | some "if" => return some (← branches n)
    | some "while" => do
      let condition ← blockUpTo "do" n
      return some (.loop true condition (← blockUpTo "done" n))
    | some "until" => do
      let condition ← blockUpTo "do" n
      return some (.loop false condition (← blockUpTo "done" n))
    | some "\x7b" => return some (← blockUpTo "\x7d" n)
    | some "for" => do
      let name ← match ← token n with
        | .word w =>
          match (plain? w).filter isName with
          | some name => pure name
          | none => fault "Syntax error: Bad for loop variable"
        | _ => fault "Syntax error: Bad for loop variable"
      let t ← afterNewlines (← token n) n
      let isIn := match t with
        | .word w => plain? w == some "in"
        | _ => false
      let (words, t) ←
        if isIn then do
          let ws ← wordsUpToEnd [] n
          pure (ws, ← token n)
        else
          match t with
          | .semicolon => do pure ([[Piece.parameter "@" .value true]], ← token n)
          | t => pure ([[Piece.parameter "@" .value true]], t)
      let t ← afterNewlines t n
      if t.keyword? != some "do" then unexpected t true (some "\"do\"")
      return some (.each line name words (← blockUpTo "done" n))
    | some "case" => do
      let subject ← match ← token n with
        | .word w => pure w
        | t => unexpected t false (some "word")
      let t ← afterNewlines (← token n) n
      match t with
      | .word w =>
        if plain? w = some "in" then return some (.select line subject (← cases [] n))
        else unexpected t true (some "\"in\"")
      | t => unexpected t true (some "\"in\"")
    | some _ => return none
    | none =>
      match t with
      | .opening => do
        let (c, t) ← block true (← token n) n
        match t, c with
        | .closing, some c => return some (.subshell line c)
        | t, _ => unexpected t true (some "\")\"")
      | _ => return none

/-- Reads a command. -/
def command (t : Token) : Nat → Reading (Command × Token)
  | 0 => tooDeep
  | n + 1 => do
    let line := (← get).line
    match ← compound t n with
    | some c => do
      let (rs, t) ← redirects [] (← token n) n
      return (if rs.isEmpty then c else .redirected line c rs, t)
    | none =>
      if (t.keyword?).isSome then unexpected t true none
      else do
        let (d, t) ← simple ⟨line, [], [], []⟩ t n
        match d with
        | .inl d =>
          match d.command? with
          | some c => return (c, t)
          | none => unexpected t true none
        | .inr c => return (c, t)

/-- Reads a simple command, or the definition of a function. -/
def simple (d : Draft) (t : Token) : Nat → Reading ((Draft ⊕ Command) × Token)
  | 0 => tooDeep
  | n + 1 =>
    match t with
    | .redirect k o => do
      let r ← target k o n
      simple { d with redirects := r :: d.redirects } (← token n) n
    | .word w =>
      match assignment? w, d.words with
      | some a, [] => do simple { d with assignments := a :: d.assignments } (← token n) n
      | _, _ => do simple { d with words := w :: d.words } (← token n) n
    | .opening =>
      match d.words, d.assignments, d.redirects with
      | [w], [], [] => do
        match ← token n with
        | .closing =>
          match (plain? w).filter isName with
          | none => fault "Syntax error: Bad function name"
          | some name => do
            if specialBuiltins.contains name then fault "Syntax error: Bad function name"
            let line := (← get).line
            let (body, t) ← command (← afterNewlines (← token n) n) n
            return (.inr (.definition line name body), t)
        | t => unexpected t true (some "\")\"")
      | _, _, _ => return (.inl d, .opening)
    | t => return (.inl d, t)

end

/-- Reads one line with all that belongs to it. There is nothing at the end of the text. -/
def scriptLine (n : Nat) : Reading (Option (Option Command)) := do
  let t ← token n
  match t with
  | .finish => return none
  | .newline => return some none
  | t =>
    if t.closes then unexpected t true none
    else do
      let (c, t) ← andOr t n
      loop c t n
where
  /-- Goes on behind a command of the line. -/
  loop (c : Command) (t : Token) : Nat → Reading (Option (Option Command))
    | 0 => tooDeep
    | k + 1 =>
      match t with
      | .finish => do
        awaitedDocuments n
        return some (some c)
      | .newline => return some (some c)
      | .ampersand => do more (.background c) (← token n) k
      | .semicolon => do more c (← token n) k
      | t => unexpected t true none
  /-- Goes on behind a separator. -/
  more (c : Command) (t : Token) : Nat → Reading (Option (Option Command))
    | 0 => tooDeep
    | k + 1 =>
      match t with
      | .finish => do
        awaitedDocuments n
        return some (some c)
      | .newline => return some (some c)
      | t => do
        let (d, t) ← andOr t n
        loop (.sequence c d) t k

/-- Reads lines up to the end or the first mistake. -/
def scriptLines (depth : Nat) : Nat → Source → List Command → Script
  | 0, s, sofar => ⟨sofar.reverse, s.documents, none⟩
  | n + 1, s, sofar =>
    match (scriptLine depth).run s with
    | .error m s => ⟨sofar.reverse, s.documents, some m⟩
    | .ok none s => ⟨sofar.reverse, s.documents, none⟩
    | .ok (some none) s => scriptLines depth n s sofar
    | .ok (some (some c)) s => scriptLines depth n s (c :: sofar)

/-- How deeply the readers may call each other in a text of the given length. -/
def readingDepth (length : Nat) : Nat := 24 * length + 100

/-- Reads a script whose first line and first document have the given numbers. -/
def Script.read (text : String) (line document : Nat) : Script :=
  let cs := text.toList
  scriptLines (readingDepth cs.length) (cs.length + 1) ⟨cs, line, [], [], document⟩ []

end ReleaseBundle.Shell
