/-!
# Arithmetic of the shell

Expressions over integers of 64 bits that wrap around. A name stands for the number that the variable of
that name holds, and an expression can assign to it. `Term.read` reads an expression, with the operators
that bind tighter deeper in the term, and `Term.value` evaluates it: a side that does not matter is not
evaluated, so nothing is assigned there.
-/

namespace ReleaseBundle.Shell.Arithmetic

/-- An operator between two numbers. -/
inductive Binary where
  | mul | div | mod | add | sub | shiftLeft | shiftRight
  | less | lessEqual | greater | greaterEqual | equal | different
  | and | xor | or
  deriving DecidableEq

namespace Binary

/-- How tightly an operator binds. -/
def strength : Binary → Nat
  | mul | div | mod => 8
  | add | sub => 7
  | shiftLeft | shiftRight => 6
  | less | lessEqual | greater | greaterEqual => 5
  | equal | different => 4
  | and => 3
  | xor => 2
  | or => 1

/-- The operators as they are written, the longer ones first. -/
def written : List (String × Binary) :=
  [("<<", shiftLeft), (">>", shiftRight), ("<=", lessEqual), (">=", greaterEqual), ("==", equal),
    ("!=", different), ("*", mul), ("/", div), ("%", mod), ("+", add), ("-", sub), ("<", less),
    (">", greater), ("&", and), ("^", xor), ("|", or)]

/-- Whether there is an assignment that applies the operator. -/
def assigns : Binary → Bool
  | less | lessEqual | greater | greaterEqual | equal | different => false
  | _ => true

end Binary

inductive Token where
  | number (n : Int)
  | name (t : String)
  | binary (o : Binary)
  | assign (o : Option Binary)
  | andAnd | orOr | not | complement | opening | closing | question | colon
  /-- Something that belongs to no expression. -/
  | other
  deriving DecidableEq

inductive Term where
  | number (n : Int)
  | name (t : String)
  | negative (t : Term)
  | not (t : Term)
  | complement (t : Term)
  | binary (o : Binary) (a b : Term)
  | both (a b : Term)
  | either (a b : Term)
  | choice (c a b : Term)
  | assign (o : Option Binary) (name : String) (t : Term)

/-- Why there is no value. -/
inductive Problem where
  /-- The expression is at fault. -/
  | expression (reason : String)
  /-- A variable holds no number. -/
  | notNumber (value : String)
  /-- A variable cannot be assigned to. -/
  | readOnly (name : String)

/-! ## Numbers -/

/-- A number wrapped around to 64 bits. -/
def wrap (n : Int) : Int := n.bmod 0x10000000000000000

def largest : Int := 0x7FFFFFFFFFFFFFFF

/-- The value of a digit. -/
def digit? (base : Nat) (c : Char) : Option Nat :=
  let value :=
    if c.isDigit then c.toNat - 48
    else if 'a' ≤ c ∧ c ≤ 'z' then c.toNat - 87
    else if 'A' ≤ c ∧ c ≤ 'Z' then c.toNat - 55
    else base
  if value < base then some value else none

/-- The number that leading digits denote, and how many there are. -/
def digits (base : Nat) (sofar : Nat) : List Char → Nat × Nat
  | [] => (sofar, 0)
  | c :: cs =>
    match digit? base c with
    | some k => let (n, count) := digits base (sofar * base + k) cs; (n, count + 1)
    | none => (sofar, 0)

/-- The number without a sign at the start of a text, and how many characters it takes: `0x` begins
sixteens, `0` begins eights. -/
def unsigned (cs : List Char) : Nat × Nat :=
  match cs with
  | '0' :: x :: more =>
    let (n, count) := if x = 'x' ∨ x = 'X' then digits 16 0 more else (0, 0)
    if count = 0 then digits 8 0 cs else (n, count + 2)
  | cs => digits 10 0 cs

def isSpace (c : Char) : Bool := c == ' ' || (0x09 ≤ c.toNat && c.toNat ≤ 0x0D)

/-- The number that a whole text denotes, with blanks around it and a sign before it. -/
def integer? (text : String) : Option Int :=
  let cs := text.toList.dropWhile isSpace
  let (negative, cs) :=
    match cs with
    | '-' :: cs => (true, cs)
    | '+' :: cs => (false, cs)
    | cs => (false, cs)
  let (n, count) := unsigned cs
  if count = 0 ∨ ((cs.drop count).any fun c => !isSpace c) then none
  else some (if negative then max (-(n : Int)) (-largest - 1) else min n largest)

/-! ## Reading -/

/-- The token at the start of a text, and how many characters it takes. -/
def token (cs : List Char) : Token × Nat :=
  match cs with
  | [] => (.other, 1)
  | c :: _ =>
    if c.isDigit then
      let (n, count) := unsigned cs
      (.number (min n largest), max count 1)
    else if c.isAlpha || c == '_' then
      let name := cs.takeWhile fun c => c.isAlphanum || c == '_'
      (.name (String.ofList name), max name.length 1)
    else if "&&".toList.isPrefixOf cs then (.andAnd, 2)
    else if "||".toList.isPrefixOf cs then (.orOr, 2)
    else
      match Binary.written.find? fun o => o.1.toList.isPrefixOf cs with
      | some (text, o) =>
        if o.assigns && (cs.drop text.length).head? == some '=' then (.assign (some o), text.length + 1)
        else (.binary o, max text.length 1)
      | none =>
        match c with
        | '=' => (.assign none, 1)
        | '!' => (.not, 1)
        | '~' => (.complement, 1)
        | '(' => (.opening, 1)
        | ')' => (.closing, 1)
        | '?' => (.question, 1)
        | ':' => (.colon, 1)
        | _ => (.other, 1)

/-- The tokens of a text; at most `limit` of them. -/
def tokens : Nat → List Char → List Token
  | 0, _ => []
  | limit + 1, cs =>
    match cs.dropWhile isSpace with
    | [] => []
    | cs => let (t, n) := token cs; t :: tokens limit (cs.drop n)

/-- Reading of tokens. -/
abbrev Reading := EStateM Problem (List Token)

namespace Reading

def refuse {α : Type} (reason : String) : Reading α := throw (.expression reason)

/-- Takes the next token if it is the given one. -/
def take (t : Token) : Reading Bool := fun ts =>
  match ts with
  | u :: rest => if u = t then .ok true rest else .ok false ts
  | [] => .ok false ts

end Reading

open Reading (refuse take)

mutual

/-- Reads an expression that may assign. -/
def assignment : Nat → Reading Term
  | 0 => refuse "expecting primary"
  | n + 1 => do
    match ← get with
    | .name x :: .assign o :: rest => do
      set rest
      return .assign o x (← assignment n)
    | _ => do
      let c ← disjunction n
      if ← take .question then
        let a ← assignment n
        if !(← take .colon) then refuse "expecting ':'"
        return .choice c a (← choice n)
      else return c

/-- Reads an expression that may choose, but not assign. -/
def choice : Nat → Reading Term
  | 0 => refuse "expecting primary"
  | n + 1 => do
    let c ← disjunction n
    if ← take .question then
      let a ← assignment n
      if !(← take .colon) then refuse "expecting ':'"
      return .choice c a (← choice n)
    else return c

def disjunction : Nat → Reading Term
  | 0 => refuse "expecting primary"
  | n + 1 => do
    let a ← conjunction n
    if ← take .orOr then return .either a (← disjunction n) else return a

def conjunction : Nat → Reading Term
  | 0 => refuse "expecting primary"
  | n + 1 => do
    let a ← primary n
    let a ← operators 0 a n
    if ← take .andAnd then return .both a (← conjunction n) else return a

/-- Goes on with operators that bind tighter than `least`. -/
def operators (least : Nat) (a : Term) : Nat → Reading Term
  | 0 => return a
  | n + 1 => do
    match ← get with
    | .binary o :: rest =>
      if o.strength ≤ least then return a
      else do
        set rest
        let b ← primary n
        let b ← operators o.strength b n
        operators least (.binary o a b) n
    | _ => return a

def primary : Nat → Reading Term
  | 0 => refuse "expecting primary"
  | n + 1 => do
    match ← get with
    | .number k :: rest => do
      set rest
      return .number k
    | .name x :: rest => do
      set rest
      return .name x
    | .opening :: rest => do
      set rest
      let t ← assignment n
      if !(← take .closing) then refuse "expecting ')'"
      return t
    | .binary .add :: rest => do
      set rest
      primary n
    | .binary .sub :: rest => do
      set rest
      return .negative (← primary n)
    | .not :: rest => do
      set rest
      return .not (← primary n)
    | .complement :: rest => do
      set rest
      return .complement (← primary n)
    | _ => refuse "expecting primary"

end

/-- Reads a whole expression. -/
def Term.read (text : String) : Except Problem Term :=
  let ts := tokens (text.length + 1) text.toList
  match (assignment (8 * ts.length + 8)).run ts with
  | .ok t [] => .ok t
  | .ok _ _ => .error (.expression "expecting EOF")
  | .error p _ => .error p

/-! ## Evaluating -/

/-- The variables that an expression works on. -/
structure Variables where
  value : String → String
  isReadOnly : String → Bool
  /-- What was assigned, the last first. -/
  assigned : List (String × Int)

/-- Evaluation, which may assign. -/
abbrev Evaluation := EStateM Problem Variables

def ofBool (b : Bool) : Int := if b then 1 else 0

/-- The bits of a number as one without a sign. -/
def bits (n : Int) : Nat := (n % 0x10000000000000000).toNat

/-- The result of an operator. -/
def Binary.apply (o : Binary) (a b : Int) : Evaluation Int :=
  match o with
  | mul => return wrap (a * b)
  | div => if b = 0 then throw (.expression "division by zero") else return wrap' (a.tdiv b)
  | mod => if b = 0 then throw (.expression "division by zero") else return a.tmod b
  | add => return wrap (a + b)
  | sub => return wrap (a - b)
  | shiftLeft => return wrap (a * Nat.pow 2 (bits b % 64))
  | shiftRight => return a.fdiv (Nat.pow 2 (bits b % 64))
  | less => return ofBool (a < b)
  | lessEqual => return ofBool (a ≤ b)
  | greater => return ofBool (a > b)
  | greaterEqual => return ofBool (a ≥ b)
  | equal => return ofBool (a == b)
  | different => return ofBool (a != b)
  | and => return wrap (bits a &&& bits b)
  | xor => return wrap (bits a ^^^ bits b)
  | or => return wrap (bits a ||| bits b)
where
  /-- The one quotient that does not fit stays at the largest number. -/
  wrap' (n : Int) : Int := min n largest

/-- The number in a variable; no text counts as zero. -/
def valueOf (x : String) : Evaluation Int := do
  let vs ← get
  match vs.assigned.lookup x with
  | some n => return n
  | none =>
    let text := vs.value x
    if text.toList.all isSpace then return 0
    else
      match integer? text with
      | some n => return n
      | none => throw (.notNumber text)

/-- The value of a term. -/
def Term.value : Term → Evaluation Int
  | .number n => return n
  | .name x => valueOf x
  | .negative t => return wrap (-(← t.value))
  | .not t => return ofBool ((← t.value) == 0)
  | .complement t => return -(← t.value) - 1
  | .binary o a b => do
    let a ← a.value
    let b ← b.value
    o.apply a b
  | .both a b => do if (← a.value) = 0 then return 0 else return ofBool ((← b.value) != 0)
  | .either a b => do if (← a.value) != 0 then return 1 else return ofBool ((← b.value) != 0)
  | .choice c a b => do if (← c.value) != 0 then a.value else b.value
  | .assign o x t => do
    let n ← t.value
    let n ← match o with
      | some o => o.apply (← valueOf x) n
      | none => pure n
    if (← get).isReadOnly x then throw (.readOnly x)
    modify fun vs => { vs with assigned := (x, n) :: vs.assigned }
    return n

/-- The value of an expression, and what it assigns, the last first. -/
def evaluate (text : String) (vs : Variables) : Except Problem (Int × List (String × Int)) :=
  match Term.read text with
  | .error p => .error p
  | .ok t =>
    match t.value.run vs with
    | .ok n vs => .ok (n, vs.assigned)
    | .error p _ => .error p

end ReleaseBundle.Shell.Arithmetic
