import ReleaseBundle.Shell.Arithmetic
import ReleaseBundle.Shell.Open

/-!
# Conditions

A condition is a list of arguments: tests of texts, numbers and files, put together by `-a`, `-o`, `!` and
parentheses. Whether an argument is an operator depends on what stands around it, so a condition is read
from the first argument on, with the arguments that are left.
-/

namespace ReleaseBundle.Shell.Condition

/-- The operators that take one operand. -/
def unaryOperators : List String :=
  ["-r", "-w", "-x", "-e", "-f", "-d", "-c", "-b", "-p", "-u", "-g", "-k", "-s", "-t", "-z", "-n",
    "-h", "-L", "-O", "-G", "-S"]

/-- The operators that take two operands. -/
def binaryOperators : List String :=
  ["=", "!=", "<", ">", "-eq", "-ne", "-gt", "-ge", "-lt", "-le", "-nt", "-ot", "-ef"]

inductive Token where
  | finish
  | operand
  | unary (o : String)
  | binary (o : String)
  | and | or | not | opening | closing
  deriving DecidableEq

/-- What the first of the arguments that are left is. An operator with one operand is a text itself if
there is nothing for it to stand before. -/
def token : List String → Token
  | [] => .finish
  | t :: rest =>
    if unaryOperators.contains t then
      let isOperand := match rest with
        | [] => true
        | [_] => false
        | u :: _ => binaryOperators.contains u
      if isOperand then .operand else .unary t
    else if binaryOperators.contains t then .binary t
    else
      match t with
      | "-a" => .and
      | "-o" => .or
      | "!" => .not
      | "(" => if rest.isEmpty then .operand else .opening
      | ")" => .closing
      | _ => .operand

/-- Reading of arguments; the first of them is the one that is looked at. -/
abbrev Reading := EStateM String (List String)

/-- The number that an operand has to be. -/
def integer (t : String) : Reading Int :=
  let cs := t.toList
  let trimmed := (cs.dropWhile Arithmetic.isSpace).reverse.dropWhile Arithmetic.isSpace |>.reverse
  let (negative, digits) := match trimmed with
    | '-' :: ds => (true, ds)
    | '+' :: ds => (false, ds)
    | ds => (false, ds)
  if digits.isEmpty || digits.any fun c => !c.isDigit then throw ("Illegal number: " ++ t)
  else
    let n : Int := digits.foldl (fun n c => 10 * n + (c.toNat - 48)) 0
    if n > Arithmetic.largest then throw ("Illegal number: " ++ t) else return if negative then -n else n

/-- Whether a file is as an operator asks. -/
def fileHas (d : Disk) (o t : String) : Bool :=
  let p := pathOf t
  let bits (k : Nat) : Bool :=
    match d.stat p with
    | .ok (_, .file n) => (d.data n).mode / k % 2 == 1
    | .ok _ => true
    | .error _ => false
  let isDevice := (device? d p).isSome
  match o with
  | "-r" => bits 256
  | "-w" => bits 128
  | "-x" => bits 64
  | "-e" | "-O" | "-G" => (d.stat p).isOk
  | "-f" => d.isFile p && !isDevice
  | "-d" => d.isDirectory p
  | "-c" => isDevice
  | "-u" => d.isFile p && bits 2048
  | "-g" => d.isFile p && bits 1024
  | "-k" => d.isFile p && bits 512
  | "-s" =>
    match d.stat p with
    | .ok (_, .file n) => !(d.data n).content.isEmpty
    | .ok _ => true
    | .error _ => false
  | "-h" | "-L" =>
    match d.lstat p with
    | .ok (_, .link _) => true
    | _ => false
  | _ => false

/-- Whether two operands are as an operator asks. No file here is older than another one. -/
def compares (d : Disk) (o a b : String) : Reading Bool := do
  let numbers (f : Int → Int → Bool) : Reading Bool := do
    let m ← integer a
    let n ← integer b
    return f m n
  match o with
  | "=" => return a == b
  | "!=" => return a != b
  | "<" => return decide (a < b)
  | ">" => return decide (b < a)
  | "-eq" => numbers fun m n => m == n
  | "-ne" => numbers fun m n => m != n
  | "-gt" => numbers fun m n => m > n
  | "-ge" => numbers fun m n => m ≥ n
  | "-lt" => numbers fun m n => m < n
  | "-le" => numbers fun m n => m ≤ n
  | "-ef" =>
    match d.stat (pathOf a), d.stat (pathOf b) with
    | .ok (_, .file m), .ok (_, .file n) => return m == n
    | .ok (at_, _), .ok (at', _) => return at_ == at'
    | _, _ => return false
  | _ => return false

/-- Goes on to the next argument. -/
def advance : Reading Unit := modify List.tail

/-- What the argument behind the one that is looked at is. -/
def ahead : Reading Token := return token (← get).tail

mutual

/-- Reads conditions between `-o`. -/
def disjunction (d : Disk) (t : Token) : Nat → Reading Bool
  | 0 => return false
  | n + 1 => do
    let a ← conjunction d t n
    if (← ahead) = .or then
      advance
      advance
      let b ← disjunction d (token (← get)) n
      return a || b
    else return a

/-- Reads conditions between `-a`. -/
def conjunction (d : Disk) (t : Token) : Nat → Reading Bool
  | 0 => return false
  | n + 1 => do
    let a ← negation d t n
    if (← ahead) = .and then
      advance
      advance
      let b ← conjunction d (token (← get)) n
      return a && b
    else return a

def negation (d : Disk) (t : Token) : Nat → Reading Bool
  | 0 => return false
  | n + 1 => do
    if t = .not then
      let next ← ahead
      if next != .finish then advance
      return !(← negation d next n)
    else primary d t n

def primary (d : Disk) (t : Token) : Nat → Reading Bool
  | 0 => return false
  | n + 1 => do
    match t with
    | .finish => return false
    | .opening => do
      advance
      let next := token (← get)
      if next = .closing then return false
      else
        let a ← disjunction d next n
        advance
        if token (← get) != .closing then throw "closing paren expected"
        return a
    | .unary o => do
      advance
      match ← get with
      | [] => throw (o ++ ": argument expected")
      | a :: _ =>
        match o with
        | "-z" => return a == ""
        | "-n" => return a != ""
        | "-t" => do
          let _ ← integer a
          return false
        | o => return fileHas d o a
    | _ =>
      match ← ahead with
      | .binary o => do
        let a := (← get).headD ""
        advance
        advance
        match ← get with
        | [] => throw (o ++ ": argument expected")
        | b :: _ => compares d o a b
      | _ => return (← get).headD "" != ""

end

/-- Whether a whole condition holds; `start` tells what its first argument is. -/
def whole (d : Disk) (start : Token) (args : List String) : Except String Bool :=
  match (disjunction d start (8 * args.length + 8)).run args with
  | .error e _ => .error e
  | .ok _ (t :: _ :: _) => .error ((if t = "" then "" else t ++ ": ") ++ "unexpected operator")
  | .ok b _ => .ok b

/-- Whether a condition holds. Few arguments are read by their number, so that texts that look like operators
are no surprise. -/
def holds (d : Disk) : List String → Except String Bool
  | [] => .ok false
  | [a, o, b] =>
    if binaryOperators.contains o then whole d .operand [a, o, b]
    else if a = "(" ∧ b = ")" then whole d (token [o]) [o]
    else if a = "!" then (holds d [o, b]).map (!·)
    else whole d (token [a, o, b]) [a, o, b]
  | [a, b, c, e] =>
    if a = "(" ∧ e = ")" then whole d (token [b, c]) [b, c]
    else if a = "!" then (holds d [b, c, e]).map (!·)
    else whole d (token [a, b, c, e]) [a, b, c, e]
  | args => whole d (token args) args

end ReleaseBundle.Shell.Condition
