import ReleaseBundle.Shell.Programs.Regex

/-!
# Reckoning with arguments

`expr` takes each argument as a sign of an expression and prints its value. The status is one if the value is
nothing or zero, and two if there is none.
-/

namespace ReleaseBundle.Shell.Programs

open Act

namespace Reckoning

/-- What is left of an expression, and the argument that was passed last. -/
structure Pending where
  rest : List String
  last : String := ""

abbrev Reading := EStateM String Pending

def integer? (t : String) : Option Int :=
  match t.toList with
  | '-' :: cs => if cs.isEmpty || !cs.all Char.isDigit then none else (String.ofList cs).toNat?.map fun n => -n
  | cs => if cs.isEmpty || !cs.all Char.isDigit then none else t.toNat?.map fun n => (n : Int)

/-- Whether a value counts as nothing. -/
def isNull (t : String) : Bool := t = "" || integer? t = some 0

def next : Reading String := do
  match (← get).rest with
  | [] => throw ("syntax error: missing argument after " ++ cited (← get).last)
  | t :: rest => do
    set (Pending.mk rest t)
    return t

/-- Passes an argument if it is one of some. -/
def accept (names : List String) : Reading (Option String) := do
  match (← get).rest with
  | t :: rest =>
    if names.contains t then do
      set (Pending.mk rest t)
      return some t
    else return none
  | [] => return none

/-- How much of a text an expression matches from its start, or the text of its group. -/
def matched (text pattern : String) : Reading String := do
  match Expression.read false pattern with
  | .error problem => throw problem
  | .ok e =>
    let found := Expression.longest? false e ⟨[], text.toList, []⟩
    if e.groupCount > 0 then
      return (found.bind fun f => f.groups.lookup 1).elim "" String.ofList
    else return toString ((found.map fun f => f.text.length).getD 0)

def number (t : String) : Reading Int := do
  match integer? t with
  | some n => return n
  | none => throw "non-integer argument"

def calculate (o a b : String) : Reading String := do
  let x ← number a
  let y ← number b
  match o with
  | "+" => return toString (x + y)
  | "-" => return toString (x - y)
  | "*" => return toString (x * y)
  | _ =>
    if y = 0 then throw "division by zero"
    else return toString (if o = "/" then Int.tdiv x y else Int.tmod x y)

def compares (o a b : String) : Bool :=
  let order := match integer? a, integer? b with
    | some x, some y => compare x y
    | _, _ => compare a b
  match o with
  | "<" => order == .lt
  | "<=" => order != .gt
  | "=" | "==" => order == .eq
  | "!=" => order != .eq
  | ">=" => order != .lt
  | _ => order == .gt

/-- The operators, from those that bind least. -/
def levels : List (List String) :=
  [["|"], ["&"], ["<", "<=", "=", "==", "!=", ">=", ">"], ["+", "-"], ["*", "/", "%"], [":"]]

def apply (o a b : String) : Reading String :=
  match o with
  | "|" => return if !isNull a then a else if isNull b then "0" else b
  | "&" => return if isNull a || isNull b then "0" else a
  | ":" => matched a b
  | "+" | "-" | "*" | "/" | "%" => calculate o a b
  | _ => return if compares o a b then "1" else "0"

mutual

/-- Reads a value whose operators bind at least as much as those of the given levels. -/
def level : List (List String) → Nat → Reading String
  | _, 0 => throw "syntax error"
  | [], n + 1 => primary n
  | operators :: higher, n + 1 => do
    let a ← level higher n
    following operators higher a n

/-- Reads what operators of one level do to a value. -/
def following (operators : List String) (higher : List (List String)) (a : String) : Nat → Reading String
  | 0 => return a
  | n + 1 => do
    match ← accept operators with
    | none => return a
    | some o => do
      let b ← level higher n
      following operators higher (← apply o a b) n

/-- Reads a value without operators. -/
def primary : Nat → Reading String
  | 0 => throw "syntax error"
  | n + 1 => do
    let t ← next
    let there := !(← get).rest.isEmpty
    if t = "+" then next
    else if t = "length" && there then return toString (← primary n).length
    else if t = "match" && there then do
      let a ← primary n
      matched a (← primary n)
    else if t = "index" && there then do
      let a ← primary n
      let b ← primary n
      return toString (((a.toList.findIdx? fun c => b.contains c).map (· + 1)).getD 0)
    else if t = "substr" && there then do
      let a ← primary n
      let from_ ← primary n
      let count ← primary n
      match integer? from_, integer? count with
      | some i, some k =>
        if i < 1 ∨ k < 1 then return ""
        else return String.ofList ((a.toList.drop (i.toNat - 1)).take k.toNat)
      | _, _ => return ""
    else if t = "(" then do
      let a ← level levels n
      match (← get).rest with
      | ")" :: _ => do
        let _ ← next
        return a
      | [] => throw ("syntax error: expecting ')' after " ++ cited (← get).last)
      | other :: _ => throw ("syntax error: expecting ')' instead of " ++ cited other)
    else if t = ")" then throw "syntax error: unexpected ')'"
    else return t

end

/-- The value of an expression. -/
def value (args : List String) : Except String String :=
  match (level levels (16 * args.length + 32)).run ⟨args, ""⟩ with
  | .error problem _ => .error problem
  | .ok _ ⟨t :: _, _⟩ => .error ("syntax error: unexpected argument " ++ cited t)
  | .ok v _ => .ok v

end Reckoning

def reckon : Program := fun args => do
  let m : Manual := { program := "expr", flags := "", misuse := 2 }
  let args := if args.head? = some "--" then args.tail else args
  if args.isEmpty then m.misused "missing operand"
  else
    match Reckoning.value args with
    | .error problem => do
      m.complain problem
      return 2
    | .ok v => do
      print (v ++ "\n")
      return if Reckoning.isNull v then 1 else 0

end ReleaseBundle.Shell.Programs
