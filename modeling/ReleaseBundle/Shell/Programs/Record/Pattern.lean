import ReleaseBundle.Shell.Format
import ReleaseBundle.Shell.Programs.Regex

/-!
# Patterns of records

The expressions of a program on records are extended ones in which a backslash takes its meaning away from
any mark, in sets too, and in which a letter behind a backslash may stand for a character that is hard to
write. A brace that begins no count stands for itself.
-/

namespace ReleaseBundle.Shell.Programs.Record

/-- What keeps an expression from being understood. -/
inductive Flaw where
  | unclosed
  | noOperand

def Flaw.message : Flaw → String
  | unclosed => "missing ')'"
  | noOperand => "missing operand"

/-- What an escape in an expression stands for, and what follows it. -/
def escapedChar : List Char → Char × List Char
  | [] => ('\\', [])
  | c :: rest =>
    let ds := ((c :: rest).take 3).takeWhile Format.isOctal
    if ds.isEmpty then
      match c with
      | 'a' => ('\x07', rest)
      | 'b' => ('\x08', rest)
      | 'f' => ('\x0c', rest)
      | 'n' => ('\n', rest)
      | 'r' => ('\r', rest)
      | 't' => ('\t', rest)
      | 'v' => ('\x0b', rest)
      | 'x' => (Format.digitsAt 16 2 rest).getD ('x', rest)
      | c => (c, rest)
    else (Format.octalChar ds, (c :: rest).drop ds.length)

/-- A member of a set, and what follows it. -/
def memberAt : List Char → Char × List Char
  | '\\' :: cs => escapedChar cs
  | c :: cs => (c, cs)
  | [] => ('\x00', [])

/-- The members of a set up to its bracket, and what follows it. -/
def membersOf (first : Bool) (isIn : Char → Bool) : Nat → List Char → Option ((Char → Bool) × List Char)
  | 0, _ | _, [] => none
  | n + 1, c :: cs =>
    let name := (cs.drop 1).takeWhile Char.isAlpha
    let named? := if c = '[' && cs.head? = some ':' && ((cs.drop (name.length + 1)).take 2) = [':', ']'] then
        Wildcard.class? (String.ofList name)
      else none
    match named? with
    | some named => membersOf false (fun c => isIn c || named c) n (cs.drop (name.length + 3))
    | none =>
      if c = ']' && !first then some (isIn, cs)
      else
        let (a, rest) := memberAt (c :: cs)
        match rest with
        | '-' :: b :: more =>
          if b = ']' then membersOf false (fun c => isIn c || c == a) n rest
          else
            let (b, more) := memberAt (b :: more)
            membersOf false (fun c => isIn c || (a ≤ c && c ≤ b)) n more
        | rest => membersOf false (fun c => isIn c || c == a) n rest

/-- The count at the start of a text behind its brace, and what follows it. -/
def countAt? (cs : List Char) : Option ((Nat × Option Nat) × List Char) :=
  let number (ds : List Char) : Nat := ds.foldl (fun n c => 10 * n + (c.toNat - 48)) 0
  let least := cs.takeWhile Char.isDigit
  if least.isEmpty then none
  else
    match cs.drop least.length with
    | '\x7d' :: rest => some ((number least, some (number least)), rest)
    | ',' :: more =>
      let most := more.takeWhile Char.isDigit
      match more.drop most.length with
      | '\x7d' :: rest => some ((number least, if most.isEmpty then none else some (number most)), rest)
      | _ => none
    | _ => none

/-- An expression with the counts that follow it. -/
def counted (e : Expression) : Nat → List Char → Expression × List Char
  | 0, cs => (e, cs)
  | n + 1, cs =>
    match cs with
    | '*' :: rest => counted (.repeated e 0 none) n rest
    | '+' :: rest => counted (.repeated e 1 none) n rest
    | '?' :: rest => counted (.repeated e 0 (some 1)) n rest
    | '\x7b' :: rest =>
      match countAt? rest with
      | some ((least, most), rest) => counted (.repeated e least most) n rest
      | none => (e, cs)
    | cs => (e, cs)

mutual

/-- Branches between bars. -/
def branchesOf (depth : Nat) : Nat → List Char → Except Flaw (Expression × List Char)
  | 0, cs => .ok (.nothing, cs)
  | n + 1, cs => do
    match ← piecesOf depth .nothing n cs with
    | (e, '|' :: rest) => do
      let (f, rest) ← branchesOf depth n rest
      return (.either e f, rest)
    | found => return found

/-- Pieces up to the end of a branch. -/
def piecesOf (depth : Nat) (sofar : Expression) : Nat → List Char → Except Flaw (Expression × List Char)
  | 0, cs => .ok (sofar, cs)
  | n + 1, cs => do
    let goOn (e : Expression) (rest : List Char) : Except Flaw (Expression × List Char) :=
      let (e, rest) := counted e (rest.length + 1) rest
      piecesOf depth (.sequence sofar e) n rest
    match cs with
    | [] | '|' :: _ => return (sofar, cs)
    | ')' :: rest => if 0 < depth then return (sofar, cs) else goOn (.char (· == ')')) rest
    | '(' :: rest =>
      match ← branchesOf (depth + 1) n rest with
      | (e, ')' :: rest) => goOn e rest
      | _ => throw .unclosed
    | '[' :: rest =>
      let (negated, inner) := match rest with
        | '^' :: inner => (true, inner)
        | inner => (false, inner)
      match membersOf true (fun _ => false) (inner.length + 1) inner with
      | some (isIn, rest) => goOn (.char fun c => isIn c != negated) rest
      | none => goOn (.char (· == '[')) rest
    | '.' :: rest => goOn (.char fun _ => true) rest
    | '^' :: rest => goOn .lineStart rest
    | '$' :: rest => goOn .lineEnd rest
    | '\\' :: rest =>
      let (c, rest) := escapedChar rest
      goOn (.char (· == c)) rest
    | '*' :: _ | '+' :: _ | '?' :: _ => throw .noOperand
    | c :: rest => goOn (.char (· == c)) rest

end

/-- Reads an expression. -/
def patternOf (t : String) : Except Flaw Expression := do
  let cs := t.toList
  return (← branchesOf 0 (4 * cs.length + 8) cs).1

end ReleaseBundle.Shell.Programs.Record
