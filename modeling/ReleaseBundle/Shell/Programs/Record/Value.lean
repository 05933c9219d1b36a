import ReleaseBundle.Shell.Format

/-!
# Values of records

What a program on records works with is text and numbers at once: a text stands for the number at its start,
and a number for its digits. Text that comes from outside and looks like a number is compared as one.
-/

namespace ReleaseBundle.Shell.Programs.Record

inductive Value where
  | unset
  | number (x : Float)
  | text (t : String)
  /-- Text from outside that looks like a number, and that number. -/
  | numeral (t : String) (x : Float)
  deriving Inhabited

/-! ## Numbers in texts -/

/-- What stands behind a sign, and whether it is a minus. -/
def signed : List Char → Bool × List Char
  | '-' :: cs => (true, cs)
  | '+' :: cs => (false, cs)
  | cs => (false, cs)

def digitValue (n : Nat) (c : Char) : Nat := 10 * n + (c.toNat - 48)

/-- The number with the given digits and exponent of ten. -/
def decimal (m : Nat) (exponent : Int) : Float :=
  if m = 0 then 0
  else if 400 < exponent then 1 / 0
  else if exponent < -1000 then 0
  else Float.ofScientific m (decide (exponent < 0)) exponent.natAbs

/-- The exponent at the start of a text, and what follows it. -/
def exponentAt (cs : List Char) : Int × List Char :=
  match cs with
  | c :: rest =>
    if c = 'e' ∨ c = 'E' then
      let (negative, digits) := signed rest
      let ds := digits.takeWhile Char.isDigit
      if ds.isEmpty then (0, cs)
      else
        let n := ds.foldl digitValue 0
        (if negative then -n else n, digits.drop ds.length)
    else (0, cs)
  | [] => (0, [])

/-- The decimal number without a sign at the start of a text, and what follows it. -/
def decimalAt? (cs : List Char) : Option (Float × List Char) :=
  let whole := cs.takeWhile Char.isDigit
  let rest := cs.drop whole.length
  let (part, rest) := match rest with
    | '.' :: more => (more.takeWhile Char.isDigit, more.dropWhile Char.isDigit)
    | _ => ([], rest)
  if whole.isEmpty && part.isEmpty then none
  else
    let (exponent, rest) := exponentAt rest
    some (decimal ((whole ++ part).foldl digitValue 0) (exponent - part.length), rest)

/-- The number at the start of a text, in any of the ways to write one. -/
def leading (cs : List Char) : Float :=
  let (negative, body) := signed (cs.dropWhile Arithmetic.isSpace)
  let named (t : String) : Bool := t.toList.isPrefixOf (body.map Char.toLower)
  let x : Float :=
    if named "inf" then 1 / 0
    else if named "nan" then 0 / 0
    else
      match body with
      | '0' :: 'x' :: ds | '0' :: 'X' :: ds =>
        ((ds.takeWhile fun c => (Bytes.hexValue? c).isSome).foldl
          (fun n c => 16 * n + (Bytes.hexValue? c).getD 0) 0).toFloat
      | _ => ((decimalAt? body).map Prod.fst).getD 0
  if negative then -x else x

/-- A text from outside. -/
def Value.ofInput (t : String) : Value :=
  let (negative, body) := signed (t.toList.dropWhile Arithmetic.isSpace)
  match decimalAt? body with
  | some (x, rest) => if rest.all Arithmetic.isSpace then .numeral t (if negative then -x else x) else .text t
  | none => .text t

/-! ## Texts of numbers -/

def isWhole (x : Float) : Bool := x == x.floor && -9223372036854775808 ≤ x && x ≤ 18446744073709551616

/-- The size of a number, with everything behind the point left out. -/
def magnitude (x : Float) : Nat :=
  if x.abs < 18446744073709551616 then x.abs.toUInt64.toNat
  else
    let (a, b) := Format.quotient x.abs
    a / b

/-- A number without what is behind the point. -/
def truncated (x : Float) : Int := if x < 0 then -(magnitude x : Int) else magnitude x

/-- The digits of a whole number, at most those of the largest one that a machine word holds. -/
def wholeText (x : Float) : String :=
  let digits := toString (min (magnitude x) 18446744073709551615)
  if x < 0 then "-" ++ digits else digits

/-- What is shown in place of the digits of what is no finite number. -/
def unmeasured? (x : Float) : Option String :=
  if x.isNaN then some "nan" else if x.isInf then some "inf" else none

/-- Shows a number as one of the conversions for fractions does. -/
def fractionText (l : Format.Layout) (c : Char) (x : Float) : String :=
  let sign := if x < 0 || x.isNaN then "-" else if l.plus then "+" else if l.blank then " " else ""
  match unmeasured? x with
  | some t => l.pad (sign ++ if c.isUpper then t.toUpper else t)
  | none => { l with precision := none }.number sign (Format.fraction l c (Format.quotient x.abs))

/-- A layout at the start of a text, and what follows it. The amounts stand in the text. -/
def layoutAt (cs : List Char) : Format.Layout × List Char :=
  let (l, rest) := Format.signs {} cs
  let width := rest.takeWhile Char.isDigit
  let rest := rest.drop width.length
  let l := { l with width := width.foldl digitValue 0 }
  match rest with
  | '.' :: more =>
    ({ l with precision := some ((more.takeWhile Char.isDigit).foldl digitValue 0) }, more.dropWhile Char.isDigit)
  | _ => (l, rest)

/-- The text of a number; a fraction is shown as a format of one conversion says. -/
def numberText (format : String) (x : Float) : String :=
  if isWhole x then wholeText x
  else
    let cs := format.toList
    let before := cs.takeWhile (· != '%')
    match layoutAt (cs.drop (before.length + 1)) with
    | (l, c :: rest) =>
      let shown := if c = 'd' ∨ c = 'i' then toString (truncated x) else fractionText l c x
      String.ofList before ++ shown ++ String.ofList rest
    | (_, []) => String.ofList before

namespace Value

def toNumber : Value → Float
  | unset => 0
  | number x => x
  | text t => leading t.toList
  | numeral _ x => x

/-- The text of a value; the format is for numbers. -/
def toText (format : String) : Value → String
  | unset => ""
  | number x => numberText format x
  | text t | numeral t _ => t

def holds : Value → Bool
  | unset => false
  | number x => x != 0
  | text t => t != ""
  | numeral _ x => x != 0

def ofBool (b : Bool) : Value := .number (if b then 1 else 0)

def ofNat (n : Nat) : Value := .number n.toFloat

/-- The number that a value is compared as, unless it is compared as text. -/
def measure? : Value → Option Float
  | unset => some 0
  | number x | numeral _ x => some x
  | text _ => none

end Value

/-- The ways to compare values. -/
inductive Comparison where
  | less
  | notMore
  | equal
  | different
  | notLess
  | more
  deriving DecidableEq

/-- Whether a comparison holds between things that have an order. -/
def Comparison.holds (c : Comparison) (isLess isEqual : Bool) : Bool :=
  match c with
  | less => isLess
  | notMore => isLess || isEqual
  | equal => isEqual
  | different => !isEqual
  | notLess => !isLess
  | more => !isLess && !isEqual

/-- Compares two values: as numbers if both are, and else as texts. -/
def Comparison.compare (c : Comparison) (format : String) (a b : Value) : Bool :=
  match a.measure?, b.measure? with
  | some x, some y =>
    if x.isNaN || y.isNaN then decide (c = different) else c.holds (x < y) (x == y)
  | _, _ =>
    let s := a.toText format
    let t := b.toText format
    c.holds (s < t) (s == t)

/-- What is left of a division, with the sign of the dividend. Both numbers are quotients by powers of two, so
nothing is rounded. -/
def remainder (x y : Float) : Float :=
  if y == 0 || x.isInf || x.isNaN || y.isNaN then 0 / 0
  else if x.abs < y.abs then x
  else
    let (a, b) := Format.quotient x.abs
    let (c, d) := Format.quotient y.abs
    let r := ((a * d) % (c * b)).toFloat.scaleB (-((b * d).log2 : Int))
    if x < 0 then -r else r

/-- The ways to compute with numbers. -/
inductive Operation where
  | plus
  | minus
  | times
  | divided
  | modulo
  | power

def Operation.compute : Operation → Float → Float → Float
  | plus, x, y => x + y
  | minus, x, y => x - y
  | times, x, y => x * y
  | divided, x, y => x / y
  | modulo, x, y => remainder x y
  | power, x, y => x.pow y

end ReleaseBundle.Shell.Programs.Record
