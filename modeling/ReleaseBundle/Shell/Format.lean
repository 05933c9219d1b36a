import ReleaseBundle.Bytes.Basic
import ReleaseBundle.Shell.Arithmetic

/-!
# Formatted texts

`printf` fills a format with arguments and starts over while arguments are left. Escapes stand for
characters that are hard to write; in the texts that `echo` and `%b` print they look a little different from
those in formats.
-/

namespace ReleaseBundle.Shell.Format

/-- The character that a letter behind a backslash stands for. -/
def escaped? : Char → Option Char
  | 'a' => some '\x07'
  | 'b' => some '\x08'
  | 'e' => some '\x1b'
  | 'f' => some '\x0c'
  | 'n' => some '\n'
  | 'r' => some '\r'
  | 't' => some '\t'
  | 'v' => some '\x0b'
  | '\\' => some '\\'
  | _ => none

def isOctal (c : Char) : Bool := '0' ≤ c && c ≤ '7'

/-- The character that octal digits stand for. -/
def octalChar (ds : List Char) : Char :=
  Char.ofNat (ds.foldl (fun n c => 8 * n + (c.toNat - 48)) 0 % 256)

/-- An escape of a format: the character that it stands for, and what follows. -/
def escape (cs : List Char) : List Char × List Char :=
  match cs with
  | [] => (['\\'], [])
  | c :: rest =>
    let ds := (cs.take 3).takeWhile isOctal
    if ds.isEmpty then
      match escaped? c with
      | some e => ([e], rest)
      | none => if c = '"' then (['"'], rest) else (['\\', c], rest)
    else ([octalChar ds], cs.drop ds.length)

/-- A text with its escapes replaced, and whether one of them ends all output. Octal digits may stand behind
an additional zero. -/
def unescape (limit : Nat) (cs : List Char) : List Char × Bool :=
  match limit, cs with
  | 0, _ => ([], false)
  | _, [] => ([], false)
  | n + 1, '\\' :: rest =>
    match rest with
    | 'c' :: _ => ([], true)
    | '"' :: rest => let (t, e) := unescape n rest; ('\\' :: '"' :: t, e)
    | '0' :: more =>
      let ds := (more.take 3).takeWhile isOctal
      let (t, e) := unescape n (more.drop ds.length)
      (octalChar ds :: t, e)
    | rest =>
      let (shown, rest) := escape rest
      let (t, e) := unescape n rest
      (shown ++ t, e)
  | n + 1, c :: rest => let (t, e) := unescape n rest; (c :: t, e)

/-- What `echo` prints for its arguments. -/
def echoed (args : List String) : String :=
  let (newline, args) := match args with
    | "-n" :: args => (false, args)
    | args => (true, args)
  let cs := (" ".intercalate args).toList
  let (t, ended) := unescape (cs.length + 1) cs
  String.ofList t ++ (if newline && !ended then "\n" else "")

/-- The value of the digits at the start, at most so many, of the given base, and what follows them. -/
def digitsAt (base most : Nat) (cs : List Char) : Option (Char × List Char) :=
  let isDigit (c : Char) : Bool := (Bytes.hexValue? c).any (· < base)
  let ds := (cs.take most).takeWhile isDigit
  if ds.isEmpty then none
  else
    let n := ds.foldl (fun n c => base * n + (Bytes.hexValue? c).getD 0) 0
    some (Char.ofNat (n % 256), cs.drop ds.length)

/-- Text with its escapes read, and whether it ends early. -/
def unescaped : Nat → List Char → List Char × Bool
  | 0, _ | _, [] => ([], false)
  | _, ['\\'] => (['\\'], false)
  | n + 1, '\\' :: c :: rest =>
    let found : Option (Char × List Char) := match c with
      | 'e' => some ('\x1b', rest)
      | 'x' => digitsAt 16 2 rest
      | '0' => (digitsAt 8 3 rest).or (some ('\x00', rest))
      | c => if '1' ≤ c ∧ c ≤ '7' then digitsAt 8 3 (c :: rest) else (escaped? c).map (·, rest)
    if c = 'c' then ([], true)
    else
      match found with
      | some (e, rest) => let (t, b) := unescaped n rest; (e :: t, b)
      | none => let (t, b) := unescaped n rest; ('\\' :: c :: t, b)
  | n + 1, c :: rest => let (t, b) := unescaped n rest; (c :: t, b)

/-- Options of letters that say how arguments are printed: whether the line ends, and whether escapes are read. -/
def echoOptions (newline escapes : Bool) : List String → Bool × Bool × List String
  | [] => (newline, escapes, [])
  | a :: rest =>
    match a.toList with
    | '-' :: c :: cs =>
      if (c :: cs).all fun c => c == 'n' || c == 'e' || c == 'E' then
        let last := ((c :: cs).reverse.find? (· != 'n')).map (· == 'e')
        echoOptions (newline && !(c :: cs).contains 'n') (last.getD escapes) rest
      else (newline, escapes, a :: rest)
    | _ => (newline, escapes, a :: rest)

/-- What `echo` prints where escapes are only read on request. -/
def spoken (args : List String) : String :=
  let (newline, escapes, args) := echoOptions true false args
  let cs := (" ".intercalate args).toList
  let (t, ended) := if escapes then unescaped (cs.length + 1) cs else (cs, false)
  String.ofList t ++ if newline && !ended then "\n" else ""

/-- How a value is laid out. -/
structure Layout where
  left : Bool := false
  plus : Bool := false
  blank : Bool := false
  marked : Bool := false
  zeros : Bool := false
  width : Nat := 0
  precision : Option Nat := none

namespace Layout

/-- A text at its width. -/
def pad (l : Layout) (t : String) : String :=
  let fill := String.ofList (List.replicate (l.width - t.length) ' ')
  if l.left then t ++ fill else fill ++ t

/-- The digits of a number with their sign or mark, at the width. -/
def number (l : Layout) (sign digits : String) : String :=
  let digits := match l.precision with
    | some p => String.ofList (List.replicate (p - digits.length) '0') ++ digits
    | none => digits
  if l.zeros && !l.left && l.precision.isNone then
    sign ++ String.ofList (List.replicate (l.width - sign.length - digits.length) '0') ++ digits
  else l.pad (sign ++ digits)

end Layout

/-- Text that was printed, with what is left of the arguments and what was complained about. -/
structure Printed where
  /-- What was printed, the last first. -/
  text : List Char := []
  args : List String
  problems : List String := []
  /-- Whether an argument was used. -/
  used : Bool := false
  /-- Whether nothing more is printed. -/
  ended : Bool := false
  /-- Whether the format is wrong. -/
  wrong : Bool := false

namespace Printed

def say (p : Printed) (t : String) : Printed := { p with text := t.toList.reverse ++ p.text }

/-- The next argument. -/
def next (p : Printed) : Option String × Printed :=
  match p.args with
  | [] => (none, p)
  | a :: args => (some a, { p with args := args, used := true })

/-- The number that an argument denotes; what is wrong with it is noted. -/
def nextNumber (p : Printed) : Int × Printed :=
  match p.next with
  | (none, p) => (0, p)
  | (some a, p) =>
    match a.toList with
    | '"' :: cs | '\'' :: cs => ((cs.head?.map fun c => (c.toNat : Int)).getD 0, p)
    | cs =>
      let body := cs.dropWhile Arithmetic.isSpace
      let (negative, digits) := match body with
        | '-' :: ds => (true, ds)
        | '+' :: ds => (false, ds)
        | ds => (false, ds)
      let (n, count) := Arithmetic.unsigned digits
      let value : Int := if negative then -n else n
      let low : Int := -Arithmetic.largest - 1
      if cs.isEmpty then (0, p)
      else if count = 0 then (0, { p with problems := (a ++ ": expected numeric value") :: p.problems })
      else if count < digits.length then
        (value, { p with problems := (a ++ ": not completely converted") :: p.problems })
      else if value < low || value > Arithmetic.largest then
        (max low (min value Arithmetic.largest),
          { p with problems := (a ++ ": Numerical result out of range") :: p.problems })
      else (value, p)

end Printed

/-- A number that is not negative as a quotient without rounding: a whole number times a power of two, where
the second power is the divisor. -/
def quotient (x : Float) : Nat × Nat :=
  let bits := x.toBits.toNat
  let unit := 0x10000000000000
  let exponent := bits / unit % 2048
  let fraction := bits % unit
  let (m, e) := if exponent = 0 then (fraction, 1) else (unit + fraction, exponent)
  (m * Nat.pow 2 (e - 1075), Nat.pow 2 (1075 - e))

/-- A quotient rounded to the nearest whole number, of two the even one. -/
def rounded (n d : Nat) : Nat :=
  let q := n / d
  let r := n % d
  if 2 * r < d || (2 * r == d && q % 2 == 0) then q else q + 1

/-- The digits of a quotient with the given number of places. -/
def fixed (a b places : Nat) : String :=
  let wanted := Nat.pow 10 places
  let scaled := rounded (a * wanted) b
  let digits := toString (scaled % wanted)
  toString (scaled / wanted) ++
    (if places = 0 then "" else "." ++ String.ofList (List.replicate (places - digits.length) '0') ++ digits)

/-- How many digits stand before the point of a quotient, or how many zeros behind it, as a negative number:
the exponent of its first digit. -/
def leadingExponent (a b : Nat) : Int :=
  if b ≤ a then (((toString (a / b)).length - 1 : Nat) : Int)
  else
    let zeros := (List.range 400).find? fun k => b ≤ a * Nat.pow 10 (k + 1)
    Int.negSucc (zeros.getD 0)

/-- The significant digits of a quotient, one before the point and some behind it, and the exponent. -/
def significant (a b places : Nat) : String × Int :=
  if a = 0 then (String.ofList (List.replicate (places + 1) '0'), 0)
  else
    let x := leadingExponent a b
    let shift := (places : Int) - x
    let n := rounded (a * Nat.pow 10 shift.toNat) (b * Nat.pow 10 (-shift).toNat)
    let digits := toString n
    if digits.length > places + 1 then ((digits.take (places + 1)).toString, x + 1) else (digits, x)

/-- An exponent of ten as it is printed. -/
def exponentText (x : Int) : String :=
  let digits := toString x.natAbs
  "e" ++ (if x < 0 then "-" else "+") ++ (if digits.length < 2 then "0" else "") ++ digits

/-- Digits with a point behind the first of them. -/
def pointed (digits : String) : String :=
  let rest := (digits.drop 1).toString
  (digits.take 1).toString ++ if rest = "" then "" else "." ++ rest

/-- A quotient with an exponent. -/
def scientific (a b places : Nat) : String :=
  let (digits, x) := significant a b places
  pointed digits ++ exponentText x

/-- A text without the zeros at its end behind a point. -/
def withoutZeros (t : String) : String :=
  if t.contains '.' then
    String.ofList ((t.toList.reverse.dropWhile (· == '0')).dropWhile (· == '.')).reverse
  else t

/-- A quotient with some significant digits, in the shorter way. -/
def general (a b precision : Nat) (marked : Bool) : String :=
  let precision := max 1 precision
  let (digits, x) := significant a b (precision - 1)
  let tidy (t : String) : String := if marked then t else withoutZeros t
  if x < -4 ∨ (precision : Int) ≤ x then tidy (pointed digits) ++ exponentText x
  else if x < 0 then tidy ("0." ++ String.ofList (List.replicate ((-x).toNat - 1) '0') ++ digits)
  else
    let whole := x.toNat + 1
    let rest := (digits.drop whole).toString
    tidy ((digits.take whole).toString ++ if rest = "" then "" else "." ++ rest)

/-- A quotient as one of the conversions for fractions shows it. -/
def fraction (l : Layout) (c : Char) (q : Nat × Nat) : String :=
  let precision := l.precision.getD 6
  let digits := match c.toLower with
    | 'f' => fixed q.1 q.2 precision
    | 'e' => scientific q.1 q.2 precision
    | _ => general q.1 q.2 precision l.marked
  if c.isUpper then digits.toUpper else digits

/-- A decimal number as its sign, its digits without the point, and how many of them stand behind it. -/
def decimal? (t : String) : Option (Bool × Nat × Nat) :=
  let (negative, cs) := match t.toList with
    | '-' :: cs => (true, cs)
    | '+' :: cs => (false, cs)
    | cs => (false, cs)
  let whole := cs.takeWhile Char.isDigit
  let rest := cs.drop whole.length
  let fraction := match rest with
    | '.' :: ds => some ds
    | [] => some []
    | _ => none
  match fraction with
  | some ds =>
    if ds.all Char.isDigit && !(whole.isEmpty && ds.isEmpty) then
      some (negative, ((whole ++ ds).foldl (fun n c => 10 * n + (c.toNat - 48)) 0), ds.length)
    else none
  | none => none

/-- Prints a value as a conversion asks, if there is such a conversion. -/
def convert? (p : Printed) (l : Layout) (c : Char) : Option Printed :=
  let hex (n : Nat) := String.ofList (Nat.toDigits 16 n)
  let bits (n : Int) := (n % 0x10000000000000000).toNat
  if c = 'd' ∨ c = 'i' then
    let (n, p) := p.nextNumber
    let sign := if n < 0 then "-" else if l.plus then "+" else if l.blank then " " else ""
    some (p.say (l.number sign (toString n.natAbs)))
  else if c = 'u' then
    let (n, p) := p.nextNumber
    some (p.say (l.number "" (toString (bits n))))
  else if c = 'o' then
    let (n, p) := p.nextNumber
    some (p.say (l.number (if l.marked && n != 0 then "0" else "") (String.ofList (Nat.toDigits 8 (bits n)))))
  else if c = 'x' then
    let (n, p) := p.nextNumber
    some (p.say (l.number (if l.marked && n != 0 then "0x" else "") (hex (bits n))))
  else if c = 'X' then
    let (n, p) := p.nextNumber
    some (p.say (l.number (if l.marked && n != 0 then "0X" else "") (hex (bits n)).toUpper))
  else if c = 'c' then
    let (a, p) := p.next
    some (p.say (l.pad ((a.bind fun a => a.toList.head?).getD '\x00').toString))
  else if c = 's' ∨ c = 'b' then
    let (a, p) := p.next
    let cs := (a.getD "").toList
    let (cs, ended) := if c = 'b' then unescape (cs.length + 1) cs else (cs, false)
    let shown := match l.precision with
      | some k => cs.take k
      | none => cs
    some { p.say (l.pad (String.ofList shown)) with ended := ended }
  else if "fFeEgG".contains c then
    let (a, p) := p.next
    let (negative, n, scale) := (decimal? (a.getD "0")).getD (false, 0, 0)
    let p := match a.map decimal? with
      | some none => { p with problems := (a.getD "" ++ ": expected numeric value") :: p.problems }
      | _ => p
    let sign := if negative then "-" else if l.plus then "+" else if l.blank then " " else ""
    let digits := fraction l c (quotient (Float.ofScientific n true scale))
    some (p.say ({ l with precision := none }.number sign digits))
  else none

/-- Reads the signs of a layout. -/
def signs (l : Layout) : List Char → Layout × List Char
  | '-' :: cs => signs { l with left := true } cs
  | '+' :: cs => signs { l with plus := true } cs
  | ' ' :: cs => signs { l with blank := true } cs
  | '#' :: cs => signs { l with marked := true } cs
  | '0' :: cs => signs { l with zeros := true } cs
  | cs => (l, cs)

/-- Reads a width or a precision, which may be an argument. -/
def amount (p : Printed) (cs : List Char) : Int × Printed × List Char :=
  match cs with
  | '*' :: cs => let (n, p) := p.nextNumber; (n, p, cs)
  | cs =>
    let ds := cs.takeWhile Char.isDigit
    (ds.foldl (fun n c => 10 * n + (c.toNat - 48)) 0, p, cs.drop ds.length)

/-- Prints a format once. -/
def once (p : Printed) : Nat → List Char → Printed
  | 0, _ => p
  | _, [] => p
  | n + 1, '\\' :: cs =>
    let (shown, rest) := escape cs
    once { p with text := shown.reverse ++ p.text } n rest
  | n + 1, '%' :: '%' :: cs => once { p with text := '%' :: p.text } n cs
  | n + 1, '%' :: cs =>
    let (l, rest) := signs {} cs
    let (width, p, rest) := amount p rest
    let l := { l with width := width.natAbs, left := l.left || width < 0 }
    let (l, p, rest) :=
      match rest with
      | '.' :: rest =>
        let (precision, p, rest) := amount p rest
        ({ l with precision := if precision < 0 then none else some precision.toNat }, p, rest)
      | rest => (l, p, rest)
    match rest with
    | [] => { p with problems := "missing format character" :: p.problems, wrong := true }
    | c :: behind =>
      match convert? p l c with
      | some p => if p.ended then p else once p n behind
      | none =>
        let shown := String.ofList ('%' :: cs.take (cs.length - behind.length))
        { p with problems := (shown ++ ": invalid directive") :: p.problems, wrong := true }
  | n + 1, c :: cs => once { p with text := c :: p.text } n cs

/-- Prints a format until no argument is left. -/
def repeated (format : List Char) (p : Printed) : Nat → Printed
  | 0 => p
  | n + 1 =>
    let p := once { p with used := false } (format.length + 1) format
    if p.ended || p.wrong || p.args.isEmpty || !p.used then p else repeated format p n

/-- Fills a format with arguments. -/
def filled (format : String) (args : List String) : Printed :=
  repeated format.toList { args := args } (args.length + 1)

end ReleaseBundle.Shell.Format
