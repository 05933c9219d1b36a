import ReleaseBundle.Shell.Programs.Record.Value

/-!
# Formats for values

A format is filled with values, each as its conversion asks. Too few values and conversions that there are not
end it early; what was made up to there is kept.
-/

namespace ReleaseBundle.Shell.Programs.Record

/-- What keeps a format from being filled. -/
inductive Misfit where
  | tooFew
  /-- The conversion with this number, counted from one. -/
  | unknown (number : Nat)

def Misfit.message : Misfit → String
  | tooFew => "not enough arguments passed to "
  | unknown n => "improper conversion(number " ++ toString n ++ ") in "

/-- The character that a value stands for: the one with its number, or the first one of its text. -/
def charOf : Value → Char
  | .number x => Char.ofNat (truncated x % 256).toNat
  | v => ((v.toText "").toList.head?).getD '\x00'

/-- Shows a value as a conversion asks, if there is such a conversion. -/
def converted? (numbers : String) (l : Shell.Format.Layout) (c : Char) (v : Value) : Option String :=
  let n := truncated v.toNumber
  let signed := max (-9223372036854775808) (min n 9223372036854775807)
  let bits := if n < 0 then (signed % 18446744073709551616).toNat else min n.toNat 18446744073709551615
  let inBase (base : Nat) (mark : String) : String :=
    l.number (if l.marked && bits != 0 then mark else "") (String.ofList (Nat.toDigits base bits))
  match c with
  | 'd' | 'i' =>
    let sign := if signed < 0 then "-" else if l.plus then "+" else if l.blank then " " else ""
    some (l.number sign (toString signed.natAbs))
  | 'u' => some (l.number "" (toString bits))
  | 'o' => some (inBase 8 "0")
  | 'x' => some (inBase 16 "0x")
  | 'X' => some (inBase 16 "0x").toUpper
  | 'c' => some (l.pad (charOf v).toString)
  | 's' =>
    let t := v.toText numbers
    some (l.pad (match l.precision with
      | some k => (t.take k).toString
      | none => t))
  | c => if "fFeEgG".contains c then some (fractionText l c v.toNumber) else none

/-- An amount of a layout, which may be a value. -/
def amountAt (values : List Value) : List Char → Option (Int × List Value × List Char)
  | '*' :: cs =>
    match values with
    | v :: values => some (truncated v.toNumber, values, cs)
    | [] => none
  | cs =>
    let ds := cs.takeWhile Char.isDigit
    some ((ds.foldl digitValue 0 : Nat), values, cs.drop ds.length)

/-- Fills a format. The text so far has its last character first. -/
def fill (numbers : String) (sofar : List Char) (count : Nat) (values : List Value) :
    Nat → List Char → List Char × Option Misfit
  | 0, _ | _, [] => (sofar, none)
  | n + 1, '%' :: '%' :: cs => fill numbers ('%' :: sofar) count values n cs
  | n + 1, '%' :: cs =>
    let (l, rest) := Shell.Format.signs {} cs
    match amountAt values rest with
    | none => (sofar, some .tooFew)
    | some (width, values, rest) =>
      let l := { l with width := width.natAbs, left := l.left || width < 0 }
      let precision? : Option (Option Nat × List Value × List Char) := match rest with
        | '.' :: more =>
          match amountAt values more with
          | some (p, values, rest) => some (if p < 0 then none else some p.toNat, values, rest)
          | none => none
        | rest => some (none, values, rest)
      match precision? with
      | none => (sofar, some .tooFew)
      | some (precision, values, rest) =>
        let rest := rest.dropWhile fun c => c == 'l' || c == 'h'
        match rest, values with
        | [], _ => (sofar, some (.unknown (count + 1)))
        | c :: _, [] => (sofar, some (if "diouxXcsfFeEgG".contains c then .tooFew else .unknown (count + 1)))
        | c :: rest, v :: values =>
          match converted? numbers { l with precision := precision } c v with
          | some t => fill numbers (t.toList.reverse ++ sofar) (count + 1) values n rest
          | none => (sofar, some (.unknown (count + 1)))
  | n + 1, c :: cs => fill numbers (c :: sofar) count values n cs

/-- A format filled with values, or what kept it from being filled up to its end. -/
def filled (numbers format : String) (values : List Value) : String × Option Misfit :=
  let (t, misfit?) := fill numbers [] 0 values (format.length + 1) format.toList
  (String.ofList t.reverse, misfit?)

end ReleaseBundle.Shell.Programs.Record
