import ReleaseBundle.Pattern.Footprint
import ReleaseBundle.Pattern.Reader

/-!
# What patterns mean

`Tree.meaning` turns a tree into an expression over characters. Flags are followed from left to right: a
switch holds up to the end of the group that it stands in. No tables of Unicode are at hand, so whatever
needs them is refused, and word boundaries, which need them too, are found by `Expression.needsTables`
after everything else is in order. With the flag `unicode` off, a pattern speaks of bytes, and is refused if
it could take a part of a character.
-/

namespace ReleaseBundle.Pattern

/-- Which flags are on. -/
structure Flags where
  ignoreCase : Bool := false
  manyLines : Bool := false
  dotTakesLineEnd : Bool := false
  lazy : Bool := false
  unicode : Bool := true
  carriageReturns : Bool := false

namespace Flags

def set (f : Flags) (s : Switch) : Flags :=
  match s.flag with
  | .ignoreCase => { f with ignoreCase := s.on }
  | .manyLines => { f with manyLines := s.on }
  | .dotTakesLineEnd => { f with dotTakesLineEnd := s.on }
  | .lazy => { f with lazy := s.on }
  | .unicode => { f with unicode := s.on }
  | .carriageReturns => { f with carriageReturns := s.on }
  | .spacing => f

def setAll (f : Flags) (ss : List Switch) : Flags := ss.foldl set f

end Flags

/-! ## Sets -/

def LetterClass.intervals : LetterClass → List Interval
  | digit => [⟨0x30, 0x39⟩]
  | space => [⟨9, 13⟩, ⟨0x20, 0x20⟩]
  | word => [⟨0x30, 0x39⟩, ⟨0x41, 0x5A⟩, ⟨0x5F, 0x5F⟩, ⟨0x61, 0x7A⟩]

def NamedClass.intervals : NamedClass → List Interval
  | alnum => [⟨0x30, 0x39⟩, ⟨0x41, 0x5A⟩, ⟨0x61, 0x7A⟩]
  | alpha => [⟨0x41, 0x5A⟩, ⟨0x61, 0x7A⟩]
  | ascii => [⟨0, 0x7F⟩]
  | blank => [⟨9, 9⟩, ⟨0x20, 0x20⟩]
  | cntrl => [⟨0, 0x1F⟩, ⟨0x7F, 0x7F⟩]
  | digit => [⟨0x30, 0x39⟩]
  | graph => [⟨0x21, 0x7E⟩]
  | lower => [⟨0x61, 0x7A⟩]
  | print => [⟨0x20, 0x7E⟩]
  | punct => [⟨0x21, 0x2F⟩, ⟨0x3A, 0x40⟩, ⟨0x5B, 0x60⟩, ⟨0x7B, 0x7E⟩]
  | space => [⟨9, 13⟩, ⟨0x20, 0x20⟩]
  | upper => [⟨0x41, 0x5A⟩]
  | word => [⟨0x30, 0x39⟩, ⟨0x41, 0x5A⟩, ⟨0x5F, 0x5F⟩, ⟨0x61, 0x7A⟩]
  | xdigit => [⟨0x30, 0x39⟩, ⟨0x41, 0x46⟩, ⟨0x61, 0x66⟩]

/-- A set with both cases of its letters, if letter case is ignored. Beyond bytes that takes tables, unless
the set has no letters or holds both cases anyway. -/
def ignoringCase (f : Flags) (span : Span) (m : Members) : Read Members :=
  if !f.ignoreCase then .ok m
  else if !f.unicode then .ok m.withBothCases
  else if m.bothCases || m.intervals.isEmpty then .ok { m with bothCases := true }
  else refuse .noLetterCase span

/-- A set that stands in brackets or has a name: letter case is ignored before it is negated. -/
def finished (f : Flags) (span : Span) (negated : Bool) (m : Members) : Read Members := do
  let m ← ignoringCase f span m
  let m := if negated then m.complement else m
  if f.unicode || m.isAscii then return m else refuse .matchesBytes span

/-- A class that has a letter; those of Unicode need tables. -/
def letterMembers (f : Flags) (span : Span) (negated : Bool) (c : LetterClass) : Read Members :=
  if f.unicode then refuse .noClasses span
  else if negated then refuse .matchesBytes span
  else .ok (.ofIntervals c.intervals)

/-- The names of properties that are looked up among the values of another property. -/
def valueNames : List String := ["cf", "sc", "lc"]

/-- The name of a property as it is looked up: without `is` at its start, without blanks, lines and whatever
is not ASCII, and in lower case. -/
def plainName (name : String) : String :=
  let isPlain (x : Char) : Bool := x.val < 0x80 && !(x == ' ' || x == '_' || x == '-')
  let lowered := (name.toList.filter isPlain).map Text.lowerChar
  match name.toList.map Text.lowerChar with
  | 'i' :: 's' :: _ => if lowered = ['i', 's', 'c'] then "isc" else String.ofList (lowered.drop 2)
  | _ => String.ofList lowered

/-- Properties always need tables. -/
def Property.refusal (f : Flags) (p : Property) : Problem :=
  let isValue := p.name.any fun name => valueNames.contains (plainName name)
  ⟨if !f.unicode then .notInByteMode else if isValue then .noPropertyValues else .noProperties,
    p.span, none⟩

/-- The number of a literal in a set. -/
def Literal.number (f : Flags) (l : Literal) : Read Nat :=
  if f.unicode || l.char.val < 0x80 then .ok l.char.toNat
  else if l.isByte then refuse .matchesBytes l.span
  else refuse .notInByteMode l.span

/-- Two sets combined by an operator. -/
def SetOperator.combine (o : SetOperator) (m n : Members) : Members :=
  match o with
  | both => m.intersection n
  | without => m.difference n
  | either => m.symmetricDifference n

mutual

/-- A set with one more member. -/
def SetItem.addTo (f : Flags) (m : Members) : SetItem → Read Members
  | .literal l => do return m.add (.single (← l.number f))
  | .range _ low high => do
    let low ← low.number f
    let high ← high.number f
    return m.add ⟨low, high⟩
  | .named span negated c => do
    return m.union (← finished f span negated (.ofIntervals c.intervals))
  | .letter span negated c => do return m.union (← letterMembers f span negated c)
  | .property p => .error (p.refusal f)
  | .nested span negated body => do
    return m.union (← finished f span negated (← body.members f))

/-- A set with more members. -/
def SetItem.addAllTo (f : Flags) (m : Members) : List SetItem → Read Members
  | [] => .ok m.settled
  | i :: is => do SetItem.addAllTo f (← i.addTo f m) is

/-- The members of what stands in brackets. -/
def SetBody.members (f : Flags) : SetBody → Read Members
  | .union _ items => SetItem.addAllTo f .empty items
  | .combined _ o left right => do
    let m ← left.members f
    let n ← right.members f
    let n ← ignoringCase f right.span n
    let m ← ignoringCase f left.span m
    return Members.empty.union (o.combine m n)

end

/-! ## Patterns -/

/-- A literal outside sets. -/
def Literal.meaning (f : Flags) (l : Literal) : Read Expression :=
  let n := l.char.toNat
  if !f.unicode && l.isByte && 0x80 ≤ n then refuse .matchesBytes l.span
  else if !f.ignoreCase then .ok (.text [l.char])
  else if f.unicode then refuse .noLetterCase l.span
  else if 0x80 ≤ n then refuse .notInByteMode l.span
  else .ok (.ofIntervals (Members.ofIntervals [.single n]).withBothCases.intervals)

/-- What a dot takes. -/
def dotMeaning (f : Flags) (span : Span) : Read Expression :=
  if !f.unicode then refuse .matchesBytes span
  else if f.dotTakesLineEnd then .ok (.member [⟨0, lastNumber⟩])
  else if f.carriageReturns then .ok (.member [⟨0, 9⟩, ⟨0xB, 0xC⟩, ⟨0xE, lastNumber⟩])
  else .ok (.member [⟨0, 9⟩, ⟨0xB, lastNumber⟩])

def Boundary.look (f : Flags) : Boundary → Look
  | lineStart =>
    if !f.manyLines then .textStart else if f.carriageReturns then .anyLineStart else .lineStart
  | lineEnd => if !f.manyLines then .textEnd else if f.carriageReturns then .anyLineEnd else .lineEnd
  | textStart => .textStart
  | textEnd => .textEnd
  | b => .words (!f.unicode) b

mutual

/-- The meaning of a pattern, and the flags behind it. -/
def Tree.meaning (f : Flags) : Tree → Read (Expression × Flags)
  | .nothing => .ok (.empty, f)
  | .switches ss => .ok (.empty, f.setAll ss)
  | .literal l => (l.meaning f).map (·, f)
  | .dot span => (dotMeaning f span).map (·, f)
  | .boundary b => .ok (.look (b.look f), f)
  | .letter span negated c =>
    (letterMembers f span negated c).map fun m => (.ofIntervals m.intervals, f)
  | .property p => .error (p.refusal f)
  | .set span negated body => do
    let m ← finished f span negated (← body.members f)
    return (.ofIntervals m.intervals, f)
  | .repetition _ least most lazy t => do
    let (a, f) ← t.meaning f
    return (.repeated least most (lazy != f.lazy) a, f)
  | .group _ number ss t => do
    let (a, _) ← t.meaning (f.setAll ss)
    return (match number with
      | some n => .group n a
      | none => a, f)
  | .sequence _ ts => do
    let (es, f) ← Tree.meanings f [] ts
    return (.sequenceOf es, f)
  | .choice _ ts => do
    let (es, f) ← Tree.meanings f [] ts
    return (.choiceOf es, f)

/-- The meanings of patterns, the flags handed on from each to the next one. -/
def Tree.meanings (f : Flags) (sofar : List Expression) : List Tree → Read (List Expression × Flags)
  | [] => .ok (sofar.reverse, f)
  | t :: ts => do
    let (e, f) ← t.meaning f
    Tree.meanings f (e :: sofar) ts

end

/-- How many bytes the machine for a pattern may take. -/
def maxFootprint : Nat := 10485760

/-- What is said about a pattern that takes more. -/
def tooLarge : String :=
  "Compiled regex exceeds size limit of " ++ toString maxFootprint ++ " bytes."

/-- Reads a pattern and gives it a meaning, or tells why that cannot be done. -/
def Expression.ofText? (text : List Char) : Except String Expression :=
  match Tree.read text >>= Tree.meaning {} with
  | .error e => .error (e.report text)
  | .ok (e, _) =>
    if maxFootprint < e.footprint .forwards then .error tooLarge
    else if e.needsTables then .error "error building NFA"
    else if maxFootprint < e.footprint .backwards then .error tooLarge
    else .ok e

end ReleaseBundle.Pattern
