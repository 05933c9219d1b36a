import ReleaseBundle.Bytes.Letters
import ReleaseBundle.Bytes.Text
import ReleaseBundle.Pattern.Tree

/-!
# Reading patterns

A pattern is read from left to right; the first thing that is wrong ends the reading. `Cursor` is what is
left of the pattern together with the place where that begins. Groups and sets may be nested, so the two
readers that go into them, `readItems` and `readSet`, count down from the length of the pattern: every
step takes at least one character.
-/

namespace ReleaseBundle.Pattern

/-- Where the reading is. -/
structure Cursor where
  rest : List Char
  place : Place
  /-- Whether blanks and comments are passed over. -/
  spacing : Bool
  /-- The names of the groups so far. -/
  names : List (List Char × Span)
  /-- How many groups there are so far that remember what they take. -/
  groups : Nat

namespace Cursor

def start (pattern : List Char) : Cursor := ⟨pattern, .first, false, [], 0⟩

/-- Passes over one character. -/
def advance (c : Cursor) : Cursor :=
  match c.rest with
  | [] => c
  | x :: rest => { c with rest := rest, place := c.place.after x }

/-- Passes over blanks, and over comments up to the end of the line. -/
def skipFrom (inComment : Bool) (place : Place) : List Char → Place × List Char
  | [] => (place, [])
  | x :: rest =>
    if inComment then skipFrom (x != '\n') (place.after x) rest
    else if Text.isBlank x then skipFrom false (place.after x) rest
    else if x = '#' then skipFrom true (place.after x) rest
    else (place, x :: rest)

def skip (c : Cursor) : Cursor :=
  if c.spacing then
    let (place, rest) := skipFrom false c.place c.rest
    { c with rest := rest, place := place }
  else c

/-- Passes over one character and what may be passed over behind it. -/
def step (c : Cursor) : Cursor := c.advance.skip

def atEnd (c : Cursor) : Bool := c.rest.isEmpty

/-- The character that comes next. -/
def peek? (c : Cursor) : Option Char := c.rest.head?

/-- The character behind the next one. -/
def second? (c : Cursor) : Option Char := c.rest.tail.head?

/-- The part from the given place up to here. -/
def since (c : Cursor) (start : Place) : Span := ⟨start, c.place⟩

/-- The empty part that is here. -/
def here (c : Cursor) : Span := ⟨c.place, c.place⟩

/-- The next character as a part. -/
def one (c : Cursor) : Span := ⟨c.place, c.advance.place⟩

/-- Passes over the given characters if they come next. -/
def take? (c : Cursor) (text : String) : Option Cursor :=
  if text.toList.isPrefixOf c.rest then some (text.length.repeat advance c) else none

end Cursor

abbrev Read := Except Problem

def refuse {α : Type} (cause : Cause) (span : Span) : Read α := .error ⟨cause, span, none⟩

/-! ## Numbers -/

/-- Passes over characters of a kind, and collects them. -/
def collect (p : Char → Bool) (move : Cursor → Cursor) (sofar : List Char) :
    Nat → Cursor → List Char × Cursor
  | 0, c => (sofar.reverse, c)
  | limit + 1, c =>
    match c.peek? with
    | some x => if p x then collect p move (x :: sofar) limit (move c) else (sofar.reverse, c)
    | none => (sofar.reverse, c)

/-- Passes over characters of a kind. -/
def Cursor.gather (c : Cursor) (p : Char → Bool) (move : Cursor → Cursor) : List Char × Cursor :=
  collect p move [] c.rest.length c

/-- The largest count. -/
def maxCount : Nat := 4294967295

def isDigit (x : Char) : Bool := '0' ≤ x && x ≤ '9'

/-- Reads a count with blanks around it. What is wrong with it is not said before its end is reached. -/
def readCount (c : Cursor) : Read Nat × Cursor :=
  let (_, c) := c.gather Text.isBlank Cursor.advance
  let start := c.place
  let (digits, c) := c.gather isDigit Cursor.step
  let span := c.since start
  let (_, c) := c.gather Text.isBlank Cursor.step
  if digits = [] then (refuse .countEmpty span, c)
  else
    let n := digits.foldl (fun n x => 10 * n + (x.toNat - 48)) 0
    if maxCount < n then (refuse .decimalInvalid span, c) else (.ok n, c)

/-- The character with a number in hexadecimal digits. -/
def hexChar? (digits : List Char) : Option Char :=
  let n := digits.foldl (fun n x => 16 * n + (Bytes.hexValue? x).getD 0) 0
  if n.isValidChar then some (Char.ofNat n) else none

def isHex (x : Char) : Bool := (Bytes.hexValue? x).isSome

/-- Reads a fixed number of hexadecimal digits. -/
def readHexDigits (start : Place) (sofar : List Char) : Nat → Cursor → Read (Literal × Cursor)
  | 0, c =>
    match hexChar? sofar.reverse with
    | some x => .ok (⟨c.since start, x, sofar.length == 2⟩, c)
    | none => refuse .hexInvalid (c.since start)
  | count + 1, c =>
    match c.peek? with
    | none => refuse .escapeEnd c.here
    | some x =>
      if isHex x then readHexDigits start (x :: sofar) count c.step else refuse .hexDigit c.one

/-- Reads hexadecimal digits in braces. -/
def readHexBraces (c : Cursor) : Read (Literal × Cursor) :=
  let brace := c.place
  let start := c.advance.place
  let (digits, c) := c.step.gather isHex Cursor.step
  match c.peek? with
  | none => refuse .escapeEnd (c.since brace)
  | some '\x7d' =>
    let stop := c.place
    let c := c.step
    if digits = [] then refuse .hexEmpty (c.since brace)
    else
      match hexChar? digits with
      | some x => .ok (⟨c.since start, x, false⟩, c)
      | none => refuse .hexInvalid ⟨start, stop⟩
  | some _ => refuse .hexDigit c.one

/-! ## Escapes -/

/-- What one step of reading finds outside sets. -/
inductive Atom where
  | literal (l : Literal)
  | boundary (span : Span) (b : Boundary)
  | letter (span : Span) (negated : Bool) (c : LetterClass)
  | property (p : Property)
  | dot (span : Span)

def Atom.span : Atom → Span
  | literal l => l.span
  | boundary span _ => span
  | letter span _ _ => span
  | property p => p.span
  | dot span => span

/-- Whether an escaped character stands for itself. -/
def isPlainEscape (x : Char) : Bool :=
  x.val < 0x80 && !(isDigit x || ('a' ≤ x && x ≤ 'z') || ('A' ≤ x && x ≤ 'Z') || x == '<' || x == '>')

/-- The control characters that have an escape. -/
def controlOf? : Char → Option Char
  | 'a' => some '\x07'
  | 'f' => some '\x0c'
  | 't' => some '\t'
  | 'n' => some '\n'
  | 'r' => some '\r'
  | 'v' => some '\x0b'
  | _ => none

def boundaryOf? : Char → Option Boundary
  | 'A' => some .textStart
  | 'z' => some .textEnd
  | 'b' => some .word
  | 'B' => some .noWord
  | '<' => some .wordStart
  | '>' => some .wordEnd
  | _ => none

def letterClassOf? : Char → Option (Bool × LetterClass)
  | 'd' => some (false, .digit)
  | 'D' => some (true, .digit)
  | 's' => some (false, .space)
  | 'S' => some (true, .space)
  | 'w' => some (false, .word)
  | 'W' => some (true, .word)
  | _ => none

def namedBoundary? : String → Option Boundary
  | "start" => some .wordStart
  | "end" => some .wordEnd
  | "start-half" => some .wordStartHalf
  | "end-half" => some .wordEndHalf
  | _ => none

def isBoundaryLetter (x : Char) : Bool :=
  ('a' ≤ x && x ≤ 'z') || ('A' ≤ x && x ≤ 'Z') || x == '-'

/-- Reads the name of a boundary in braces, unless the braces hold something else. -/
def readBoundaryName (start : Place) (c : Cursor) : Read (Option (Boundary × Cursor)) :=
  let brace := c.place
  let inside := c.step
  match inside.peek? with
  | none => refuse .boundaryEnd (inside.since start)
  | some x =>
    if !isBoundaryLetter x then .ok none
    else
      let (name, c) := inside.gather isBoundaryLetter Cursor.step
      if c.peek? = some '\x7d' then
        match namedBoundary? (String.ofList name) with
        | some b => .ok (some (b, c.advance))
        | none => refuse .boundaryUnknown ⟨inside.place, c.place⟩
      else refuse .boundaryUnclosed (c.since brace)

/-- Reads the name of a property behind its letter. -/
def readProperty (start : Place) (c : Cursor) : Read (Atom × Cursor) :=
  let c := c.step
  match c.peek? with
  | none => refuse .escapeEnd c.here
  | some '\x7b' =>
    let (name, c) := c.step.gather (· != '\x7d') Cursor.step
    if c.atEnd then refuse .escapeEnd c.here
    else
      let c := c.advance
      let isValue := name.any fun x => x == ':' || x == '='
      .ok (.property ⟨c.since start, if isValue then none else some (String.ofList name)⟩, c)
  | some '\\' => refuse .propertyEscape c.one
  | some x =>
    let c := c.step
    .ok (.property ⟨c.since start, some x.toString⟩, c)

/-- Reads the number of a character behind its letter. -/
def readHex (start : Place) (digits : Nat) (c : Cursor) : Read (Atom × Cursor) := do
  let c := c.step
  if c.atEnd then refuse .escapeEnd c.here
  let (l, c) ←
    if c.peek? = some '\x7b' then readHexBraces c else readHexDigits c.place [] digits c
  return (.literal { l with span := ⟨start, l.span.stop⟩ }, c)

/-- Reads an escape; a backslash comes next. -/
def readEscape (c : Cursor) : Read (Atom × Cursor) :=
  let start := c.place
  let c := c.advance
  match c.peek? with
  | none => refuse .escapeEnd (c.since start)
  | some x =>
    let behind := c.advance
    let span := behind.since start
    if isDigit x then refuse .backreference span
    else if x = 'x' then readHex start 2 c
    else if x = 'u' then readHex start 4 c
    else if x = 'U' then readHex start 8 c
    else if x = 'p' ∨ x = 'P' then readProperty start c
    else if isPlainEscape x then .ok (.literal ⟨span, x, false⟩, behind)
    else
      match letterClassOf? x, controlOf? x, boundaryOf? x with
      | some (negated, k), _, _ => .ok (.letter span negated k, behind)
      | _, some control, _ => .ok (.literal ⟨span, control, false⟩, behind)
      | _, _, some b =>
        if x = 'b' ∧ behind.peek? = some '\x7b' then
          match readBoundaryName start behind with
          | .error e => .error e
          | .ok none => .ok (.boundary span b, behind)
          | .ok (some (b, c)) => .ok (.boundary (c.since start) b, c)
        else .ok (.boundary span b, behind)
      | _, _, _ => refuse .escapeUnknown span

/-- Reads one atom; something comes next. -/
def readAtom (c : Cursor) : Read (Atom × Cursor) :=
  match c.peek? with
  | none => refuse .escapeEnd c.here
  | some '\\' => readEscape c
  | some '.' => .ok (.dot c.one, c.advance)
  | some '^' => .ok (.boundary c.one .lineStart, c.advance)
  | some '$' => .ok (.boundary c.one .lineEnd, c.advance)
  | some x => .ok (.literal ⟨c.one, x, false⟩, c.advance)

def Atom.tree : Atom → Tree
  | literal l => .literal l
  | boundary _ b => .boundary b
  | letter span negated k => .letter span negated k
  | property p => .property p
  | dot span => .dot span

/-! ## Sets -/

def namedClass? : String → Option NamedClass
  | "alnum" => some .alnum
  | "alpha" => some .alpha
  | "ascii" => some .ascii
  | "blank" => some .blank
  | "cntrl" => some .cntrl
  | "digit" => some .digit
  | "graph" => some .graph
  | "lower" => some .lower
  | "print" => some .print
  | "punct" => some .punct
  | "space" => some .space
  | "upper" => some .upper
  | "word" => some .word
  | "xdigit" => some .xdigit
  | _ => none

/-- Reads a class with a name, such as `[:alpha:]`, if one comes next. -/
def readNamedClass? (c : Cursor) : Option (SetItem × Cursor) := do
  let start := c.place
  let c ← c.take? "[:"
  let (negated, c) :=
    match c.take? "^" with
    | some c => (true, c)
    | none => (false, c)
  let (name, c) := c.gather (· != ':') Cursor.advance
  let c ← c.take? ":]"
  let k ← namedClass? (String.ofList name)
  return (.named (c.since start) negated k, c)

/-- An atom as a member of a set. -/
def Atom.member : Atom → Read SetItem
  | literal l => .ok (.literal l)
  | letter span negated k => .ok (.letter span negated k)
  | property p => .ok (.property p)
  | boundary span _ => refuse .classEscape span
  | dot span => refuse .classEscape span

/-- An atom as an end of a range. -/
def Atom.limit : Atom → Read Literal
  | literal l => .ok l
  | a => refuse .classRangeBoundary a.span

/-- Reads one character or escape in a set. -/
def readMember (c : Cursor) : Read (Atom × Cursor) :=
  match c.peek? with
  | some '\\' => readEscape c
  | some x => .ok (.literal ⟨c.one, x, false⟩, c.advance)
  | none => refuse .escapeEnd c.here

/-- The character behind the next one. Where blanks may be passed over they are, and so is the mark that
begins a comment, but not the comment. Behind blanks at the end of the pattern nothing is left to see, and
the first of them is seen. -/
def Cursor.behind? (c : Cursor) : Option Char :=
  let rest := c.rest.tail
  if !c.spacing then rest.head?
  else
    let seen := match rest.dropWhile Text.isBlank with
      | '#' :: comment => comment.dropWhile Text.isBlank
      | other => other
    if seen.isEmpty then rest.head? else seen.head?

/-- Reads a member of a set or a range. The set begins at `opening`. -/
def readRange (opening : Span) (c : Cursor) : Read (SetItem × Cursor) := do
  let (low, c) ← readMember c
  let c := c.skip
  if c.atEnd then refuse .classUnclosed opening
  if c.peek? != some '-' || c.behind? == some ']' || c.behind? == some '-' then
    return (← low.member, c)
  else
    let c := c.step
    if c.atEnd then refuse .classUnclosed opening
    let (high, c) ← readMember c
    let span : Span := ⟨low.span.start, high.span.stop⟩
    let low ← low.limit
    let high ← high.limit
    if high.char < low.char then refuse .classRangeOrder span
    return (.range span low high, c)

/-- A set that is being read. -/
structure OpenSet where
  start : Place
  /-- The part that opens the set, with the members that stand there for a special reason. -/
  opening : Span
  negated : Bool
  /-- Where the members that come next begin. -/
  begin_ : Place
  /-- The members so far, the last first. -/
  items : List SetItem
  /-- What the members so far are combined with. -/
  earlier : Option (SetOperator × SetBody)

/-- Passes over minus signs at the start of a set, which stand for themselves. -/
def readMinus (start : Place) (items : List SetItem) : Nat → Cursor → Read (List SetItem × Cursor)
  | 0, c => .ok (items, c)
  | limit + 1, c =>
    if c.peek? = some '-' then
      let item : SetItem := .literal ⟨c.one, '-', false⟩
      let c := c.step
      if c.atEnd then refuse .classUnclosed ⟨start, start⟩
      else readMinus start (item :: items) limit c
    else .ok (items, c)

/-- Opens a set; its bracket comes next. -/
def openSet (c : Cursor) : Read (OpenSet × Cursor) := do
  let start := c.place
  let c := c.step
  if c.atEnd then refuse .classUnclosed (c.since start)
  let negated := c.peek? == some '^'
  let c := if negated then c.step else c
  if c.atEnd then refuse .classUnclosed (c.since start)
  let begin_ := c.place
  let (items, c) ← readMinus start [] c.rest.length c
  let (items, c) :=
    if items.isEmpty && c.peek? == some ']' then
      ([SetItem.literal ⟨c.one, ']', false⟩], c.step)
    else (items, c)
  if c.atEnd then refuse .classUnclosed (c.since start)
  return (⟨start, c.since start, negated, begin_, items, none⟩, c)

namespace OpenSet

/-- The members that were read last. -/
def union (s : OpenSet) : SetBody :=
  match s.items.reverse, s.items with
  | first :: _, last :: _ => .union ⟨first.span.start, last.span.stop⟩ s.items.reverse
  | _, _ => .union ⟨s.begin_, s.begin_⟩ []

/-- What was read so far. -/
def body (s : OpenSet) : SetBody :=
  match s.earlier with
  | none => s.union
  | some (o, left) => .combined ⟨left.span.start, s.union.span.stop⟩ o left s.union

def add (s : OpenSet) (item : SetItem) : OpenSet := { s with items := item :: s.items }

/-- Continues behind an operator. -/
def combine (s : OpenSet) (o : SetOperator) (next : Place) : OpenSet :=
  { s with earlier := some (o, s.body), items := [], begin_ := next }

end OpenSet

/-- The operator that comes next in a set. -/
def setOperator? (c : Cursor) : Option SetOperator :=
  match c.peek?, c.second? with
  | some '&', some '&' => some .both
  | some '-', some '-' => some .without
  | some '~', some '~' => some .either
  | _, _ => none

/-- Reads on in a set. -/
def readSet (s : OpenSet) : Nat → Cursor → Read (Span × Bool × SetBody × Cursor)
  | 0, _ => refuse .classUnclosed s.opening
  | limit + 1, c =>
    let c := c.skip
    match c.peek? with
    | none => refuse .classUnclosed s.opening
    | some '[' =>
      match readNamedClass? c with
      | some (item, c) => readSet (s.add item) limit c
      | none =>
        match openSet c with
        | .error e => .error e
        | .ok (inner, c) =>
          match readSet inner limit c with
          | .error e => .error e
          | .ok (span, negated, body, c) => readSet (s.add (.nested span negated body)) limit c
    | some ']' =>
      let body := s.body
      let c := c.advance
      .ok (c.since s.start, s.negated, body, c)
    | some _ =>
      match setOperator? c with
      | some o => readSet (s.combine o c.advance.advance.place) limit c.advance.advance
      | none =>
        match readRange s.opening c with
        | .error e => .error e
        | .ok (item, c) => readSet (s.add item) limit c

/-! ## Groups -/

def flag? : Char → Option Flag
  | 'i' => some .ignoreCase
  | 'm' => some .manyLines
  | 's' => some .dotTakesLineEnd
  | 'U' => some .lazy
  | 'u' => some .unicode
  | 'R' => some .carriageReturns
  | 'x' => some .spacing
  | _ => none

/-- Flags that are being read: the switches with their places, the last first, and the place of the
minus sign. -/
structure OpenFlags where
  switches : List (Switch × Span)
  minus : Option Span
  /-- Whether the minus sign came last. -/
  dangling : Bool

/-- Reads flags up to the character that ends them. -/
def readFlags (f : OpenFlags) : Nat → Cursor → Read (List Switch × Cursor)
  | 0, c => refuse .flagEnd c.here
  | limit + 1, c =>
    match c.peek? with
    | none => refuse .flagEnd c.here
    | some x =>
      if x = ':' ∨ x = ')' then
        match f.minus with
        | some span => if f.dangling then refuse .flagDangling span else .ok (done, c)
        | none => .ok (done, c)
      else if x = '-' then
        match f.minus with
        | some span => .error ⟨.flagNegatedTwice, c.one, some span⟩
        | none => readFlags { f with minus := some c.one, dangling := true } limit c.advance
      else
        match flag? x with
        | none => refuse .flagUnknown c.one
        | some flag =>
          match f.switches.find? fun s => s.1.flag == flag with
          | some (_, span) => .error ⟨.flagTwice, c.one, some span⟩
          | none =>
            let switch : Switch := ⟨flag, f.minus.isNone⟩
            readFlags ⟨(switch, c.one) :: f.switches, f.minus, false⟩ limit c.advance
where
  /-- The switches in the order in which they were written. -/
  done : List Switch := f.switches.reverse.map Prod.fst

/-- Whether a character can begin or continue the name of a group. -/
def isNameChar (isFirst : Bool) (x : Char) : Bool :=
  x == '_' || Text.isLetter x ||
    (!isFirst && (Text.isNumber x || x == '.' || x == '[' || x == ']'))

/-- Reads the name of a group up to its closing bracket. -/
def readName (start : Place) (sofar : List Char) : Nat → Cursor → Read Cursor
  | 0, c => refuse .nameEnd c.here
  | limit + 1, c =>
    match c.peek? with
    | none => refuse .nameEnd c.here
    | some '>' =>
      let span := c.since start
      let name := sofar.reverse
      if name = [] then refuse .nameEmpty ⟨start, start⟩
      else
        match c.names.find? fun n => n.1 == name with
        | some (_, earlier) => .error ⟨.nameTwice, span, some earlier⟩
        | none => .ok { c.advance with names := (name, span) :: c.names }
    | some x =>
      if isNameChar (sofar.isEmpty) x then readName start (x :: sofar) limit c.advance
      else refuse .nameInvalid c.one

/-- What a parenthesis begins. -/
inductive Opening where
  | switches (ss : List Switch)
  | group (number : Option Nat) (ss : List Switch)

/-- Counts one more group. -/
def Cursor.withGroup (c : Cursor) : Cursor := { c with groups := c.groups + 1 }

/-- Whether a flag is switched, and how. -/
def switched? (flag : Flag) (ss : List Switch) : Option Bool :=
  (ss.find? fun s => s.flag == flag).map Switch.on

/-- Reads what a parenthesis begins; it comes next. -/
def readOpening (c : Cursor) : Read (Opening × Cursor) :=
  let start := c.place
  let span := c.one
  let c := c.step
  let around? := ["?=", "?!", "?<=", "?<!"].findSome? c.take?
  let name? := ["?P<", "?<"].findSome? c.take?
  match around?, name?, c.take? "?" with
  | some c, _, _ => refuse .lookAround (c.since start)
  | none, some c, _ =>
    (readName c.place [] (c.rest.length + 1) c).map fun c =>
      (.group (some c.withGroup.groups) [], c.withGroup)
  | none, none, some inner =>
    if inner.atEnd then refuse .groupUnclosed span
    else
      match readFlags ⟨[], none, false⟩ (inner.rest.length + 1) inner with
      | .error e => .error e
      | .ok (ss, last) =>
        if last.peek? = some ')' then
          if ss = [] then refuse .nothingToRepeat c.here else .ok (.switches ss, last.advance)
        else .ok (.group none ss, last.advance)
  | none, none, none => .ok (.group (some c.withGroup.groups) [], c.withGroup)

/-! ## Repetitions -/

/-- The last item, if it can be repeated, and the items before it. -/
def repeatable (c : Cursor) : List (Tree × Place) → Read ((Tree × Place) × List (Tree × Place))
  | [] => refuse .nothingToRepeat c.here
  | (.switches _, _) :: _ => refuse .nothingToRepeat c.here
  | item :: items => .ok (item, items)

/-- Reads the mark of a repetition that takes as little as it can, if it comes next. -/
def Cursor.lazyMark (c : Cursor) : Bool × Cursor :=
  if c.peek? = some '?' then (true, c.advance) else (false, c)

/-- How often something is repeated. -/
structure Counts where
  least : Nat
  most : Option Nat
  lazy : Bool

/-- Reads counts in braces. -/
def readCounts (c : Cursor) : Read (Counts × Cursor) := do
  let start := c.place
  let c := c.step
  if c.atEnd then refuse .countUnclosed (c.since start)
  let (least, c) := readCount c
  if c.atEnd then refuse .countUnclosed (c.since start)
  let (counts, c) ←
    if c.peek? = some ',' then do
      let c := c.step
      if c.atEnd then refuse .countUnclosed (c.since start)
      if c.peek? = some '\x7d' then pure ((← least, none), c)
      else do
        let least ← least
        let (most, c) := readCount c
        pure ((least, some (← most)), c)
    else do
      let least ← least
      pure ((least, some least), c)
  if c.peek? != some '\x7d' then refuse .countUnclosed (c.since start)
  let (lazy, c) := c.step.lazyMark
  if counts.2.any (· < counts.1) then refuse .countOrder (c.since start)
  return (⟨counts.1, counts.2, lazy⟩, c)

/-! ## Patterns -/

/-- Items as one tree. -/
def joined (span : Span) : List Tree → Tree
  | [] => .nothing
  | [t] => t
  | ts => .sequence span ts

/-- What is being read between parentheses. -/
structure OpenGroup where
  start : Place
  /-- The alternatives before this one, the last first. -/
  earlier : List Tree
  /-- Where this alternative begins. -/
  begin_ : Place
  /-- The items of this alternative with their places, the last first. -/
  items : List (Tree × Place)

namespace OpenGroup

def new (c : Cursor) : OpenGroup := ⟨c.place, [], c.place, []⟩

def add (g : OpenGroup) (t : Tree) (start : Place) : OpenGroup :=
  { g with items := (t, start) :: g.items }

/-- The alternative that is being read, up to the given place. -/
def alternative (g : OpenGroup) (stop : Place) : Tree :=
  joined ⟨g.begin_, stop⟩ (g.items.reverse.map Prod.fst)

/-- Everything up to the given place. -/
def tree (g : OpenGroup) (stop : Place) : Tree :=
  match g.earlier with
  | [] => g.alternative stop
  | _ => .choice ⟨g.start, stop⟩ ((g.alternative stop :: g.earlier).reverse)

/-- Goes on with another alternative; its bar comes next. -/
def next (g : OpenGroup) (c : Cursor) : OpenGroup :=
  ⟨g.start, g.alternative c.place :: g.earlier, c.advance.place, []⟩

/-- Repeats the last item; the cursor stands before the operator and the other one behind it. -/
def repeat_ (g : OpenGroup) (n : Counts) (c behind : Cursor) : Read OpenGroup := do
  let ((t, start), items) ← repeatable c g.items
  return { g with
    items := (.repetition ⟨start, behind.place⟩ n.least n.most n.lazy t, start) :: items }

end OpenGroup

/-- The counts that a single character stands for. -/
def countsOf? : Char → Option (Nat × Option Nat)
  | '?' => some (0, some 1)
  | '*' => some (0, none)
  | '+' => some (1, none)
  | _ => none

/-- Reads up to the parenthesis that closes a group, or up to the end. -/
def readItems (g : OpenGroup) : Nat → Cursor → Read (Tree × Cursor)
  | 0, c => .ok (g.tree c.place, c)
  | limit + 1, c =>
    let c := c.skip
    match c.peek? with
    | none => .ok (g.tree c.place, c)
    | some ')' => .ok (g.tree c.place, c)
    | some '(' =>
      match readOpening c with
      | .error e => .error e
      | .ok (.switches ss, behind) =>
        let spacing := (switched? .spacing ss).getD c.spacing
        readItems (g.add (.switches ss) c.place) limit { behind with spacing := spacing }
      | .ok (.group number ss, inner) =>
        let spacing := (switched? .spacing ss).getD c.spacing
        match readItems (.new inner) limit { inner with spacing := spacing } with
        | .error e => .error e
        | .ok (t, last) =>
          if last.atEnd then refuse .groupUnclosed c.one
          else
            let behind := { last.advance with spacing := c.spacing }
            readItems (g.add (.group (behind.since c.place) number ss t) c.place) limit behind
    | some '|' => readItems (g.next c) limit c.advance
    | some '[' =>
      match openSet c with
      | .error e => .error e
      | .ok (s, inner) =>
        match readSet s (inner.rest.length + 1) inner with
        | .error e => .error e
        | .ok (span, negated, body, behind) =>
          readItems (g.add (.set span negated body) c.place) limit behind
    | some '\x7b' =>
      match repeatable c g.items with
      | .error e => .error e
      | .ok _ =>
        match readCounts c with
        | .error e => .error e
        | .ok (n, behind) =>
          match g.repeat_ n c behind with
          | .error e => .error e
          | .ok g => readItems g limit behind
    | some x =>
      match countsOf? x with
      | some (least, most) =>
        let (lazy, behind) := c.advance.lazyMark
        match g.repeat_ ⟨least, most, lazy⟩ c behind with
        | .error e => .error e
        | .ok g => readItems g limit behind
      | none =>
        match readAtom c with
        | .error e => .error e
        | .ok (a, behind) => readItems (g.add a.tree c.place) limit behind

/-- Reads a pattern. -/
def Tree.read (pattern : List Char) : Read Tree := do
  let c := Cursor.start pattern
  let (t, c) ← readItems (.new c) (pattern.length + 1) c
  if !c.atEnd then refuse .groupUnopened c.one
  match t.tooDeep? nestingLimit with
  | some span => refuse .nesting span
  | none => return t

end ReleaseBundle.Pattern
