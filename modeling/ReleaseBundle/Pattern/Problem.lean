/-!
# What can be wrong with a pattern

A pattern is refused with one problem, at the first place where it cannot be understood. `Problem.report`
shows the pattern with marks below the characters in question. Patterns of several lines are shown
between rulers with their lines numbered.
-/

namespace ReleaseBundle.Pattern

/-- A place in a pattern. Lines and columns are counted from one. -/
structure Place where
  offset : Nat
  line : Nat
  column : Nat
  deriving DecidableEq

namespace Place

def first : Place := ⟨0, 1, 1⟩

/-- The place behind a character. -/
def after (p : Place) (c : Char) : Place :=
  if c = '\n' then ⟨p.offset + 1, p.line + 1, 1⟩ else ⟨p.offset + 1, p.line, p.column + 1⟩

end Place

/-- A part of a pattern, from a place up to another one. -/
structure Span where
  start : Place
  stop : Place
  deriving DecidableEq

/-- What is wrong. -/
inductive Cause where
  | classEscape
  | classRangeOrder
  | classRangeBoundary
  | classUnclosed
  | decimalInvalid
  | hexEmpty
  | hexInvalid
  | hexDigit
  | escapeEnd
  | escapeUnknown
  | flagDangling
  | flagTwice
  | flagNegatedTwice
  | flagEnd
  | flagUnknown
  | nameTwice
  | nameEmpty
  | nameInvalid
  | nameEnd
  | groupUnclosed
  | groupUnopened
  | nesting
  | countOrder
  | countEmpty
  | countUnclosed
  | nothingToRepeat
  | boundaryUnclosed
  | boundaryUnknown
  | boundaryEnd
  | propertyEscape
  | backreference
  | lookAround
  | notInByteMode
  | matchesBytes
  | noProperties
  | noPropertyValues
  | noClasses
  | noLetterCase
  deriving DecidableEq

/-- How many levels of nesting a pattern may have. -/
def nestingLimit : Nat := 250

def Cause.text : Cause → String
  | classEscape => "invalid escape sequence found in character class"
  | classRangeOrder => "invalid character class range, the start must be <= the end"
  | classRangeBoundary => "invalid range boundary, must be a literal"
  | classUnclosed => "unclosed character class"
  | decimalInvalid => "decimal literal invalid"
  | hexEmpty => "hexadecimal literal empty"
  | hexInvalid => "hexadecimal literal is not a Unicode scalar value"
  | hexDigit => "invalid hexadecimal digit"
  | escapeEnd => "incomplete escape sequence, reached end of pattern prematurely"
  | escapeUnknown => "unrecognized escape sequence"
  | flagDangling => "dangling flag negation operator"
  | flagTwice => "duplicate flag"
  | flagNegatedTwice => "flag negation operator repeated"
  | flagEnd => "expected flag but got end of regex"
  | flagUnknown => "unrecognized flag"
  | nameTwice => "duplicate capture group name"
  | nameEmpty => "empty capture group name"
  | nameInvalid => "invalid capture group character"
  | nameEnd => "unclosed capture group name"
  | groupUnclosed => "unclosed group"
  | groupUnopened => "unopened group"
  | nesting =>
    "exceed the maximum number of nested parentheses/brackets (" ++ toString nestingLimit ++ ")"
  | countOrder => "invalid repetition count range, the start must be <= the end"
  | countEmpty => "repetition quantifier expects a valid decimal"
  | countUnclosed => "unclosed counted repetition"
  | nothingToRepeat => "repetition operator missing expression"
  | boundaryUnclosed =>
    "special word boundary assertion is either unclosed or contains an invalid character"
  | boundaryUnknown =>
    "unrecognized special word boundary assertion, valid choices are: start, end, start-half or " ++
      "end-half"
  | boundaryEnd =>
    "found either the beginning of a special word boundary or a bounded repetition on a \\b with " ++
      "an opening brace, but no closing brace"
  | propertyEscape => "invalid Unicode character class"
  | backreference => "backreferences are not supported"
  | lookAround => "look-around, including look-ahead and look-behind, is not supported"
  | notInByteMode => "Unicode not allowed here"
  | matchesBytes => "pattern can match invalid UTF-8"
  | noProperties => "Unicode property not found"
  | noPropertyValues => "Unicode property value not found"
  | noClasses =>
    "Unicode-aware Perl class not found (make sure the unicode-perl feature is enabled)"
  | noLetterCase =>
    "Unicode-aware case insensitivity matching is not available (make sure the unicode-case " ++
      "feature is enabled)"

/-- What is wrong with a pattern, and where. -/
structure Problem where
  cause : Cause
  span : Span
  /-- What came before that does not go together with it. -/
  earlier : Option Span := none
  deriving DecidableEq

namespace Problem

/-- The lines of a text; a line end at its end begins no further line. -/
def lines (sofar : List Char) : List Char → List (List Char)
  | [] => if sofar = [] then [] else [sofar.reverse]
  | c :: cs =>
    if c = '\n' then
      let line := match sofar with
        | '\r' :: rest => rest
        | _ => sofar
      line.reverse :: lines [] cs
    else lines (c :: sofar) cs

/-- The spans of a problem, in order. -/
def spans (p : Problem) : List Span :=
  match p.earlier with
  | none => [p.span]
  | some other =>
    if other.start.offset < p.span.start.offset ∨
        (other.start = p.span.start ∧ other.stop.offset < p.span.stop.offset) then
      [other, p.span]
    else [p.span, other]

/-- Whether a span begins and ends on the given line. -/
def isOn (line : Nat) (s : Span) : Bool := s.start.line == line && s.stop.line == line

/-- The marks below a line: at least one for each span, from the column `at_` on. -/
def marks (at_ : Nat) : List Span → List Char
  | [] => []
  | s :: ss =>
    let gap := s.start.column - 1 - at_
    let width := max 1 (s.stop.column - s.start.column)
    List.replicate gap ' ' ++ List.replicate width '^' ++ marks (at_ + gap + width) ss

/-- A number at the right end of a field. -/
def padded (width n : Nat) : String :=
  String.ofList (List.replicate (width - (toString n).length) ' ') ++ toString n

/-- The lines of a pattern with marks below them. The field for line numbers has the given width, and
there is none if that is zero. -/
def annotated (p : Problem) (width : Nat) (line : Nat) : List (List Char) → String
  | [] => ""
  | text :: rest =>
    let lead := if width = 0 then "    " else padded width line ++ ": "
    let here := p.spans.filter (isOn line)
    let below :=
      if here = [] then ""
      else String.ofList (List.replicate lead.length ' ' ++ marks 0 here) ++ "\n"
    lead ++ String.ofList text ++ "\n" ++ below ++ annotated p width (line + 1) rest

/-- The note on a span that goes over several lines. -/
def note (s : Span) : String :=
  "on line " ++ toString s.start.line ++ " (column " ++ toString s.start.column ++
    ") through line " ++ toString s.stop.line ++ " (column " ++ toString (s.stop.column - 1) ++ ")"

/-- The text that shows a problem in its pattern. -/
def report (pattern : List Char) (p : Problem) : String :=
  let ls := lines [] pattern
  let count := ls.length + if pattern.getLast? = some '\n' then 1 else 0
  let width := if count ≤ 1 then 0 else (toString count).length
  let shown := p.annotated width 1 ls
  let message := "error: " ++ p.cause.text
  if pattern.contains '\n' then
    let ruler := String.ofList (List.replicate 79 '~') ++ "\n"
    let long := p.spans.filter fun s => s.start.line != s.stop.line
    let notes := if long = [] then "" else "\n".intercalate (long.map note) ++ "\n"
    "regex parse error:\n" ++ ruler ++ shown ++ ruler ++ notes ++ message
  else "regex parse error:\n" ++ shown ++ message

end Problem

end ReleaseBundle.Pattern
