import ReleaseBundle.Pattern.Problem

/-!
# Patterns as trees

A pattern describes texts. Its tree keeps what was written together with the part of the pattern where it
stands, because some of it turns out to be wrong only when it is given a meaning. Greed and the numbers of
groups decide which part of a text is found, and here only counts whether any is; they are kept because parts
of a pattern that differ in them are not the same.
-/

namespace ReleaseBundle.Pattern

/-- What can be switched on and off inside a pattern. -/
inductive Flag where
  | ignoreCase
  | manyLines
  | dotTakesLineEnd
  | lazy
  | unicode
  | carriageReturns
  | spacing
  deriving DecidableEq

/-- A switch of a flag. -/
structure Switch where
  flag : Flag
  on : Bool
  deriving DecidableEq

/-- The classes that have a letter of their own. -/
inductive LetterClass where
  | digit
  | space
  | word
  deriving DecidableEq

/-- The classes of ASCII that have names. -/
inductive NamedClass where
  | alnum
  | alpha
  | ascii
  | blank
  | cntrl
  | digit
  | graph
  | lower
  | print
  | punct
  | space
  | upper
  | word
  | xdigit
  deriving DecidableEq

/-- What a place in a text is asked for. -/
inductive Boundary where
  /-- `^` -/
  | lineStart
  /-- `$` -/
  | lineEnd
  | textStart
  | textEnd
  | word
  | noWord
  | wordStart
  | wordEnd
  | wordStartHalf
  | wordEndHalf
  deriving DecidableEq

/-- A character of a pattern that stands for itself. -/
structure Literal where
  span : Span
  char : Char
  /-- Whether it was written as the number of a byte. -/
  isByte : Bool
  deriving DecidableEq

/-- How two sets are combined. -/
inductive SetOperator where
  | both
  | without
  | either
  deriving DecidableEq

/-- What is asked for by the name of a property. -/
structure Property where
  span : Span
  /-- The name, unless a value of a property is asked for. -/
  name : Option String

mutual

/-- A member of a set in brackets. -/
inductive SetItem where
  | literal (l : Literal)
  | range (span : Span) (low high : Literal)
  | named (span : Span) (negated : Bool) (c : NamedClass)
  | letter (span : Span) (negated : Bool) (c : LetterClass)
  | property (p : Property)
  | nested (span : Span) (negated : Bool) (body : SetBody)

/-- What stands in brackets. -/
inductive SetBody where
  | union (span : Span) (items : List SetItem)
  | combined (span : Span) (o : SetOperator) (left right : SetBody)

end

/-- A pattern. -/
inductive Tree where
  | nothing
  | switches (ss : List Switch)
  | literal (l : Literal)
  | dot (span : Span)
  | boundary (b : Boundary)
  | letter (span : Span) (negated : Bool) (c : LetterClass)
  | property (p : Property)
  | set (span : Span) (negated : Bool) (body : SetBody)
  | repetition (span : Span) (least : Nat) (most : Option Nat) (lazy : Bool) (t : Tree)
  /-- A group has a number if it remembers what it took. -/
  | group (span : Span) (number : Option Nat) (ss : List Switch) (t : Tree)
  | sequence (span : Span) (ts : List Tree)
  | choice (span : Span) (ts : List Tree)

/-- The part of a pattern where a member of a set stands. -/
def SetItem.span : SetItem → Span
  | .literal l => l.span
  | .range span _ _ => span
  | .named span _ _ => span
  | .letter span _ _ => span
  | .property p => p.span
  | .nested span _ _ => span

/-- The part of a pattern where the members of a set stand. -/
def SetBody.span : SetBody → Span
  | .union span _ => span
  | .combined span _ _ _ => span

/-! ## Nesting -/

mutual

/-- The place where a member of a set is nested too deeply, if it is at the given depth. -/
def SetItem.tooDeep? (depth : Nat) : SetItem → Option Span
  | .nested span _ body => if depth = 0 then some span else body.tooDeep? (depth - 1)
  | _ => none

def SetItem.anyTooDeep? (depth : Nat) : List SetItem → Option Span
  | [] => none
  | i :: is =>
    match i.tooDeep? depth with
    | some span => some span
    | none => SetItem.anyTooDeep? depth is

/-- The place where a set is nested too deeply. -/
def SetBody.tooDeep? (depth : Nat) : SetBody → Option Span
  | .union _ [i] => i.tooDeep? depth
  | .union span (i :: j :: is) =>
    if depth = 0 then some span else SetItem.anyTooDeep? (depth - 1) (i :: j :: is)
  | .union _ [] => none
  | .combined span _ left right =>
    if depth = 0 then some span
    else
      match left.tooDeep? (depth - 1) with
      | some span => some span
      | none => right.tooDeep? (depth - 1)

end

mutual

/-- The place where a pattern is nested too deeply, if `depth` levels are left. -/
def Tree.tooDeep? (depth : Nat) : Tree → Option Span
  | .set span _ body => if depth = 0 then some span else body.tooDeep? (depth - 1)
  | .repetition span _ _ _ t => if depth = 0 then some span else t.tooDeep? (depth - 1)
  | .group span _ _ t => if depth = 0 then some span else t.tooDeep? (depth - 1)
  | .sequence span ts => if depth = 0 then some span else Tree.anyTooDeep? (depth - 1) ts
  | .choice span ts => if depth = 0 then some span else Tree.anyTooDeep? (depth - 1) ts
  | _ => none

def Tree.anyTooDeep? (depth : Nat) : List Tree → Option Span
  | [] => none
  | t :: ts =>
    match t.tooDeep? depth with
    | some span => some span
    | none => Tree.anyTooDeep? depth ts

end

end ReleaseBundle.Pattern
