import ReleaseBundle.Pattern.Members
import ReleaseBundle.Pattern.Tree

/-!
# Expressions

An expression is a pattern that has a meaning. Sequences and choices stand to the right: the left part of
one is none itself, so `elements` and `alternatives` give their parts. Expressions are built simplified, by
`sequenceOf`, `choiceOf`, `repeated` and `ofMembers`: texts that follow each other are one text, a choice
between single characters is a set, and a start that all alternatives share is taken out of a choice. How
large a machine for a pattern is depends on that.
-/

namespace ReleaseBundle.Pattern

/-- What a place in a text can be asked for. -/
inductive Look where
  | textStart
  | textEnd
  | lineStart
  | lineEnd
  /-- A line starts behind `\n`, `\r\n` or `\r`. -/
  | anyLineStart
  | anyLineEnd
  /-- A boundary of words of ASCII letters, or of all letters. -/
  | words (ascii : Bool) (b : Boundary)
  deriving DecidableEq

/-- A pattern that has a meaning. -/
inductive Expression where
  | empty
  /-- A text of at least one character. -/
  | text (cs : List Char)
  /-- A character of a set. -/
  | member (is : List Interval)
  | look (l : Look)
  /-- A group that remembers what it took. -/
  | group (number : Nat) (a : Expression)
  | repetition (least : Nat) (most : Option Nat) (lazy : Bool) (a : Expression)
  | sequence (a b : Expression)
  | choice (a b : Expression)
  deriving DecidableEq

namespace Expression

/-- The parts of a sequence; anything else that takes or asks for something is its only part. -/
def elements : Expression → List Expression
  | sequence a b => a :: elements b
  | empty => []
  | e => [e]

/-- The alternatives of a choice; anything else is the only one. -/
def alternatives : Expression → List Expression
  | choice a b => a :: alternatives b
  | e => [e]

/-- Whether nothing but the empty text can match. -/
def isAlwaysEmpty : Expression → Bool
  | empty | look _ => true
  | text _ | member _ => false
  | group _ a => a.isAlwaysEmpty
  | repetition _ most _ a => most.isSome && a.isAlwaysEmpty
  | sequence a b | choice a b => a.isAlwaysEmpty && b.isAlwaysEmpty

/-- How many characters a match takes at least; nothing if there is none at all. -/
def least? : Expression → Option Nat
  | empty | look _ => some 0
  | text cs => some cs.length
  | member is => if is.isEmpty then none else some 1
  | group _ a => a.least?
  | repetition least _ _ a => a.least?.map (least * ·)
  | sequence a b =>
    match a.least?, b.least? with
    | some m, some n => some (m + n)
    | _, _ => none
  | choice a b =>
    match a.least?, b.least? with
    | some m, some n => some (min m n)
    | _, _ => none

/-- The expression for a set of characters. -/
def ofIntervals : List Interval → Expression
  | [i] => if i.low = i.high then .text [Char.ofNat i.low] else .member [i]
  | is => .member is

/-- Puts a part in front of others; texts that follow each other become one. -/
def before (e : Expression) (rest : List Expression) : List Expression :=
  match e, rest with
  | .text a, .text b :: rest => .text (a ++ b) :: rest
  | e, rest => e :: rest

/-- One expression of parts, joined to the right by an operation. -/
def joinedBy (join : Expression → Expression → Expression) (none_ : Expression) (es : List Expression) :
    Expression :=
  match es.reverse with
  | [] => none_
  | last :: earlier => earlier.foldl (fun e part => join part e) last

/-- Expressions one after the other. -/
def sequenceOf (es : List Expression) : Expression :=
  joinedBy .sequence .empty ((es.flatMap elements).foldr before [])

/-- A character that an expression stands for. -/
def character? : Expression → Option Char
  | .text [c] => some c
  | _ => none

/-- The set that an expression stands for. -/
def intervals? : Expression → Option (List Interval)
  | .member is => some is
  | _ => none

/-- The parts at the start that two sequences share. -/
def sharedStart : List Expression → List Expression → List Expression
  | a :: as, b :: bs => if a = b then a :: sharedStart as bs else []
  | _, _ => []

/-- The parts of a sequence of at least two. -/
def parts? (e : Expression) : Option (List Expression) :=
  match e with
  | .sequence _ _ => some e.elements
  | _ => none

/-- The start that all alternatives share, and what follows it in each. -/
def factored? (es : List Expression) : Option (List Expression × List Expression) :=
  match es.mapM parts? with
  | some (first :: others) =>
    let start := others.foldl sharedStart first
    if start = [] then none
    else some (start, (first :: others).map fun parts => sequenceOf (parts.drop start.length))
  | _ => none

/-- A choice between expressions. Each time that a shared start is taken out, the limit goes down. -/
def choiceWithin : Nat → List Expression → Expression
  | 0, es => joinedBy .choice (.member []) es
  | limit + 1, es =>
    match es.flatMap alternatives with
    | [] => .member []
    | [e] => e
    | es =>
      match es.mapM character?, es.mapM intervals? with
      | some cs, _ => ofIntervals (ordered (cs.map fun c => .single c.toNat))
      | none, some sets => ofIntervals (ordered sets.flatten)
      | none, none =>
        match factored? es with
        | some (start, rests) => sequenceOf (start ++ [choiceWithin limit rests])
        | none => joinedBy .choice (.member []) es

/-- The number of parts of an expression. -/
def extent : Expression → Nat
  | empty | text _ | member _ | look _ => 1
  | group _ a | repetition _ _ _ a => a.extent + 1
  | sequence a b | choice a b => a.extent + b.extent + 1

/-- A choice between expressions. -/
def choiceOf (es : List Expression) : Expression :=
  choiceWithin (es.foldl (fun n e => n + e.extent) 1) es

/-- A repetition. What can only be empty need not be repeated. -/
def repeated (least : Nat) (most : Option Nat) (lazy : Bool) (a : Expression) : Expression :=
  let least' := if a.isAlwaysEmpty then min least 1 else least
  let most' := if a.isAlwaysEmpty then some (min (most.getD 1) 1) else most
  if least' = 0 ∧ most' = some 0 then .empty
  else if least' = 1 ∧ most' = some 1 then a
  else .repetition least' most' lazy a

/-- Whether a pattern asks for words of all letters, which takes tables. -/
def needsTables : Expression → Bool
  | empty | text _ | member _ => false
  | look (.words ascii _) => !ascii
  | look _ => false
  | group _ a | repetition _ _ _ a => a.needsTables
  | sequence a b | choice a b => a.needsTables || b.needsTables

end Expression

end ReleaseBundle.Pattern
