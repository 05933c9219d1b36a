import ReleaseBundle.Bytes.Basic

/-!
# Shell scripts

A script is a list of commands. Its text is a string in which every character stands for one byte, so that
texts that are not UTF-8 pass through a script unchanged.

Words keep their quoting until they are expanded, because a parameter in quotes stays one word and outside
quotes it falls apart at blanks. Whatever is quoted is marked as such, piece by piece.
-/

namespace ReleaseBundle.Shell

/-- The text of the shell for bytes. -/
def textOf (bs : Bytes) : String := String.ofList (bs.map fun b => Char.ofNat b.toNat)

/-- The bytes of a text of the shell. -/
def bytesOf (t : String) : Bytes := t.toList.map fun c => UInt8.ofNat c.toNat

/-- How a file is opened by a redirection. -/
inductive FileMode where
  /-- For reading. -/
  | read
  /-- For writing from its start. -/
  | write
  /-- For writing from its start, whatever the options say. -/
  | clobber
  /-- For writing at its end. -/
  | append
  /-- For reading and writing. -/
  | both
  deriving DecidableEq

mutual

/-- A piece of a word. -/
inductive Piece where
  | text (t : String) (quoted : Bool)
  | parameter (name : String) (o : Operation) (quoted : Bool)
  /-- The output of a command. -/
  | substitution (c : Command) (quoted : Bool)
  /-- The value of an arithmetic expression. -/
  | arithmetic (w : List Piece) (quoted : Bool)

/-- What is done with the value of a parameter. Tests either look only at whether the parameter is set, or
also at whether it is empty. -/
inductive Operation where
  | value
  | length
  | default (whenEmpty : Bool) (w : List Piece)
  | assign (whenEmpty : Bool) (w : List Piece)
  | complain (whenEmpty : Bool) (w : List Piece)
  | alternative (whenEmpty : Bool) (w : List Piece)
  | cutStart (longest : Bool) (w : List Piece)
  | cutEnd (longest : Bool) (w : List Piece)
  /-- Something that is noticed only when it is expanded. -/
  | wrong

/-- What is done to a file descriptor before a command runs. -/
inductive Redirect where
  | file (descriptor : Nat) (mode : FileMode) (w : List Piece)
  /-- Lets a descriptor stand for the same as another one. -/
  | duplicate (descriptor : Nat) (input : Bool) (w : List Piece)
  /-- Reads the document with the given number. -/
  | document (descriptor : Nat) (number : Nat)

/-- A command. -/
inductive Command where
  | simple (line : Nat) (assignments : List (String × List Piece)) (words : List (List Piece))
      (redirects : List Redirect)
  | pipeline (cs : List Command)
  | negated (c : Command)
  | both (a b : Command)
  | either (a b : Command)
  | sequence (a b : Command)
  | background (c : Command)
  | subshell (line : Nat) (c : Command)
  | redirected (line : Nat) (c : Command) (redirects : List Redirect)
  | branch (condition consequence : Command) (alternative : Option Command)
  /-- Repeats while the condition holds, or until it does. -/
  | loop (whileHolds : Bool) (condition body : Command)
  | each (line : Nat) (name : String) (words : List (List Piece)) (body : Command)
  | select (line : Nat) (subject : List Piece) (cases : List (List (List Piece) × Option Command))
  | definition (line : Nat) (name : String) (body : Command)

end

abbrev Word := List Piece

/-- A document that stands in a script behind the command that reads it. -/
structure Document where
  number : Nat
  body : Word

/-- What makes a text no script, and the line where that is noticed. -/
structure Mistake where
  line : Nat
  message : String

/-- A script: its commands line by line, and what is wrong behind them. -/
structure Script where
  lines : List Command
  documents : List Document
  mistake : Option Mistake

/-- Whether a character can begin a name. -/
def isNameStart (c : Char) : Bool := c.isAlpha || c == '_'

/-- Whether a character can be in a name. -/
def isNameChar (c : Char) : Bool := c.isAlphanum || c == '_'

/-- Whether a text is a name. -/
def isName (t : String) : Bool :=
  match t.toList with
  | c :: cs => isNameStart c && cs.all isNameChar
  | [] => false

end ReleaseBundle.Shell
