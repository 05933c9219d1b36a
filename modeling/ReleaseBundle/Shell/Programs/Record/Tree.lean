import ReleaseBundle.Shell.Programs.Record.Pattern
import ReleaseBundle.Shell.Programs.Record.Value

/-!
# Programs on records

A program is a list of rules: what is to be done with the records that fit. Terms stand for values, and places
hold them. Names stand for values or for tables; which of the two the parameters of a function are follows from
what the function does with them, and is settled when a program is read.
-/

namespace ReleaseBundle.Shell.Programs.Record

/-- The functions that every program can call. -/
inductive Builtin where
  | length
  | substr
  | index
  | split
  | sub
  | gsub
  | matchPlace
  | sprintf
  | sin
  | cos
  | atan2
  | exp
  | log
  | sqrt
  | int
  | rand
  | srand
  | tolower
  | toupper
  | system
  | close
  | fflush

/-- The names of the functions that every program can call. -/
def Builtin.ofName? : String → Option Builtin
  | "length" => some length
  | "substr" => some substr
  | "index" => some index
  | "split" => some split
  | "sub" => some sub
  | "gsub" => some gsub
  | "match" => some matchPlace
  | "sprintf" => some sprintf
  | "sin" => some sin
  | "cos" => some cos
  | "atan2" => some atan2
  | "exp" => some exp
  | "log" => some log
  | "sqrt" => some sqrt
  | "int" => some int
  | "rand" => some rand
  | "srand" => some srand
  | "tolower" => some tolower
  | "toupper" => some toupper
  | "system" => some system
  | "close" => some close
  | "fflush" => some fflush
  | _ => none

mutual

/-- What can hold a value. -/
inductive Place where
  | named (name : String)
  | element (table : String) (index : List Term)
  | field (number : Term)

/-- Where a line is read from. -/
inductive Source where
  | records
  | file (path : Term)
  | command (text : Term)

inductive Term where
  | number (x : Float)
  | text (t : String)
  /-- An expression, which by itself tells whether the record fits. -/
  | pattern (e : Expression)
  | held (p : Place)
  /-- Gives a place a value, which an operation may make of the old one and another. -/
  | assign (p : Place) (o : Option Operation) (t : Term)
  /-- Counts up or down, and stands for the value before or after that. -/
  | step (p : Place) (up after : Bool)
  | not (t : Term)
  | negative (t : Term)
  | positive (t : Term)
  | compute (o : Operation) (a b : Term)
  | join (a b : Term)
  | compare (c : Comparison) (a b : Term)
  | fits (negated : Bool) (t pattern : Term)
  | both (a b : Term)
  | oneOf (a b : Term)
  | choose (c a b : Term)
  | among (index : List Term) (table : String)
  | call (name : String) (given : List Term)
  | builtin (b : Builtin) (given : List Term)
  | read (s : Source) (p : Option Place)
  /-- A term in parentheses, which is no place any more. -/
  | grouped (t : Term)

end

instance : Inhabited Term := ⟨.number 0⟩

/-- Where printed text goes. -/
inductive Outlet where
  | file (appends : Bool)
  | command
  deriving DecidableEq

inductive Statement where
  | block (ss : List Statement)
  | evaluate (t : Term)
  | print (formatted : Bool) (ts : List Term) (out : Option (Outlet × Term))
  | branch (c : Term) (a : Statement) (b : Option Statement)
  /-- Repeats something while a condition holds, which may be looked at for the first time only after it was
  done once. -/
  | loop (checksFirst : Bool) (c : Option Term) (step : Option Statement) (body : Statement)
  | each (name table : String) (body : Statement)
  | delete (table : String) (index : List Term)
  | next
  | nextFile
  | leave (status : Option Term)
  | answer (t : Option Term)
  | break_
  | continue_

instance : Inhabited Statement := ⟨.block []⟩

/-- When a rule is followed. -/
inductive Occasion where
  | start
  | finish
  | always
  | record (t : Term)
  /-- From the first record that fits up to one that fits the second term. -/
  | range (first last : Term)

structure Rule where
  occasion : Occasion
  action : Statement

structure Parameter where
  name : String
  /-- Whether it stands for a table. -/
  isTable : Bool

structure Function where
  name : String
  parameters : List Parameter
  body : Statement

/-- A program on records. -/
structure Rules where
  rules : List Rule := []
  functions : List Function := []

end ReleaseBundle.Shell.Programs.Record
