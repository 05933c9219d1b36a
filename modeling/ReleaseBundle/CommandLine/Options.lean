import ReleaseBundle.CommandLine.Similarity

/-!
# Options

The options of the program with their names and with the placeholders of those that take a value.
-/

namespace ReleaseBundle.CommandLine

/-- An option of the program. -/
inductive Key where
  | root
  | name
  | format
  | verbose
  | quiet
  | help
  | version
  deriving DecidableEq

namespace Key

/-- All options in the order of the help text. -/
def all : List Key := [root, name, format, verbose, quiet, help, version]

def long : Key → String
  | root => "root"
  | name => "name"
  | format => "format"
  | verbose => "verbose"
  | quiet => "quiet"
  | help => "help"
  | version => "version"

def short? : Key → Option Char
  | verbose => some 'v'
  | quiet => some 'q'
  | help => some 'h'
  | version => some 'V'
  | _ => none

/-- What stands for the value in messages, if the option takes one. -/
def placeholder? : Key → Option String
  | root => some "DIR"
  | name => some "NAME"
  | format => some "FORMAT"
  | _ => none

def takesValue (k : Key) : Bool := k.placeholder?.isSome

/-- An option as it is shown in messages. -/
def shown (k : Key) : String :=
  match k.placeholder? with
  | some value => "--" ++ k.long ++ " <" ++ value ++ ">"
  | none => "--" ++ k.long

/-- Whether an option is one of the program's own, other than those that ask for a text. -/
def isOwn : Key → Bool
  | help | version => false
  | _ => true

/-- All own options as a choice of one. -/
def choice : String := "<" ++ "|".intercalate ((all.filter isOwn).map shown) ++ ">"

def ofLong? (s : String) : Option Key := all.find? fun k => k.long == s

def ofShort? (c : Char) : Option Key := all.find? fun k => k.short? == some c

/-- The option that someone may have meant. -/
def similar? (s : String) : Option Key := Similarity.best? long s all

end Key

end ReleaseBundle.CommandLine
