import ReleaseBundle.Shell.Open

/-!
# Options of programs

The programs of the system take options of one letter, which can be joined behind one dash, and long
options behind two dashes. Options and operands may be mixed; two dashes alone end the options.
-/

namespace ReleaseBundle.Shell

/-- Work of a program on its arguments. -/
abbrev Program := List String → Act Nat

/-- How a program reads its options. -/
structure Manual where
  program : String
  /-- Options without and with a value. -/
  flags : String
  valued : String := ""
  /-- Options whose value can only be joined to them. -/
  joined : String := ""
  /-- Long options and the letters that they stand for. -/
  long : List (String × Char) := []
  /-- The status of a wrong use. -/
  misuse : Nat := 1
  /-- Whether options may stand behind operands. -/
  mixed : Bool := true

/-- Arguments that were read: options with their values in order, and operands. -/
structure Arguments where
  options : List (Char × String) := []
  operands : List String := []

namespace Arguments

def has (a : Arguments) (c : Char) : Bool := a.options.any fun o => o.1 == c

def hasAny (a : Arguments) (cs : String) : Bool := cs.toList.any a.has

/-- The value of an option that was given last. -/
def value? (a : Arguments) (c : Char) : Option String :=
  (a.options.reverse.find? fun o => o.1 == c).map Prod.snd

def values (a : Arguments) (c : Char) : List String :=
  (a.options.filter fun o => o.1 == c).map Prod.snd

/-- Which of some options was given last. -/
def last? (a : Arguments) (cs : String) : Option Char :=
  (a.options.reverse.find? fun o => cs.contains o.1).map Prod.fst

end Arguments

namespace Manual

/-- What is wrong with arguments. -/
inductive Misuse where
  | unknownLetter (c : Char)
  | unknownName (name : String)
  | ambiguous (name : String) (names : List String)
  | noValue (c : Char)
  | noLongValue (name : String)
  | surplusValue (name : String)

def Misuse.message : Misuse → String
  | unknownLetter c => "invalid option -- '" ++ c.toString ++ "'"
  | unknownName name => "unrecognized option '--" ++ name ++ "'"
  | ambiguous name names =>
    "option '--" ++ name ++ "' is ambiguous; possibilities:" ++
      String.join (names.map fun n => " '--" ++ n ++ "'")
  | noValue c => "option requires an argument -- '" ++ c.toString ++ "'"
  | noLongValue name => "option '--" ++ name ++ "' requires an argument"
  | surplusValue name => "option '--" ++ name ++ "' doesn't allow an argument"

/-- Reads letters behind one dash; the next argument may be taken as a value. -/
def letters (m : Manual) (cs : List Char) (next : Option String) :
    Except Misuse (List (Char × String) × Bool) :=
  match cs with
  | [] => .ok ([], false)
  | c :: cs =>
    if m.valued.contains c then
      match cs, next with
      | [], some v => .ok ([(c, v)], true)
      | [], none => .error (.noValue c)
      | cs, _ => .ok ([(c, String.ofList cs)], false)
    else if m.joined.contains c then .ok ([(c, String.ofList cs)], false)
    else if m.flags.contains c then
      match letters m cs next with
      | .ok (os, used) => .ok ((c, "") :: os, used)
      | .error e => .error e
    else .error (.unknownLetter c)

/-- Reads a long option; the next argument may be taken as a value. -/
def longOption (m : Manual) (text : String) (next : Option String) :
    Except Misuse ((Char × String) × Bool) :=
  let name := String.ofList (text.toList.takeWhile (· != '='))
  let value? := if name.length < text.length then some (String.ofList (text.toList.drop (name.length + 1))) else none
  let found :=
    match m.long.filter fun l => l.1 = name with
    | [] => m.long.filter fun l => l.1.startsWith name
    | l => l
  match found with
  | [] => .error (.unknownName name)
  | (full, c) :: others =>
    if others.any fun l => l.2 != c then .error (.ambiguous name (found.map Prod.fst))
    else if m.valued.contains c then
      match value?, next with
      | some v, _ => .ok ((c, v), false)
      | none, some v => .ok ((c, v), true)
      | none, none => .error (.noLongValue full)
    else if m.joined.contains c then .ok ((c, value?.getD ""), false)
    else
      match value? with
      | some _ => .error (.surplusValue full)
      | none => .ok ((c, ""), false)

/-- Reads arguments. -/
def read (m : Manual) (sofar : Arguments) : List String → Except Misuse Arguments
  | [] => .ok { options := sofar.options.reverse, operands := sofar.operands.reverse }
  | "--" :: rest =>
    .ok { options := sofar.options.reverse, operands := sofar.operands.reverse ++ rest }
  | a :: rest =>
    match a.toList with
    | '-' :: '-' :: cs =>
      match longOption m (String.ofList cs) rest.head? with
      | .error e => .error e
      | .ok (o, used) =>
        let sofar := { sofar with options := o :: sofar.options }
        match used, rest with
        | true, _ :: rest => read m sofar rest
        | _, rest => read m sofar rest
    | '-' :: c :: cs =>
      match letters m (c :: cs) rest.head? with
      | .error e => .error e
      | .ok (os, used) =>
        let sofar := { sofar with options := os.reverse ++ sofar.options }
        match used, rest with
        | true, _ :: rest => read m sofar rest
        | _, rest => read m sofar rest
    | _ =>
      if m.mixed then read m { sofar with operands := a :: sofar.operands } rest
      else .ok { options := sofar.options.reverse, operands := sofar.operands.reverse ++ a :: rest }

/-- The name under which the program was started, if it is a path to it. -/
def name (m : Manual) : Act String := do
  let name := (← Act.process).name
  return if name.endsWith ("/" ++ m.program) then name else m.program

/-- Says what is wrong with a use, and where help is. -/
def misused (m : Manual) (what : String) : Act Nat := do
  let name ← m.name
  Act.complain (name ++ ": " ++ what)
  Act.complain ("Try '" ++ name ++ " --help' for more information.")
  return m.misuse

/-- A program that works on arguments that were read. -/
def run (m : Manual) (work : Arguments → Act Nat) : Program := fun args =>
  match read m {} args with
  | .ok a => work a
  | .error e => misused m e.message

/-- Says that something went wrong. -/
def complain (m : Manual) (what : String) : Act Unit := do
  Act.complain ((← m.name) ++ ": " ++ what)

/-- Says that something went wrong, and answers the status of failure. -/
def failed (m : Manual) (what : String) : Act Nat := do
  complain m what
  return 1

end Manual

/-! ## Names in messages -/

/-- How a byte is written where it cannot be shown. -/
def escapedChar (c : Char) : String :=
  match c.toNat with
  | 7 => "\\a"
  | 8 => "\\b"
  | 9 => "\\t"
  | 10 => "\\n"
  | 11 => "\\v"
  | 12 => "\\f"
  | 13 => "\\r"
  | n => "\\" ++ toString (n / 64) ++ toString (n / 8 % 8) ++ toString (n % 8)

/-- Whether a character of any script can be shown: no control, and none that separates lines. -/
def isShown (c : Char) : Bool :=
  let n := c.toNat
  0x20 ≤ n && n != 0x7F && !(0x80 ≤ n && n < 0xA0) && n != 0x2028 && n != 0x2029

/-- A part of a name: a character that can be shown, or bytes that cannot. -/
structure NamePart where
  bytes : Bytes
  isShown : Bool

namespace NamePart

/-- Cuts a name into its parts. -/
def ofBytes : Bytes → List NamePart
  | [] => []
  | b :: bs =>
    match (Text.next b bs).char with
    | some c =>
      let rest := (Text.next b bs).rest
      ⟨(b :: bs).take (bs.length + 1 - rest.length), Shell.isShown c⟩ :: ofBytes rest
    | none => ⟨[b], false⟩ :: ofBytes bs
termination_by bs => bs.length
decreasing_by
  · have := Text.next_length b bs
    simp only [List.length_cons]
    omega
  · simp

def ofText (t : String) : List NamePart := ofBytes (bytesOf t)

/-- A part as it is. -/
def text (p : NamePart) : String := textOf p.bytes

/-- A part whose bytes are all escaped. -/
def escaped (p : NamePart) : String := String.join (p.text.toList.map escapedChar)

end NamePart

/-- Runs of characters that can be shown and of ones that cannot. -/
def quotedRuns (ps : List NamePart) : String :=
  let runs := ps.splitBy fun a b => a.isShown == b.isShown
  String.join (runs.map fun run =>
    if run.all NamePart.isShown then
      "'" ++ String.join (run.map fun p => if p.text = "'" then "'\\''" else p.text) ++ "'"
    else "$'" ++ String.join (run.map NamePart.escaped) ++ "'")

/-- A name as messages show it: in quotes, and so that a shell reads it back. -/
def quoted (t : String) : String :=
  let cs := t.toList
  let ps := NamePart.ofText t
  if ps.all NamePart.isShown then
    if cs.contains '\'' then
      let isOdd (c : Char) : Bool := "!\"$&()*;<=>[^\x60|?\\\x7b\x7d".contains c
      if cs.any isOdd || cs.tail.any fun c => c == '#' || c == '~' then quotedRuns ps
      else "\"" ++ t ++ "\""
    else "'" ++ t ++ "'"
  else
    let leading := if (ps.head?.map NamePart.isShown) = some false then "''" else ""
    leading ++ quotedRuns ps

/-- The marks around an argument that is wrong. -/
def openingMark : String := textOf (Text.ofString "‘")

def closingMark : String := textOf (Text.ofString "’")

/-- An argument as messages show it where it is wrong: between marks, with escapes. -/
def cited (t : String) : String :=
  let shown (p : NamePart) : String :=
    if p.text = "\\" || p.text = closingMark then "\\" ++ p.text
    else if p.isShown then p.text
    else p.escaped
  openingMark ++ String.join ((NamePart.ofText t).map shown) ++ closingMark

/-- A word as a shell reads it back, in quotes only if they are needed. -/
def shellWord (t : String) : String :=
  let isPlain (c : Char) : Bool := c.isAlphanum || "%+,-./:@_]\x7b\x7d#~".contains c
  let isAlone := t = "\x7b" || t = "\x7d" || t.startsWith "#" || t.startsWith "~"
  if t != "" && t.toList.all isPlain && !isAlone then t else quoted t

/-- A name as messages show it in front of a colon: in quotes if it has one itself or needs them. -/
def quotedIfNeeded (t : String) : String := if t.contains ':' then quoted t else shellWord t

/-- Does something for each of some operands; the status is the worst. -/
def forEach {α : Type} (f : α → Act Nat) : List α → Act Nat
  | [] => return 0
  | a :: as => do
    let status ← f a
    let others ← forEach f as
    return max status others

/-- The last part of a path, as text. -/
def lastName (t : String) : String :=
  let cs := (t.toList.reverse.dropWhile (· == '/')).reverse
  if cs.isEmpty then (if t.startsWith "/" then "/" else "")
  else String.ofList (cs.reverse.takeWhile (· != '/')).reverse

/-- A path inside a directory. -/
def inside (directory name : String) : String :=
  if directory.endsWith "/" then directory ++ name else directory ++ "/" ++ name

end ReleaseBundle.Shell
