import ReleaseBundle.Disk.Lookup
import ReleaseBundle.Shell.Script

/-!
# Wildcards

In a pattern, `*` stands for any text, `?` for any character and a set in brackets for any of its
characters. A character that was quoted only stands for itself, so the characters of a field are marked.

`expandPath` answers the paths that a pattern stands for, in order of their bytes. Names that begin with a
dot have to be asked for by a dot.
-/

namespace ReleaseBundle.Shell

/-- A character of a field, and whether it was quoted. -/
structure Mark where
  char : Char
  quoted : Bool
  deriving DecidableEq

/-- The text of a field. -/
def plainText (ms : List Mark) : String := String.ofList (ms.map Mark.char)

namespace Wildcard

/-- What one part of a pattern stands for. -/
inductive Part where
  | char (c : Char)
  | anyChar
  | anyText
  /-- One of the characters of a set, or one that is not in it. -/
  | set (isIn : Char → Bool)

/-- The named classes of characters. -/
def class? : String → Option (Char → Bool)
  | "alpha" => some Char.isAlpha
  | "digit" => some Char.isDigit
  | "alnum" => some Char.isAlphanum
  | "upper" => some Char.isUpper
  | "lower" => some Char.isLower
  | "space" => some fun c => c == ' ' || (0x09 ≤ c.toNat && c.toNat ≤ 0x0D)
  | "blank" => some fun c => c == ' ' || c == '\t'
  | "punct" => some fun c => 0x21 ≤ c.toNat && c.toNat ≤ 0x7E && !c.isAlphanum
  | "print" => some fun c => 0x20 ≤ c.toNat && c.toNat ≤ 0x7E
  | "graph" => some fun c => 0x21 ≤ c.toNat && c.toNat ≤ 0x7E
  | "cntrl" => some fun c => c.toNat < 0x20 || c.toNat == 0x7F
  | "xdigit" => some fun c => c.isDigit || ('a' ≤ c && c ≤ 'f') || ('A' ≤ c && c ≤ 'F')
  | _ => none

/-- The class that begins here, behind `[:`, and what follows it. -/
def named? (ms : List Mark) : Option ((Char → Bool) × List Mark) :=
  let name := ms.takeWhile fun m => m.char.isAlpha
  match ms.drop name.length with
  | ⟨':', _⟩ :: ⟨']', _⟩ :: rest => (class? (plainText name)).map (·, rest)
  | _ => none

/-- The class that a mark begins in front of others, and what follows it, which is not more than these. -/
def classAt? (m : Mark) (rest : List Mark) :
    Option ((Char → Bool) × { after : List Mark // after.length ≤ rest.length }) :=
  if m = ⟨'[', false⟩ && rest.head?.map Mark.char = some ':' then
    (named? rest.tail).bind fun (isIn, after) =>
      if h : after.length ≤ rest.length then some (isIn, ⟨after, h⟩) else none
  else none

/-- The members of a set up to its closing bracket, and what follows that. -/
def members? (first : Bool) (isIn : Char → Bool) (ms : List Mark) : Option ((Char → Bool) × List Mark) :=
  match ms with
  | [] => none
  | m :: rest =>
    if m = ⟨']', false⟩ && !first then some (isIn, rest)
    else
      match classAt? m rest with
      | some (named, ⟨after, _⟩) => members? false (fun c => isIn c || named c) after
      | none =>
        match rest with
        | ⟨'-', false⟩ :: last :: more =>
          if last = ⟨']', false⟩ then
            members? false (fun c => isIn c || c == m.char) (⟨'-', false⟩ :: last :: more)
          else members? false (fun c => isIn c || (m.char ≤ c && c ≤ last.char)) more
        | rest => members? false (fun c => isIn c || c == m.char) rest
termination_by ms.length
decreasing_by all_goals simp only [List.length_cons]; omega

/-- The set that a bracket begins, with what follows it. -/
def set? (ms : List Mark) : Option ((Char → Bool) × List Mark) :=
  match ms with
  | ⟨'!', false⟩ :: rest => (members? true (fun _ => false) rest).map fun r => (fun c => !r.1 c, r.2)
  | ms => members? true (fun _ => false) ms

/-- The parts of a pattern. -/
def parts (ms : List Mark) : List Part :=
  match ms with
  | [] => []
  | ⟨'*', false⟩ :: rest => .anyText :: parts rest
  | ⟨'?', false⟩ :: rest => .anyChar :: parts rest
  | ⟨'\\', false⟩ :: m :: rest => .char m.char :: parts rest
  | ⟨'[', false⟩ :: rest =>
    match (set? rest).filter fun r => r.2.length ≤ rest.length with
    | some (isIn, rest') =>
      if rest'.length ≤ rest.length then .set isIn :: parts rest' else []
    | none => .char '[' :: parts rest
  | m :: rest => .char m.char :: parts rest
termination_by ms.length
decreasing_by all_goals simp only [List.length_cons]; omega

/-- Whether parts of a pattern stand for a whole text. -/
def stands : List Part → List Char → Bool
  | [], cs => cs.isEmpty
  | .anyText :: ps, [] => stands ps []
  | .anyText :: ps, c :: cs => stands ps (c :: cs) || stands (.anyText :: ps) cs
  | .char p :: ps, c :: cs => p == c && stands ps cs
  | .anyChar :: ps, _ :: cs => stands ps cs
  | .set isIn :: ps, c :: cs => isIn c && stands ps cs
  | _, [] => false
termination_by ps cs => ps.length + cs.length

/-- Whether a pattern stands for a text. -/
def covers (pattern : List Mark) (text : String) : Bool := stands (parts pattern) text.toList

/-- Whether a pattern stands for more than one text. -/
def isSpecial (ms : List Mark) : Bool :=
  (parts ms).any fun
    | .char _ => false
    | _ => true

/-- What is left of a text without the shortest or longest start that a pattern stands for. -/
def cutStart (longest : Bool) (pattern : List Mark) (text : String) : String :=
  let ps := parts pattern
  let cs := text.toList
  let cuts := List.range (cs.length + 1)
  match (if longest then cuts.reverse else cuts).find? fun n => stands ps (cs.take n) with
  | some n => String.ofList (cs.drop n)
  | none => text

/-- What is left of a text without the shortest or longest end that a pattern stands for. -/
def cutEnd (longest : Bool) (pattern : List Mark) (text : String) : String :=
  let ps := parts pattern
  let cs := text.toList
  let cuts := List.range (cs.length + 1)
  match (if longest then cuts else cuts.reverse).find? fun n => stands ps (cs.drop n) with
  | some n => String.ofList (cs.take n)
  | none => text

/-! ## Paths -/

/-- The path that a text of the shell is. -/
def pathOf (t : String) : Path := ⟨bytesOf t⟩

/-- All names in a directory, in order, with the two that every directory has. -/
def names (d : Disk) (directory : String) : List String :=
  match d.stat (pathOf (if directory = "" then "." else directory)) with
  | .ok (at_, .directory) =>
    let own := ((d.children at_).map fun c => c.1.bytes).mergeSort fun a b => decide (a ≤ b)
    "." :: ".." :: own.map textOf
  | _ => []

/-- The parts of a field between its slashes. -/
def splitSlash : List Mark → List (List Mark)
  | [] => [[]]
  | m :: ms =>
    if m.char = '/' then [] :: splitSlash ms
    else
      match splitSlash ms with
      | [] => [[m]]
      | s :: ss => (m :: s) :: ss

/-- The paths behind `built` that the parts of a pattern stand for. -/
def paths (d : Disk) (built : String) : List (List Mark) → List String
  | [] => if (d.lstat (pathOf built)).isOk then [built] else []
  | part :: rest =>
    let slash := if rest.isEmpty then "" else "/"
    if isSpecial part then
      let ps := parts part
      let wantsDot := (part.head?.map Mark.char) == some '.'
      let found := (names d built).filter fun n => (wantsDot || !n.startsWith ".") && stands ps n.toList
      (found.filter fun n => rest.isEmpty || d.isDirectory (pathOf (built ++ n))).flatMap fun n =>
        if rest.isEmpty then [built ++ n] else paths d (built ++ n ++ slash) rest
    else paths d (built ++ plainText part ++ slash) rest

/-- The paths that a field stands for; if there are none, or nothing in it is special, it stands for
itself. -/
def expandPath (d : Disk) (field : List Mark) : List String :=
  let ps := splitSlash field
  if ps.any isSpecial then
    match paths d "" ps with
    | [] => [plainText field]
    | found => found
  else [plainText field]

end Wildcard

end ReleaseBundle.Shell
