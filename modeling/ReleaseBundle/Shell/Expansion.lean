import ReleaseBundle.Shell.Arithmetic
import ReleaseBundle.Shell.Open

/-!
# Expansion

The words of a command become its arguments: parameters and the output of commands are put in, what came
in that way without quotes falls apart into fields, and fields with wildcards become the paths that they
stand for.

A word is first expanded to glyphs, which remember of each character whether it was quoted and whether a
field may end at it. `split` makes fields of glyphs.
-/

namespace ReleaseBundle.Shell

/-- A step of an expansion's result. -/
inductive Glyph where
  | char (c : Char) (quoted splits : Bool)
  /-- The end of an argument of the script. -/
  | stop
  /-- A text in quotes begins, so there is a field even if the text is empty. -/
  | begins

namespace Glyph

/-- A text that was put in. -/
def ofText (t : String) (quoted : Bool) : List Glyph :=
  if quoted then .begins :: t.toList.map fun c => .char c true false
  else t.toList.map fun c => .char c false true

/-- The characters that separate fields unless others are chosen. -/
def standardSeparators : String := " \t\n"

def isBlank (c : Char) : Bool := c == ' ' || c == '\t' || c == '\n'

/-- Fields that are being made: the complete ones, the last first, the one that is not complete, its last
character first, and whether the last complete one ended at a blank. -/
structure Split where
  complete : List (List Mark)
  current : Option (List Mark)
  blankEnded : Bool

namespace Split

def finish (s : Split) (blankEnded : Bool) : Split :=
  match s.current with
  | some f => ⟨f.reverse :: s.complete, none, blankEnded⟩
  | none => { s with blankEnded := s.blankEnded && blankEnded }

/-- Goes on with a glyph. Blanks between fields count as one, and other separators stand for a field each. -/
def next (separators : String) (s : Split) : Glyph → Split
  | .begins => ⟨s.complete, some (s.current.getD []), false⟩
  | .stop => s.finish false
  | .char c quoted splits =>
    if splits && separators.contains c then
      if isBlank c then
        match s.current with
        | some _ => s.finish true
        | none => s
      else
        match s.current with
        | some _ => s.finish false
        | none => if s.blankEnded then { s with blankEnded := false } else { s with complete := [] :: s.complete }
    else ⟨s.complete, some (⟨c, quoted⟩ :: s.current.getD []), false⟩

end Split

/-- The fields of glyphs. -/
def split (separators : String) (gs : List Glyph) : List (List Mark) :=
  ((gs.foldl (Split.next separators) ⟨[], none, false⟩).finish false).complete.reverse

/-- The text of glyphs that stay one field. -/
def joined (separators : String) (gs : List Glyph) : List Mark :=
  gs.flatMap fun
    | .char c quoted _ => [⟨c, quoted⟩]
    | .stop => (separators.toList.head?.map fun c => Mark.mk c true).toList
    | .begins => []

end Glyph

/-- Puts members between the members of a list of lists. -/
def interleaved {α : Type} (separator : List α) : List (List α) → List α
  | [] => []
  | [l] => l
  | l :: ls => l ++ separator ++ interleaved separator ls

/-- The letters of options in the order in which they are shown. -/
def optionLetters : List Char :=
  ['u', 'b', 'a', 'C', 'E', 'V', 'v', 'x', 's', 'n', 'm', 'i', 'I', 'f', 'e']

/-- The characters that separate fields. -/
def separators : Act String := return (← Act.value? "IFS").getD Glyph.standardSeparators

/-- The value of a parameter that is not a list, if it is set. -/
def parameter? (name : String) : Act (Option String) := do
  let p ← Act.process
  match name with
  | "#" => return some (toString p.arguments.length)
  | "?" => return some (toString p.status)
  | "$" => return some (toString p.shell)
  | "!" => return p.background.map toString
  | "-" => return some (String.ofList (optionLetters.filter p.options.contains))
  | "0" => return some p.name
  | name =>
    match name.toNat? with
    | some n => return p.arguments[n - 1]?
    | none => Act.value? name

/-- The value of any parameter as one text. -/
def joinedParameter? (name : String) : Act (Option String) := do
  if name = "@" ∨ name = "*" then
    let arguments := (← Act.process).arguments
    if arguments.isEmpty then return none
    let separator := String.ofList ((← separators).toList.take 1)
    return some (separator.intercalate arguments)
  else parameter? name

/-- Stops if a parameter has to be set and is not. -/
def checkSet (name : String) (value : Option String) : Act Unit := do
  if value.isNone && name != "@" && name != "*" && (← Act.hasOption 'u') then
    Act.refuse (name ++ if ← Act.isExtended then ": unbound variable" else ": parameter not set")

/-- The glyphs of a parameter. -/
def parameterGlyphs (name : String) (quoted : Bool) : Act (List Glyph) := do
  if name = "@" ∨ (name = "*" ∧ !quoted) then
    let arguments := (← Act.process).arguments
    return interleaved [.stop] (arguments.map (Glyph.ofText · quoted))
  else
    let value ← joinedParameter? name
    checkSet name value
    return Glyph.ofText (value.getD "") quoted

/-- The directory that a tilde with a name behind it stands for. -/
def homeOf? (name : String) : Act (Option String) := do
  if name = "" then Act.value? "HOME"
  else return if name = "root" then some "/root" else none

/-- Puts directories in for a tilde at the start of a text, and behind colons where something is
assigned. -/
def withTildes (assigns whole : Bool) (t : String) : Act (List Piece) := do
  let parts := if assigns then t.splitOn ":" else [t]
  let expanded ← parts.mapIdxM fun i part => do
    let isWhole := whole || i + 1 < parts.length || part.contains '/'
    match part.toList with
    | '~' :: cs =>
      let name := cs.takeWhile (· != '/')
      let home? ← if isWhole then homeOf? (String.ofList name) else pure none
      match home? with
      | some home =>
        return [Piece.text home true, .text (String.ofList (cs.drop name.length)) false]
      | none => return [Piece.text part false]
    | _ => return [Piece.text part false]
  return interleaved [Piece.text ":" false] expanded

/-- A word with directories in the place of tildes. -/
def expandTildes (assigns : Bool) (w : Word) : Act Word := do
  match w with
  | .text t false :: ps =>
    if t.contains '~' then return (← withTildes assigns ps.isEmpty t) ++ ps else return w
  | w => return w

/-- What runs a command and answers its output. -/
abbrev Capture := Command → Act String

mutual

/-- The glyphs of a piece. In an operand, text outside quotes can fall apart. -/
def pieceGlyphs (capture : Capture) (operand : Bool) : Piece → Act (List Glyph)
  | .text t quoted =>
    return if quoted then Glyph.ofText t true else t.toList.map fun c => .char c false operand
  | .substitution c quoted => return Glyph.ofText (← capture c) quoted
  | .arithmetic w quoted => do
    let text := plainText (Glyph.joined " " (← wordGlyphs capture false w))
    let bindings := (← Act.process).bindings
    let problem (t : String) : Act (List Glyph) := Act.fail t
    match Arithmetic.evaluate text
        ⟨fun x => ((bindings.lookup x).bind Variable.value).getD "",
          fun x => (bindings.lookup x).any Variable.readOnly, []⟩ with
    | .ok (n, assigned) => do
      assigned.reverse.forM fun (x, k) => Act.assign x (toString k)
      return Glyph.ofText (toString n) quoted
    | .error (.expression why) => problem ("arithmetic expression: " ++ why ++ ": \"" ++ text ++ "\"")
    | .error (.notNumber value) => problem ("Illegal number: " ++ value)
    | .error (.readOnly x) => problem (x ++ ": is read only")
  | .parameter name o quoted => operationGlyphs capture name quoted o

def operationGlyphs (capture : Capture) (name : String) (quoted : Bool) : Operation → Act (List Glyph)
  | .value => parameterGlyphs name quoted
  | .length => do
    if name = "@" ∨ name = "*" then
      return Glyph.ofText (toString (← Act.process).arguments.length) quoted
    else
      let value ← parameter? name
      checkSet name value
      return Glyph.ofText (toString (value.getD "").length) quoted
  | .default whenEmpty w => do
    match ← joinedParameter? name with
    | some value =>
      if whenEmpty && value = "" then wordGlyphs capture (!quoted) w else parameterGlyphs name quoted
    | none => wordGlyphs capture (!quoted) w
  | .alternative whenEmpty w => do
    match ← joinedParameter? name with
    | some value => if whenEmpty && value = "" then return [] else wordGlyphs capture (!quoted) w
    | none => return []
  | .assign whenEmpty w => do
    let value ← joinedParameter? name
    if value.any fun v => !(whenEmpty && v = "") then parameterGlyphs name quoted
    else if !isName name then Act.fail (name ++ ": bad variable name")
    else do
      let value := plainText (Glyph.joined " " (← wordGlyphs capture false w))
      Act.assign name value
      return Glyph.ofText value quoted
  | .complain whenEmpty w => do
    let value ← joinedParameter? name
    if value.any fun v => !(whenEmpty && v = "") then parameterGlyphs name quoted
    else
      let message := plainText (Glyph.joined " " (← wordGlyphs capture false w))
      Act.refuse (name ++ ": " ++
        (if message != "" then message
          else if whenEmpty then "parameter not set or null"
          else "parameter not set"))
  | .cutStart longest w => do
    let value ← joinedParameter? name
    checkSet name value
    let pattern := Glyph.joined " " (← wordGlyphs capture false w)
    return Glyph.ofText (Wildcard.cutStart longest pattern (value.getD "")) quoted
  | .cutEnd longest w => do
    let value ← joinedParameter? name
    checkSet name value
    let pattern := Glyph.joined " " (← wordGlyphs capture false w)
    return Glyph.ofText (Wildcard.cutEnd longest pattern (value.getD "")) quoted
  | .wrong => Act.fail "Bad substitution"

/-- The glyphs of a word. -/
def wordGlyphs (capture : Capture) (operand : Bool) : List Piece → Act (List Glyph)
  | [] => return []
  | p :: ps => do
    let first ← pieceGlyphs capture operand p
    let others ← wordGlyphs capture operand ps
    return first ++ others

end

/-- Whether a piece stands for all arguments, each of them as it is. -/
def Piece.isArguments : Piece → Bool
  | .parameter "@" _ true => true
  | _ => false

/-- A word without the quotes that hold nothing but all arguments: they stand for no field if there are no
arguments. -/
def withoutIdleQuotes (arguments : List String) : Word → Word
  | .text "" true :: p :: ps =>
    if p.isArguments && arguments.isEmpty then withoutIdleQuotes arguments ps
    else .text "" true :: withoutIdleQuotes arguments (p :: ps)
  | p :: ps => p :: withoutIdleQuotes arguments ps
  | [] => []

namespace Word

/-- The marked characters of a word that stays one field. -/
def marks (capture : Capture) (w : Word) : Act (List Mark) := do
  let gs ← wordGlyphs capture false (← expandTildes false w)
  return Glyph.joined (← separators) gs

/-- The text of a word that stays one field. -/
def text (capture : Capture) (w : Word) : Act String := return plainText (← marks capture w)

/-- The text of a word that is assigned. -/
def assigned (capture : Capture) (w : Word) : Act String := do
  let gs ← wordGlyphs capture false (← expandTildes true w)
  return plainText (Glyph.joined (← separators) gs)

/-- The arguments that a word becomes. -/
def fields (capture : Capture) (w : Word) : Act (List String) := do
  let w := withoutIdleQuotes (← Act.process).arguments w
  let gs ← wordGlyphs capture false (← expandTildes false w)
  let fs := Glyph.split (← separators) gs
  if ← Act.hasOption 'f' then return fs.map plainText
  else
    let d := (← get).disk
    return fs.flatMap (Wildcard.expandPath d)

end Word

end ReleaseBundle.Shell
