import ReleaseBundle.Xml.Scan

/-!
# References

Text and values are written as runs of characters and references. `pieces` takes such a run apart and
remembers of every character whether it was written as itself, because line ends and blanks that come
from references are kept as they are, while those that are written as themselves are normalised:
`runText` does this for the text of an element and `valueText` for the value of an attribute.
-/

namespace ReleaseBundle.Xml

/-- The characters with a name of their own. -/
def predefined : List (List Char × Char) :=
  [(['q', 'u', 'o', 't'], '"'), (['a', 'm', 'p'], '&'), (['a', 'p', 'o', 's'], '\''),
    (['l', 't'], '<'), (['g', 't'], '>')]

/-- What a reference stands for. -/
inductive Reference where
  | char (c : Char)
  /-- A name that is not predefined. -/
  | unknown (name : List Char)
  deriving DecidableEq

/-- The number that a list of digits denotes in a base. -/
def numberOf (base : Nat) (digits : List Char) : Nat :=
  digits.foldl (fun n c => base * n + (Bytes.hexValue? c).getD 0) 0

/-- The character with a number. Numbers of 32 bits that no character has give U+FFFD. -/
def charOfNumber? (n : Nat) : Option Char :=
  if 0x100000000 ≤ n then none
  else
    let c := if n.isValidChar then Char.ofNat n else '\uFFFD'
    if isChar c then some c else none

def isHexDigit (c : Char) : Bool := (Bytes.hexValue? c).isSome

/-- Reads digits and the semicolon after them. -/
def readNumber? (base : Nat) (isDigit : Char → Bool) (cs : List Char) :
    Option (Reference × List Char) :=
  match cs.dropWhile isDigit with
  | ';' :: rest =>
    if cs.takeWhile isDigit = [] then none
    else (charOfNumber? (numberOf base (cs.takeWhile isDigit))).map fun c => (.char c, rest)
  | _ => none

/-- Reads a reference after its `&`, or answers `none` if it is malformed. -/
def readReference? (cs : List Char) : Option (Reference × List Char) :=
  match cs with
  | '#' :: 'x' :: cs => readNumber? 16 isHexDigit cs
  | '#' :: cs => readNumber? 10 Char.isDigit cs
  | cs =>
    match readName cs with
    | .ok (n, ';' :: rest) =>
      match predefined.lookup n with
      | some c => some (.char c, rest)
      | none => some (.unknown n, rest)
    | _ => none

theorem length_readNumber {base : Nat} {isDigit : Char → Bool} {cs rest : List Char} {r : Reference}
    (h : readNumber? base isDigit cs = some (r, rest)) : rest.length ≤ cs.length := by
  have hd := length_dropWhile_le isDigit cs
  unfold readNumber? at h
  split at h
  · next heq =>
    rw [heq] at hd
    split at h
    · cases h
    · obtain ⟨c, _, hc⟩ := Option.map_eq_some_iff.1 h
      cases hc
      simp at hd
      omega
  · cases h

theorem length_readReference {cs rest : List Char} {r : Reference}
    (h : readReference? cs = some (r, rest)) : rest.length ≤ cs.length := by
  unfold readReference? at h
  split at h
  · have := length_readNumber h; simp; omega
  · have := length_readNumber h; simp; omega
  · split at h
    · next hn =>
      have hl := length_readName hn
      simp at hl
      split at h <;> (cases h; omega)
    · cases h

/-- A character of a run. -/
inductive Piece where
  /-- Written as itself. -/
  | literal (c : Char)
  /-- Written as a reference. -/
  | referred (c : Char)
  deriving DecidableEq

/-- Takes a run apart; `behind` is the text after the run and `sofar` holds the pieces before it, the
last first. -/
def piecesFrom (behind : List Char) (sofar : List Piece) : List Char → Except Complaint (List Piece)
  | [] => .ok sofar.reverse
  | c :: cs =>
    if c = '&' then
      match _h : readReference? cs with
      | none => .error ⟨.malformedReference, c :: cs ++ behind⟩
      | some (.unknown n, _) => .error ⟨.unknownReference n, c :: cs ++ behind⟩
      | some (.char r, rest) => piecesFrom behind (.referred r :: sofar) rest
    else piecesFrom behind (.literal c :: sofar) cs
termination_by cs => cs.length
decreasing_by
  · have := length_readReference _h; simp; omega
  · simp

/-- The pieces of a run that stands before the text `behind`. -/
def pieces (behind run : List Char) : Except Complaint (List Piece) := piecesFrom behind [] run

/-- Joins the pieces of text, with `sofar` in reverse order before them. A carriage return that is
written as itself becomes a line feed, together with a line feed behind it. The character behind a
reference is taken as it is. -/
def runTextFrom (afterReference : Bool) (sofar : List Char) : List Piece → List Char
  | [] => sofar.reverse
  | .referred c :: ps => runTextFrom true (c :: sofar) ps
  | .literal c :: ps =>
    if afterReference then runTextFrom false (c :: sofar) ps
    else
      let before :=
        match sofar with
        | '\r' :: sofar => '\n' :: sofar
        | sofar => sofar
      if c = '\r' ∧ ps = [] then runTextFrom false ('\n' :: before) ps
      else if c = '\n' ∧ sofar.head? = some '\r' then runTextFrom false before ps
      else runTextFrom false (c :: before) ps

/-- The text of the pieces between two tags. -/
def runText (ps : List Piece) : List Char := runTextFrom false [] ps

/-- Joins the pieces of a value: a blank or a line end that is written as itself becomes one blank. -/
def valueText : List Piece → List Char
  | .literal '\r' :: .literal '\n' :: ps => ' ' :: valueText ps
  | .literal c :: ps => (if c = '\r' ∨ c = '\n' ∨ c = '\t' then ' ' else c) :: valueText ps
  | .referred c :: ps => c :: valueText ps
  | [] => []

end ReleaseBundle.Xml
