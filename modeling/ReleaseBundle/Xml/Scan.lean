import ReleaseBundle.Xml.Alphabet
import ReleaseBundle.Xml.Problem

/-!
# Pieces of a document

The scanners in this module read one piece from the front of a text and answer what it says together
with the text behind it. None of them looks at what the pieces mean; references in text and in values
are left as they are written. Each comes with the fact that it leaves less text than it got, which is
why reading a document ends.
-/

namespace ReleaseBundle.Xml

/-- The answer of a scanner that started at some text. -/
abbrev Scanned (α : Type) := Except Complaint (α × List Char)

def skipSpaces (cs : List Char) : List Char := cs.dropWhile isSpace

/-- Reads one given character. -/
def expectChar (wanted : Char) : List Char → Except Complaint (List Char)
  | [] => .error ⟨.unexpectedEnd, []⟩
  | c :: cs =>
    if c = wanted then .ok cs else .error ⟨.expectedChar wanted (leadingByte c), c :: cs⟩

/-- Reads a fixed piece of text. -/
def expectText (wanted : String) (cs : List Char) : Except Complaint (List Char) :=
  if wanted.toList.isPrefixOf cs then .ok (cs.drop wanted.toList.length)
  else .error ⟨.expectedText wanted, cs⟩

/-- Reads on to the first place where `stop` holds of the text, or to the end; `sofar` is what was
read before, the last first. -/
def charsFrom (stop : List Char → Bool) (sofar : List Char) : List Char → Scanned (List Char)
  | [] => .ok (sofar.reverse, [])
  | c :: cs =>
    if isChar c = false then .error ⟨.nonXmlChar c, c :: cs⟩
    else if stop (c :: cs) then .ok (sofar.reverse, c :: cs)
    else charsFrom stop (c :: sofar) cs

/-- Reads the characters before the first place where `stop` holds of the text. -/
def charsUntil (stop : List Char → Bool) (cs : List Char) : Scanned (List Char) :=
  charsFrom stop [] cs

/-- Whether a text begins with the given piece. -/
def begins (piece cs : List Char) : Bool := piece.isPrefixOf cs

/-- Reads a name, which may hold colons. -/
def readName (cs : List Char) : Scanned (List Char) :=
  match cs with
  | [] => .error ⟨.invalidName, []⟩
  | c :: _ =>
    if isNameStart c then .ok (cs.takeWhile isNameChar, cs.dropWhile isNameChar)
    else .error ⟨.invalidName, cs⟩

/-- The prefix and the local part of a name that holds at most one colon. -/
def splitName (cs : List Char) : QName :=
  if cs.contains ':' then
    ⟨cs.takeWhile (· ≠ ':'), (cs.dropWhile (· ≠ ':')).drop 1⟩
  else ⟨[], cs⟩

/-- Whether both parts of a name may stand where they stand. -/
def QName.isValid (q : QName) : Bool :=
  q.space.head?.all isNameStart && q.localName.head?.any isNameStart

/-- Reads a name with at most one colon. -/
def readQName (cs : List Char) : Scanned QName :=
  let run := cs.takeWhile isNameChar
  if 1 < run.count ':' then .error ⟨.invalidName, cs⟩
  else if (splitName run).isValid then .ok (splitName run, cs.dropWhile isNameChar)
  else .error ⟨.invalidName, cs⟩

/-- An attribute as it is written. -/
structure WrittenAttribute where
  name : QName
  value : List Char
  /-- The text from the attribute on. -/
  start : List Char
  /-- The text from the closing quote on. -/
  behind : List Char

/-- Reads a quoted value. -/
def readValue (cs : List Char) : Except Complaint (List Char × List Char × List Char) :=
  match cs with
  | [] => .error ⟨.unexpectedEnd, []⟩
  | q :: rest =>
    if q = '"' ∨ q = '\'' then
      match charsUntil (fun t => t.head? == some q || t.head? == some '<') rest with
      | .error e => .error e
      | .ok (value, behind) =>
        match expectChar q behind with
        | .error e => .error e
        | .ok rest => .ok (value, behind, rest)
    else .error ⟨.expectedClass "a quote" (leadingByte q), cs⟩

/-- Reads an attribute. -/
def readAttribute (cs : List Char) : Scanned WrittenAttribute :=
  match readQName cs with
  | .error e => .error e
  | .ok (q, rest) =>
    match expectChar '=' (skipSpaces rest) with
    | .error e => .error e
    | .ok rest =>
      match readValue (skipSpaces rest) with
      | .error e => .error e
      | .ok (value, behind, rest) => .ok (⟨q, value, cs, behind⟩, rest)

/-- Reads a comment; the text begins with its mark. -/
def readComment (cs : List Char) : Scanned Node :=
  match charsUntil (begins ['-', '-', '>']) (cs.drop 4) with
  | .error e => .error e
  | .ok (content, rest) =>
    match expectText "-->" rest with
    | .error e => .error e
    | .ok rest =>
      if Text.occurs ['-', '-'] content || content.getLast? == some '-' then .error ⟨.commentDashes, cs⟩
      else .ok (.comment content, rest)

/-- Reads a processing instruction; the text begins with its mark. -/
def readInstruction (cs : List Char) : Scanned Node :=
  if begins ['<', '?', 'x', 'm', 'l', ' '] cs then .error ⟨.misplacedDeclaration, cs⟩
  else
    match readName (cs.drop 2) with
    | .error e => .error e
    | .ok (target, rest) =>
      match charsUntil (begins ['?', '>']) (skipSpaces rest) with
      | .error e => .error e
      | .ok (content, rest) =>
        match expectText "?>" rest with
        | .error e => .error e
        | .ok rest => .ok (.instruction target content, rest)

/-- Reads a section whose text holds no markup; the text begins with its mark. -/
def readCData (cs : List Char) : Scanned (List Char) :=
  match charsUntil (begins [']', ']', '>']) (cs.drop 9) with
  | .error e => .error e
  | .ok (content, rest) =>
    match expectText "]]>" rest with
    | .error e => .error e
    | .ok rest => .ok (content, rest)

/-- Reads text up to the next markup. -/
def readText (cs : List Char) : Scanned (List Char) :=
  match charsUntil (fun t => t.head? == some '<') cs with
  | .error e => .error e
  | .ok (content, rest) =>
    if Text.occurs [']', ']', '>'] content then .error ⟨.textBrackets, rest⟩ else .ok (content, rest)

/-- Reads the tag that closes an element; the text begins with its mark. -/
def readClosingTag (cs : List Char) : Scanned QName :=
  match readQName (cs.drop 2) with
  | .error e => .error e
  | .ok (q, rest) =>
    match expectChar '>' (skipSpaces rest) with
    | .error e => .error e
    | .ok rest => .ok (q, rest)

/-! ## What is left is shorter -/

theorem length_dropWhile_le (p : Char → Bool) (cs : List Char) :
    (cs.dropWhile p).length ≤ cs.length := (List.dropWhile_sublist p).length_le

theorem length_skipSpaces (cs : List Char) : (skipSpaces cs).length ≤ cs.length :=
  length_dropWhile_le _ _

theorem length_expectChar {wanted : Char} {cs rest : List Char}
    (h : expectChar wanted cs = .ok rest) : rest.length < cs.length := by
  unfold expectChar at h
  split at h
  · cases h
  · split at h
    · cases h; simp
    · cases h

theorem length_expectText {wanted : String} {cs rest : List Char}
    (h : expectText wanted cs = .ok rest) : rest.length ≤ cs.length := by
  unfold expectText at h
  split at h
  · cases h; simp
  · cases h

theorem length_charsFrom {stop : List Char → Bool} {sofar cs content rest : List Char}
    (h : charsFrom stop sofar cs = .ok (content, rest)) : rest.length ≤ cs.length := by
  induction cs generalizing sofar with
  | nil => cases h; simp
  | cons c cs ih =>
    unfold charsFrom at h
    split at h
    · cases h
    · split at h
      · cases h; simp
      · have := ih h
        simp
        omega

theorem length_charsUntil {stop : List Char → Bool} {cs content rest : List Char}
    (h : charsUntil stop cs = .ok (content, rest)) : rest.length ≤ cs.length := length_charsFrom h

theorem length_readName {cs n rest : List Char} (h : readName cs = .ok (n, rest)) :
    rest.length ≤ cs.length := by
  unfold readName at h
  split at h
  · cases h
  · split at h
    · cases h; exact length_dropWhile_le _ _
    · cases h

theorem length_readQName {cs rest : List Char} {q : QName} (h : readQName cs = .ok (q, rest)) :
    rest.length ≤ cs.length := by
  simp only [readQName] at h
  split at h
  · cases h
  · split at h
    · cases h; exact length_dropWhile_le _ _
    · cases h

theorem length_readValue {cs value behind rest : List Char}
    (h : readValue cs = .ok (value, behind, rest)) : rest.length < cs.length := by
  unfold readValue at h
  split at h
  · cases h
  · split at h
    · split at h
      · cases h
      · next hv =>
        split at h
        · cases h
        · next hq =>
          cases h
          have h1 := length_charsUntil hv
          have h2 := length_expectChar hq
          simp
          omega
    · cases h

theorem length_readAttribute {cs rest : List Char} {a : WrittenAttribute}
    (h : readAttribute cs = .ok (a, rest)) : rest.length < cs.length := by
  unfold readAttribute at h
  split at h
  · cases h
  · next r hq =>
    split at h
    · cases h
    · next r' he =>
      split at h
      · cases h
      · next hv =>
        cases h
        have h1 := length_readQName hq
        have h2 := length_skipSpaces r
        have h3 := length_expectChar he
        have h4 := length_skipSpaces r'
        have h5 := length_readValue hv
        omega

theorem length_readComment {c : Char} {cs rest : List Char} {n : Node}
    (h : readComment (c :: cs) = .ok (n, rest)) : rest.length < (c :: cs).length := by
  unfold readComment at h
  split at h
  · cases h
  · next hc =>
    split at h
    · cases h
    · next ht =>
      split at h
      · cases h
      · cases h
        have h1 := length_charsUntil hc
        have h2 := length_expectText ht
        simp at h1 ⊢
        omega

theorem length_readInstruction {c : Char} {cs rest : List Char} {n : Node}
    (h : readInstruction (c :: cs) = .ok (n, rest)) : rest.length < (c :: cs).length := by
  unfold readInstruction at h
  split at h
  · cases h
  · split at h
    · cases h
    · next r hn =>
      split at h
      · cases h
      · next hc =>
        split at h
        · cases h
        · next ht =>
          cases h
          have h1 := length_readName hn
          have h2 := length_skipSpaces r
          have h3 := length_charsUntil hc
          have h4 := length_expectText ht
          simp at h1 ⊢
          omega

theorem length_readCData {c : Char} {cs content rest : List Char}
    (h : readCData (c :: cs) = .ok (content, rest)) : rest.length < (c :: cs).length := by
  unfold readCData at h
  split at h
  · cases h
  · next hc =>
    split at h
    · cases h
    · next ht =>
      cases h
      have h1 := length_charsUntil hc
      have h2 := length_expectText ht
      simp at h1 ⊢
      omega

theorem length_readText {c : Char} {cs content rest : List Char} (hc : c ≠ '<')
    (h : readText (c :: cs) = .ok (content, rest)) : rest.length < (c :: cs).length := by
  unfold readText at h
  split at h
  · cases h
  · next ht =>
    split at h
    · cases h
    · cases h
      unfold charsUntil charsFrom at ht
      split at ht
      · cases ht
      · have hs : charsFrom (fun t => t.head? == some '<') [c] cs = .ok (content, rest) := by
          simpa [hc] using ht
        have := length_charsFrom hs
        simp
        omega

theorem length_readClosingTag {c : Char} {cs rest : List Char} {q : QName}
    (h : readClosingTag (c :: cs) = .ok (q, rest)) : rest.length < (c :: cs).length := by
  unfold readClosingTag at h
  split at h
  · cases h
  · next r hq =>
    split at h
    · cases h
    · next he =>
      cases h
      have h1 := length_readQName hq
      have h2 := length_skipSpaces r
      have h3 := length_expectChar he
      simp at h1 ⊢
      omega

end ReleaseBundle.Xml
