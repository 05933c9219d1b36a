import ReleaseBundle.Xml.Tree
import ReleaseBundle.Bytes.Text

/-!
# What can be wrong with a document

A reader that meets a problem knows only the text it has not read yet, so a `Complaint` carries that
text. `Complaint.locate` turns its length into a row and a column of the whole document, and
`Problem.message` words the problem for that position. Some problems have no position.
-/

namespace ReleaseBundle.Xml

/-- A place in a text; rows and columns count from one, and a column is one character. -/
structure Position where
  row : Nat
  column : Nat
  deriving DecidableEq, Repr

namespace Position

def text (p : Position) : String := toString p.row ++ ":" ++ toString p.column

/-- The position after the given text. -/
def after (read : List Char) : Position :=
  ⟨1 + read.count '\n', 1 + (read.reverse.takeWhile (· ≠ '\n')).length⟩

end Position

/-- What is wrong. -/
inductive Problem where
  | unexpectedEnd
  | declaresType
  | noRoot
  | rootNotClosed
  | invalidName
  | nonXmlChar (c : Char)
  /-- A single character had to come. -/
  | expectedChar (wanted found : Char)
  /-- A fixed piece of text had to come. -/
  | expectedText (wanted : String)
  /-- A character of some class had to come. -/
  | expectedClass (wanted : String) (found : Char)
  | unknownToken
  | misplacedDeclaration
  | commentDashes
  | textBrackets
  | malformedReference
  | unknownReference (name : List Char)
  | reservedPrefix
  | reservedUri
  | wrongXmlUri
  | xmlUriElsewhere
  | repeatedNamespace (space : List Char)
  | unknownNamespace (space : List Char)
  | repeatedAttribute (name : List Char)
  | mismatchedTag (opened closed : QName)
  deriving DecidableEq

/-- A problem and the text that was left when it was met. -/
structure Complaint where
  problem : Problem
  rest : List Char
  deriving DecidableEq

/-- The character that the first byte of a character denotes in a one-byte alphabet. -/
def leadingByte (c : Char) : Char :=
  match Text.encodeChar c with
  | b :: _ => Char.ofNat b.toNat
  | [] => c

/-- A character between quotes, with the form of an escape where it cannot be shown. -/
def quoted (c : Char) : String :=
  if c = '\x00' then "'\\0'"
  else
    let digits := String.ofList (Nat.toDigits 16 c.toNat)
    "'\\u\x7b" ++ digits ++ "\x7d'"

namespace Problem

/-- The wording of a problem at a position. -/
def message (at_ : Position) : Problem → String
  | unexpectedEnd => "unexpected end of stream"
  | declaresType => "XML with DTD detected"
  | noRoot => "the document does not have a root node"
  | rootNotClosed => "the root node was opened but never closed"
  | invalidName => "invalid name token at " ++ at_.text
  | nonXmlChar c => "a non-XML character " ++ quoted c ++ " found at " ++ at_.text
  | expectedChar wanted found =>
    "expected '" ++ wanted.toString ++ "' not '" ++ found.toString ++ "' at " ++ at_.text
  | expectedText wanted => "expected '" ++ wanted ++ "' at " ++ at_.text
  | expectedClass wanted found =>
    "expected " ++ wanted ++ " not '" ++ found.toString ++ "' at " ++ at_.text
  | unknownToken => "unknown token at " ++ at_.text
  | misplacedDeclaration => "unexpected XML declaration at " ++ at_.text
  | commentDashes => "comment at " ++ at_.text ++ " contains '--'"
  | textBrackets => "']]>' at " ++ at_.text ++ " is not allowed inside a character data"
  | malformedReference => "malformed entity reference at " ++ at_.text
  | unknownReference name =>
    "unknown entity reference '" ++ String.ofList name ++ "' at " ++ at_.text
  | reservedPrefix => "the 'xmlns' prefix is used at " ++ at_.text ++ ", but it must not be"
  | reservedUri => "the 'xmlns' URI is used at " ++ at_.text ++ ", but it must not be declared"
  | wrongXmlUri => "'xml' namespace prefix mapped to wrong URI at " ++ at_.text
  | xmlUriElsewhere =>
    "the 'xml' namespace URI is used for not 'xml' prefix at " ++ at_.text
  | repeatedNamespace space =>
    "namespace '" ++ String.ofList space ++ "' at " ++ at_.text ++ " is already defined"
  | unknownNamespace space =>
    "an unknown namespace prefix '" ++ String.ofList space ++ "' at " ++ at_.text
  | repeatedAttribute name =>
    "attribute '" ++ String.ofList name ++ "' at " ++ at_.text ++ " is already defined"
  | mismatchedTag opened closed =>
    "expected '" ++ opened.text ++ "' tag, not '" ++ closed.text ++ "' at " ++ at_.text

end Problem

/-- A problem in a document, with its place. -/
structure Error where
  problem : Problem
  position : Position
  deriving DecidableEq

def Error.message (e : Error) : String := e.problem.message e.position

/-- The place of a complaint in the whole text. -/
def Complaint.locate (c : Complaint) (document : List Char) : Error :=
  ⟨c.problem, .after (document.take (document.length - c.rest.length))⟩

end ReleaseBundle.Xml
