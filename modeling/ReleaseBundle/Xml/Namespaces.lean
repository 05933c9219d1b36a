import ReleaseBundle.Xml.Reference

/-!
# Namespaces

A start tag declares namespaces with some of its attributes and uses them with the others. Declarations
are checked as they are read, uses when the tag ends: every prefix must be in scope, and two attributes may
not have the same local name in the same namespace. The prefix `xml` is bound from the start for
attributes; for elements a `Dialect` says so, and it says which attributes are declarations.
-/

namespace ReleaseBundle.Xml

/-- A namespace that the standard itself defines. -/
def standardUri (path : String) : List Char := ("http:" ++ "//www.w3.org/" ++ path).toList

/-- The namespace of the prefix `xml`. -/
def xmlUri : List Char := standardUri "XML/1998/namespace"

/-- The namespace of declarations. -/
def declarationUri : List Char := standardUri "2000/xmlns/"

/-- The prefix and the attribute that declare namespaces. -/
def xmlns : List Char := ['x', 'm', 'l', 'n', 's']

/-- The prefix that is always bound. -/
def xml : List Char := ['x', 'm', 'l']

/-- Bindings of prefixes to namespaces. -/
abbrev Scope := List (List Char × List Char)

/-- An attribute whose value is known, with the text from the attribute on. -/
structure PlacedAttribute where
  content : Attribute
  start : List Char

/-- Whether the reader takes an attribute for one that declares a namespace. -/
def QName.declares (q : QName) : Bool := q.space == xmlns || q.localName == xmlns

/-- What one reader of documents can do otherwise than another. -/
structure Dialect where
  /-- The text that a run of characters and references stands for. -/
  text : List Piece → List Char
  /-- The prefixes that are bound from the start in the names of elements. -/
  bound : List (List Char)
  /-- Whether an attribute with this name is taken for the declaration of a namespace. -/
  declares : QName → Bool

/-- How manifests are read. -/
def Dialect.reader : Dialect where
  text := runText
  bound := []
  declares := QName.declares

/-- The bindings of a tag after one more attribute that declares one, or why it may not. -/
def declare (own : Scope) (a : PlacedAttribute) : Except Complaint Scope :=
  let q := a.content.name
  let uri := a.content.value
  if q.space = xmlns then
    if uri = declarationUri then .error ⟨.reservedUri, a.start⟩
    else if q.localName = xml then
      if uri = xmlUri then .ok own else .error ⟨.wrongXmlUri, a.start⟩
    else if uri = xmlUri then .error ⟨.xmlUriElsewhere, a.start⟩
    else if (own.lookup q.localName).isSome then .error ⟨.repeatedNamespace q.localName, a.start⟩
    else .ok ((q.localName, uri) :: own)
  else if uri = xmlUri then .error ⟨.xmlUriElsewhere, a.start⟩
  else if uri = declarationUri then .error ⟨.reservedUri, a.start⟩
  else .ok own

/-- The namespace of an attribute: none without a prefix. -/
def attributeSpace (scope : Scope) (a : PlacedAttribute) : Except Complaint (Option (List Char)) :=
  let q := a.content.name
  if q.space = [] then .ok none
  else if q.space = xml then .ok (some xmlUri)
  else
    match scope.lookup q.space with
    | some uri => .ok (some uri)
    | none => .error ⟨.unknownNamespace q.space, a.start⟩

/-- Checks the attributes of a tag in order; `seen` are the names in their namespaces so far. -/
def checkAttributes (scope : Scope) (seen : List (Option (List Char) × List Char)) :
    List PlacedAttribute → Except Complaint Unit
  | [] => .ok ()
  | a :: as =>
    match attributeSpace scope a with
    | .error e => .error e
    | .ok space =>
      let key := (space, a.content.name.localName)
      if seen.contains key then .error ⟨.repeatedAttribute a.content.name.localName, a.start⟩
      else checkAttributes scope (key :: seen) as

/-- Checks the prefix of an element whose name starts at `start`. -/
def checkElement (dialect : Dialect) (scope : Scope) (start : List Char) (q : QName) :
    Except Complaint Unit :=
  if q.space = [] ∨ q.space ∈ dialect.bound ∨ (scope.lookup q.space).isSome then .ok ()
  else .error ⟨.unknownNamespace q.space, start⟩

end ReleaseBundle.Xml
