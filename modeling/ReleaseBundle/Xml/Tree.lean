/-!
# Documents as trees

A document is read as its root element. Of names only prefix and local part are kept, of attributes
the name and the value with all references resolved. Text keeps the pieces in which it was written, so
a piece of CDATA beside plain text is a node of its own; `directText` joins them.
-/

namespace ReleaseBundle.Xml

/-- A name with its prefix, which is empty if there is none. -/
structure QName where
  space : List Char
  localName : List Char
  deriving DecidableEq, Inhabited

/-- The name as it is written in messages. -/
def QName.text (q : QName) : String :=
  if q.space = [] then String.ofList q.localName
  else String.ofList (q.space ++ ':' :: q.localName)

/-- An attribute with its value. -/
structure Attribute where
  name : QName
  value : List Char
  deriving DecidableEq

/-- What an element can hold, and the element itself. -/
inductive Node where
  | element (name : QName) (attributes : List Attribute) (children : List Node)
  | text (content : List Char)
  | comment (content : List Char)
  | instruction (target content : List Char)
  deriving Inhabited

namespace Node

/-- The text of a list of nodes, without what stands inside elements. -/
def directText : List Node → List Char
  | [] => []
  | text content :: ns => content ++ directText ns
  | _ :: ns => directText ns

mutual

/-- The children of the first element with the given local name, in document order; an element comes
before what it holds. -/
def findNamed? (wanted : List Char) : Node → Option (List Node)
  | element name _ children =>
    if name.localName = wanted then some children else findNamedAmong? wanted children
  | text _ => none
  | comment _ => none
  | instruction _ _ => none

/-- The same among the nodes of a list. -/
def findNamedAmong? (wanted : List Char) : List Node → Option (List Node)
  | [] => none
  | n :: ns =>
    match findNamed? wanted n with
    | some children => some children
    | none => findNamedAmong? wanted ns

end

end Node

end ReleaseBundle.Xml
