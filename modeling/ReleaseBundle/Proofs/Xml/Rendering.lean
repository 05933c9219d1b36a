import ReleaseBundle.Xml.Namespaces

/-!
# Renderings of a document

One tree can be written down in many ways. `Renders rules root text` says that `text` is a document
without a type declaration whose tree is `root`: any character may be written as itself, as a reference
or in a section of CDATA, comments and instructions may stand anywhere, and prefixes may be declared
wherever the standard lets them be. The relations follow the productions of the grammar, one constructor
for each form, and say nothing about how a text is read.

A tree holds its text in one node as far as no other node comes between, however that text is written.
`joined` brings a tree that keeps the written pieces into this form.

The reader departs from the standard in three places, and the relations take them from `Rules`:
`standardRules` are what the standard says, `readerRules` what the reader does, and `commonRules` what both
say. Everything else is shared.
-/

namespace ReleaseBundle.Xml

/-! ## Line ends -/

namespace Piece

/-- The character that a piece stands for. -/
def char : Piece → Char
  | literal c => c
  | referred c => c

/-- The character that a piece stands for in the value of an attribute: blanks that are written as
themselves are all alike. -/
def valueChar : Piece → Char
  | literal c => if isSpace c then ' ' else c
  | referred c => c

end Piece

/-- The line ends of a run. A carriage return that is written as itself is a line feed, together with a
line feed behind it. -/
def lineEnds : List Piece → List Piece
  | .literal '\r' :: .literal '\n' :: ps => .literal '\n' :: lineEnds ps
  | .literal '\r' :: ps => .literal '\n' :: lineEnds ps
  | p :: ps => p :: lineEnds ps
  | [] => []

/-- The text that a run stands for. -/
def standardText (ps : List Piece) : List Char := (lineEnds ps).map Piece.char

/-- The value that a run stands for. -/
def standardValue (ps : List Piece) : List Char := (lineEnds ps).map Piece.valueChar

/-- The text of a piece of markup in which references mean nothing. -/
def settled (written : List Char) : List Char := standardText (written.map .literal)

/-- The line ends of a run as the reader takes them. A carriage return stays as it is in front of a
reference, and behind a reference if the run ends there. -/
def keptEnds (afterReference : Bool) : List Piece → List Piece
  | .literal '\r' :: .literal '\n' :: ps => .literal '\n' :: keptEnds false ps
  | .literal '\r' :: .referred c :: ps => .literal '\r' :: .referred c :: keptEnds true ps
  | [.literal '\r'] => if afterReference then [.literal '\r'] else [.literal '\n']
  | .literal '\r' :: ps => .literal '\n' :: keptEnds false ps
  | .literal c :: ps => .literal c :: keptEnds false ps
  | .referred c :: ps => .referred c :: keptEnds true ps
  | [] => []

/-- The text that a run stands for to the reader. -/
def keptText (ps : List Piece) : List Char := (keptEnds false ps).map Piece.char

/-! ## Trees -/

/-- Nodes with text in front of them, which joins the text that they begin with. -/
def textBefore (content : List Char) : List Node → List Node
  | .text more :: ns => .text (content ++ more) :: ns
  | ns => if content = [] then ns else .text content :: ns

mutual

/-- A node with adjacent text joined and the line ends of comments and instructions settled. -/
def Node.joined : Node → Node
  | .element q attributes children => .element q attributes (joinedNodes children)
  | .text content => .text content
  | .comment content => .comment (settled content)
  | .instruction target content => .instruction target (settled content)

/-- The same for the nodes of a list; no text is left out of it and no node of text is empty. -/
def joinedNodes : List Node → List Node
  | [] => []
  | .text content :: ns => textBefore content (joinedNodes ns)
  | n :: ns => n.joined :: joinedNodes ns

end

/-! ## Where the reader departs from the standard -/

/-- What the standard and the reader do not have in common. -/
structure Rules where
  /-- The text that a run of characters and references stands for. -/
  text : List Piece → List Char
  /-- The runs that may be written in the content of an element. -/
  admitsRun : List Piece → Bool
  /-- The prefixes that the name of an element may have without a declaration. -/
  undeclared : List (List Char)
  /-- The attributes that may be written. -/
  admits : Attribute → Bool

def standardRules : Rules where
  text := standardText
  admitsRun _ := true
  undeclared := [xml]
  admits _ := true

/-- Whether an attribute in some namespace has the local name `xmlns` and one of the values that no
namespace may be declared with. The reader takes it for a declaration. -/
def Attribute.seemsReserved (a : Attribute) : Bool :=
  a.name.space ≠ [] && a.name.space ≠ xmlns && a.name.localName = xmlns &&
    (a.value = xmlUri || a.value = declarationUri)

def readerRules : Rules where
  text := keptText
  admitsRun _ := true
  undeclared := []
  admits a := !a.seemsReserved

/-- Whether every carriage return of a run that is written as itself becomes a line feed to the reader as
well: none stands in front of a reference, or behind a reference at the end of the run. -/
def settlesReturns (afterReference : Bool) : List Piece → Bool
  | .literal '\r' :: .referred _ :: _ => false
  | [.literal '\r'] => !afterReference
  | .literal _ :: ps => settlesReturns false ps
  | .referred _ :: ps => settlesReturns true ps
  | [] => true

/-- What the standard and the reader agree on. -/
def commonRules : Rules where
  text := standardText
  admitsRun := settlesReturns false
  undeclared := []
  admits a := !a.seemsReserved

/-! ## Characters, references and names -/

/-- How a character is written as a reference. -/
inductive Refers : Char → List Char → Prop
  | decimal {c : Char} {digits : List Char} (hsome : digits ≠ []) (hdigits : ∀ d ∈ digits, d.isDigit = true)
      (hnumber : numberOf 10 digits = c.toNat) (hchar : isChar c = true) :
      Refers c ('&' :: '#' :: digits ++ [';'])
  | hexadecimal {c : Char} {digits : List Char} (hsome : digits ≠ [])
      (hdigits : ∀ d ∈ digits, isHexDigit d = true) (hnumber : numberOf 16 digits = c.toNat)
      (hchar : isChar c = true) : Refers c ('&' :: '#' :: 'x' :: digits ++ [';'])
  | named {c : Char} {name : List Char} (hname : (name, c) ∈ predefined) : Refers c ('&' :: name ++ [';'])

/-- How a run of characters and references is written. -/
inductive RendersRun : List Piece → List Char → Prop
  | nil : RendersRun [] []
  | literal {c : Char} {ps : List Piece} {cs : List Char} (hchar : isChar c = true) (htag : c ≠ '<')
      (hreference : c ≠ '&') (hmore : RendersRun ps cs) : RendersRun (.literal c :: ps) (c :: cs)
  | reference {c : Char} {ps : List Piece} {cs ds : List Char} (hrefers : Refers c cs)
      (hmore : RendersRun ps ds) : RendersRun (.referred c :: ps) (cs ++ ds)

/-- A name, which may hold colons. -/
structure IsName (cs : List Char) : Prop where
  first : cs.head?.any isNameStart = true
  all : ∀ c ∈ cs, isNameChar c = true

instance (cs : List Char) : Decidable (IsName cs) :=
  decidable_of_iff (cs.head?.any isNameStart = true ∧ ∀ c ∈ cs, isNameChar c = true)
    ⟨fun h => ⟨h.1, h.2⟩, fun h => ⟨h.first, h.all⟩⟩

/-- The text of a name. -/
def QName.written (q : QName) : List Char :=
  if q.space = [] then q.localName else q.space ++ ':' :: q.localName

/-- Both parts of the name are names without a colon; the prefix may be missing. -/
structure QName.Proper (q : QName) : Prop where
  space : q.space ≠ [] → IsName q.space ∧ ':' ∉ q.space
  localName : IsName q.localName ∧ ':' ∉ q.localName

instance (q : QName) : Decidable q.Proper :=
  decidable_of_iff ((q.space ≠ [] → IsName q.space ∧ ':' ∉ q.space) ∧ IsName q.localName ∧ ':' ∉ q.localName)
    ⟨fun h => ⟨h.1, h.2⟩, fun h => ⟨h.space, h.localName⟩⟩

/-- Nothing but blanks. -/
def Blank (cs : List Char) : Prop := ∀ c ∈ cs, isSpace c = true

instance (cs : List Char) : Decidable (Blank cs) := inferInstanceAs (Decidable (∀ c ∈ cs, isSpace c = true))

/-- One or more blanks. -/
structure Gap (cs : List Char) : Prop where
  some : cs ≠ []
  blank : Blank cs

instance (cs : List Char) : Decidable (Gap cs) :=
  decidable_of_iff (cs ≠ [] ∧ Blank cs) ⟨fun h => ⟨h.1, h.2⟩, fun h => ⟨h.some, h.blank⟩⟩

/-! ## Tags -/

/-- How an attribute is written. -/
inductive RendersAttribute : Attribute → List Char → Prop
  | quoted {q : QName} {ps : List Piece} {before after value : List Char} {quote : Char}
      (hname : q.Proper) (hbefore : Blank before) (hafter : Blank after)
      (hquote : quote = '"' ∨ quote = '\'') (hrun : RendersRun ps value) (hvalue : quote ∉ value) :
      RendersAttribute ⟨q, standardValue ps⟩
        (q.written ++ before ++ '=' :: after ++ quote :: value ++ [quote])

/-- How the attributes of a tag are written. -/
inductive RendersAttributes : List Attribute → List Char → Prop
  | nil : RendersAttributes [] []
  | cons {a : Attribute} {as : List Attribute} {gap cs ds : List Char} (hgap : Gap gap)
      (hfirst : RendersAttribute a cs) (hmore : RendersAttributes as ds) :
      RendersAttributes (a :: as) (gap ++ cs ++ ds)

namespace Attribute

/-- Whether an attribute declares a namespace, for a prefix or for names without one. -/
def isDeclaration (a : Attribute) : Bool := a.name.space = xmlns || a.name = ⟨[], xmlns⟩

/-- The prefix and the namespace that an attribute binds. -/
def binding? (a : Attribute) : Option (List Char × List Char) :=
  if a.name.space = xmlns ∧ a.name.localName ≠ xml then some (a.name.localName, a.value) else none

/-- The name of an attribute with its namespace in place of its prefix. -/
def expandedName (scope : Scope) (a : Attribute) : Option (List Char) × List Char :=
  (if a.name.space = [] then none
    else if a.name.space = xml then some xmlUri
    else scope.lookup a.name.space, a.name.localName)

/-- The prefix of an attribute has a namespace. -/
def Bound (scope : Scope) (a : Attribute) : Prop :=
  a.name.space = [] ∨ a.name.space = xml ∨ (scope.lookup a.name.space).isSome

instance (scope : Scope) (a : Attribute) : Decidable (a.Bound scope) :=
  inferInstanceAs (Decidable (_ ∨ _ ∨ _))

/-- What a declaration may say: the two namespaces of the standard belong to their own prefixes, of which
only `xml` may be declared. Undeclaring a prefix is let through. -/
structure MayDeclare (a : Attribute) : Prop where
  noPrefix : a.name.localName = xmlns → a.name.space = []
  declarations : a.value ≠ declarationUri
  onlyXml : a.name.space = xmlns ∧ a.name.localName = xml ↔ a.value = xmlUri

instance (a : Attribute) : Decidable a.MayDeclare :=
  decidable_of_iff ((a.name.localName = xmlns → a.name.space = []) ∧ a.value ≠ declarationUri ∧
      (a.name.space = xmlns ∧ a.name.localName = xml ↔ a.value = xmlUri))
    ⟨fun h => ⟨h.1, h.2.1, h.2.2⟩, fun h => ⟨h.noPrefix, h.declarations, h.onlyXml⟩⟩

end Attribute

/-- The bindings that the attributes of a tag declare. -/
def bindings (attributes : List Attribute) : Scope := (attributes.filterMap Attribute.binding?).reverse

/-- What a tag has to satisfy; `scope` holds inside the element. -/
structure ProperTag (rules : Rules) (scope : Scope) (q : QName) (attributes : List Attribute) : Prop where
  name : q.Proper
  noDeclaration : q.space ≠ xmlns
  bound : q.space = [] ∨ q.space ∈ rules.undeclared ∨ (scope.lookup q.space).isSome
  distinct : (attributes.map Attribute.name).Nodup
  declarations : ∀ a ∈ attributes, a.isDeclaration = true → a.MayDeclare
  attributesBound : ∀ a ∈ attributes, a.isDeclaration = false → a.Bound scope
  expandedDistinct :
    ((attributes.filter fun a => !a.isDeclaration).map (Attribute.expandedName scope)).Nodup
  admitted : ∀ a ∈ attributes, rules.admits a = true

instance (rules : Rules) (scope : Scope) (q : QName) (as : List Attribute) :
    Decidable (ProperTag rules scope q as) :=
  decidable_of_iff (q.Proper ∧ q.space ≠ xmlns ∧
      (q.space = [] ∨ rules.undeclared.contains q.space = true ∨ (scope.lookup q.space).isSome) ∧
      (as.map Attribute.name).Nodup ∧ (∀ a ∈ as, a.isDeclaration = true → a.MayDeclare) ∧
      (∀ a ∈ as, a.isDeclaration = false → a.Bound scope) ∧
      ((as.filter fun a => !a.isDeclaration).map (Attribute.expandedName scope)).Nodup ∧
      ∀ a ∈ as, rules.admits a = true)
    ⟨fun h => ⟨h.1, h.2.1, h.2.2.1.imp_right (Or.imp_left List.contains_iff_mem.1), h.2.2.2.1, h.2.2.2.2.1,
        h.2.2.2.2.2.1, h.2.2.2.2.2.2.1, h.2.2.2.2.2.2.2⟩,
      fun h => ⟨h.name, h.noDeclaration, h.bound.imp_right (Or.imp_left List.contains_iff_mem.2), h.distinct,
        h.declarations, h.attributesBound, h.expandedDistinct, h.admitted⟩⟩

/-- How the inside of a tag is written. -/
inductive RendersTag (rules : Rules) (scope : Scope) : QName → List Attribute → List Char → Prop
  | tag {q : QName} {attributes : List Attribute} {cs blanks : List Char}
      (hproper : ProperTag rules scope q attributes) (hattributes : RendersAttributes attributes cs)
      (hblanks : Blank blanks) : RendersTag rules scope q attributes (q.written ++ cs ++ blanks)

/-! ## Comments, instructions and sections -/

/-- How a comment is written. -/
inductive RendersComment : Node → List Char → Prop
  | comment {written : List Char} (hchars : ∀ c ∈ written, isChar c = true)
      (hdashes : ¬ ['-', '-'] <:+: written) (hlast : written.getLast? ≠ some '-') :
      RendersComment (.comment (settled written)) (['<', '!', '-', '-'] ++ written ++ ['-', '-', '>'])

/-- The target of an instruction: any name but that of the declaration. -/
structure IsTarget (target : List Char) : Prop where
  name : IsName target
  notXml : target.map Text.lowerChar ≠ xml

instance (target : List Char) : Decidable (IsTarget target) :=
  decidable_of_iff (IsName target ∧ target.map Text.lowerChar ≠ xml)
    ⟨fun h => ⟨h.1, h.2⟩, fun h => ⟨h.name, h.notXml⟩⟩

/-- How an instruction is written. -/
inductive RendersInstruction : Node → List Char → Prop
  | bare {target : List Char} (htarget : IsTarget target) :
      RendersInstruction (.instruction target []) (['<', '?'] ++ target ++ ['?', '>'])
  | full {target gap written : List Char} (htarget : IsTarget target) (hgap : Gap gap)
      (hchars : ∀ c ∈ written, isChar c = true) (hfirst : written.head?.any isSpace = false)
      (hmark : ¬ ['?', '>'] <:+: written) :
      RendersInstruction (.instruction target (settled written))
        (['<', '?'] ++ target ++ gap ++ written ++ ['?', '>'])

/-- How a section of CDATA with the given characters is written. -/
inductive RendersSection : List Char → List Char → Prop
  | cdata {written : List Char} (hchars : ∀ c ∈ written, isChar c = true)
      (hmark : ¬ [']', ']', '>'] <:+: written) :
      RendersSection written
        (['<', '!', '[', 'C', 'D', 'A', 'T', 'A', '['] ++ written ++ [']', ']', '>'])

/-! ## Elements and documents -/

mutual

/-- How an element is written; `outer` are the bindings around it. -/
inductive RendersElement (rules : Rules) : Scope → Node → List Char → Prop
  | empty {outer : Scope} {q : QName} {attributes : List Attribute} {tag : List Char}
      (htag : RendersTag rules (bindings attributes ++ outer) q attributes tag) :
      RendersElement rules outer (.element q attributes []) ('<' :: tag ++ ['/', '>'])
  | filled {outer : Scope} {q : QName} {attributes : List Attribute} {children : List Node}
      {tag content blanks : List Char}
      (htag : RendersTag rules (bindings attributes ++ outer) q attributes tag)
      (hcontent : RendersContent rules (bindings attributes ++ outer) true children content)
      (hblanks : Blank blanks) :
      RendersElement rules outer (.element q attributes children)
        ('<' :: tag ++ '>' :: content ++ '<' :: '/' :: q.written ++ blanks ++ ['>'])

/-- How the content of an element is written. The flag tells whether a run of text may begin here: two
runs never meet. -/
inductive RendersContent (rules : Rules) : Scope → Bool → List Node → List Char → Prop
  | done {scope : Scope} {mayRun : Bool} : RendersContent rules scope mayRun [] []
  | run {scope : Scope} {ps : List Piece} {run : List Char} {ns : List Node} {more : List Char}
      (hsome : run ≠ []) (hrun : RendersRun ps run) (hmark : ¬ [']', ']', '>'] <:+: run)
      (hadmitted : rules.admitsRun ps = true) (hmore : RendersContent rules scope false ns more) :
      RendersContent rules scope true (textBefore (rules.text ps) ns) (run ++ more)
  | cdata {scope : Scope} {mayRun : Bool} {written cs : List Char} {ns : List Node} {more : List Char}
      (hsection : RendersSection written cs) (hmore : RendersContent rules scope true ns more) :
      RendersContent rules scope mayRun (textBefore (rules.text (written.map .literal)) ns) (cs ++ more)
  | comment {scope : Scope} {mayRun : Bool} {n : Node} {cs : List Char} {ns : List Node}
      {more : List Char} (hcomment : RendersComment n cs)
      (hmore : RendersContent rules scope true ns more) :
      RendersContent rules scope mayRun (n :: ns) (cs ++ more)
  | instruction {scope : Scope} {mayRun : Bool} {n : Node} {cs : List Char} {ns : List Node}
      {more : List Char} (hinstruction : RendersInstruction n cs)
      (hmore : RendersContent rules scope true ns more) :
      RendersContent rules scope mayRun (n :: ns) (cs ++ more)
  | element {scope : Scope} {mayRun : Bool} {n : Node} {cs : List Char} {ns : List Node}
      {more : List Char} (helement : RendersElement rules scope n cs)
      (hmore : RendersContent rules scope true ns more) :
      RendersContent rules scope mayRun (n :: ns) (cs ++ more)

end

/-- What may stand before and behind the outermost element. -/
inductive RendersMisc : List Char → Prop
  | done : RendersMisc []
  | blank {c : Char} {more : List Char} (hblank : isSpace c = true) (hmore : RendersMisc more) :
      RendersMisc (c :: more)
  | comment {n : Node} {cs more : List Char} (hcomment : RendersComment n cs)
      (hmore : RendersMisc more) : RendersMisc (cs ++ more)
  | instruction {n : Node} {cs more : List Char} (hinstruction : RendersInstruction n cs)
      (hmore : RendersMisc more) : RendersMisc (cs ++ more)

/-- How one setting of the declaration is written. -/
inductive RendersSetting (name value : List Char) : List Char → Prop
  | setting {gap before after : List Char} {quote : Char} (hgap : Gap gap) (hbefore : Blank before)
      (hafter : Blank after) (hquote : quote = '"' ∨ quote = '\'') :
      RendersSetting name value (gap ++ name ++ before ++ '=' :: after ++ quote :: value ++ [quote])

def settingVersion : List Char := ['v', 'e', 'r', 's', 'i', 'o', 'n']
def settingEncoding : List Char := ['e', 'n', 'c', 'o', 'd', 'i', 'n', 'g']
def settingStandalone : List Char := ['s', 't', 'a', 'n', 'd', 'a', 'l', 'o', 'n', 'e']

/-- The versions that a declaration may state. -/
def IsVersionNumber (value : List Char) : Prop :=
  ∃ digits, value = '1' :: '.' :: digits ∧ digits ≠ [] ∧ ∀ d ∈ digits, d.isDigit = true

/-- The characters of the name of an encoding. -/
def isEncodingChar (c : Char) : Bool := c.isAlphanum || c == '.' || c == '_' || c == '-'

/-- The encodings that a declaration may state. -/
def IsEncodingName (value : List Char) : Prop :=
  value.head?.any Char.isAlpha = true ∧ ∀ c ∈ value, isEncodingChar c = true

/-- How the declaration is written: the version, and perhaps two more settings. -/
inductive RendersDeclaration : List Char → Prop
  | declaration {number version encoding standalone blanks : List Char} (hnumber : IsVersionNumber number)
      (hversion : RendersSetting settingVersion number version)
      (hencoding : encoding = [] ∨
        ∃ name, IsEncodingName name ∧ RendersSetting settingEncoding name encoding)
      (hstandalone : standalone = [] ∨ ∃ answer, (answer = ['y', 'e', 's'] ∨ answer = ['n', 'o']) ∧
        RendersSetting settingStandalone answer standalone)
      (hblanks : Blank blanks) :
      RendersDeclaration (['<', '?', 'x', 'm', 'l'] ++ version ++ encoding ++ standalone ++ blanks ++
        ['?', '>'])

/-- How a document with the given outermost element is written. -/
inductive Renders (rules : Rules) : Node → List Char → Prop
  | document {root : Node} {declaration before cs after : List Char}
      (hdeclaration : declaration = [] ∨ RendersDeclaration declaration) (hbefore : RendersMisc before)
      (hroot : RendersElement rules [] root cs) (hafter : RendersMisc after) :
      Renders rules root (declaration ++ before ++ cs ++ after)

end ReleaseBundle.Xml
