import ReleaseBundle.Xml.Namespaces

/-!
# Reading a document

A document is an optional declaration, comments and instructions, one element, and again comments and
instructions. `readStartTag` reads a tag up to its end. `readContent` goes through the content of the
elements that are open, which it keeps as frames with the innermost first, so it needs no recursion
over the depth of the document and every step leaves less text.

The first complaint in the order of the text is the answer. A text that ends inside a start tag, right
behind a name or a value, makes the tag disappear; the document is then incomplete for another reason.
-/

namespace ReleaseBundle.Xml

/-- How a start tag ends. -/
inductive TagEnd where
  /-- The element is empty. -/
  | closed
  /-- Content follows. -/
  | opened
  deriving DecidableEq

/-- A start tag with the bindings that hold inside the element. -/
structure StartTag where
  name : QName
  attributes : List Attribute
  scope : Scope
  ending : TagEnd

/-- Reads an attribute and resolves its references. -/
def readWholeAttribute (cs : List Char) : Scanned PlacedAttribute :=
  match readAttribute cs with
  | .error e => .error e
  | .ok (a, rest) =>
    match pieces a.behind a.value with
    | .error e => .error e
    | .ok ps => .ok (⟨⟨a.name, valueText ps⟩, a.start⟩, rest)

theorem length_readWholeAttribute {cs rest : List Char} {a : PlacedAttribute}
    (h : readWholeAttribute cs = .ok (a, rest)) : rest.length < cs.length := by
  unfold readWholeAttribute at h
  split at h
  · cases h
  · next ha =>
    split at h
    · cases h
    · cases h; exact length_readAttribute ha

/-- The attributes of a tag, the last first, with the bindings they declare and the end of the tag. -/
structure TagBody where
  attributes : List PlacedAttribute
  own : Scope
  ending : TagEnd

/-- Reads the attributes and the end of a tag; `sofar` and `own` come from the attributes before.
Answers `none` if the text ends first. -/
def readTagBody (dialect : Dialect) (own : Scope) (sofar : List PlacedAttribute) :
    List Char → Scanned (Option TagBody)
  | [] => .ok (none, [])
  | c :: cs =>
    match _h : skipSpaces (c :: cs) with
    | [] => .error ⟨.unexpectedEnd, []⟩
    | '/' :: rest =>
      match expectChar '>' rest with
      | .error e => .error e
      | .ok rest => .ok (some ⟨sofar, own, .closed⟩, rest)
    | '>' :: rest => .ok (some ⟨sofar, own, .opened⟩, rest)
    | next =>
      if isSpace c = false then .error ⟨.expectedClass "a whitespace" (leadingByte c), next⟩
      else
        match _ha : readWholeAttribute next with
        | .error e => .error e
        | .ok (a, rest) =>
          if dialect.declares a.content.name then
            match declare own a with
            | .error e => .error e
            | .ok own => readTagBody dialect own (a :: sofar) rest
          else readTagBody dialect own (a :: sofar) rest
termination_by cs => cs.length
decreasing_by
  all_goals
    have h1 := length_skipSpaces (c :: cs)
    have h2 := length_readWholeAttribute _ha
    rw [_h] at h1
    omega

theorem length_readTagBody {dialect : Dialect} {own : Scope} {sofar : List PlacedAttribute}
    {cs rest : List Char} {body : Option TagBody} (h : readTagBody dialect own sofar cs = .ok (body, rest)) :
    rest.length ≤ cs.length := by
  fun_induction readTagBody dialect own sofar cs with
  | case1 => cases h; simp
  | case4 own sofar c cs rest' hs rest'' he =>
    cases h
    have h1 := length_skipSpaces (c :: cs)
    have h2 := length_expectChar he
    rw [hs] at h1
    simp at h1 ⊢
    omega
  | case5 own sofar c cs rest' hs =>
    cases h
    have h1 := length_skipSpaces (c :: cs)
    rw [hs] at h1
    simp at h1 ⊢
    omega
  | case9 =>
    next c cs _ _ rest' _ _ _ _ _ _ ha ih =>
    have h1 := length_skipSpaces (c :: cs)
    have h2 := length_readWholeAttribute ha
    have h3 := ih h
    omega
  | case10 =>
    next c cs _ _ rest' _ _ _ _ ha ih =>
    have h1 := length_skipSpaces (c :: cs)
    have h2 := length_readWholeAttribute ha
    have h3 := ih h
    omega
  | _ => cases h

/-- The tag of an element whose name starts at `start`: all prefixes have to be in scope. -/
def finishTag (dialect : Dialect) (outer : Scope) (start : List Char) (q : QName) (body : TagBody) :
    Except Complaint StartTag :=
  let scope := body.own ++ outer
  let attributes := body.attributes.reverse
  match checkAttributes scope [] (attributes.filter fun a => !dialect.declares a.content.name) with
  | .error e => .error e
  | .ok () =>
    match checkElement dialect scope start q with
    | .error e => .error e
    | .ok () => .ok ⟨q, attributes.map PlacedAttribute.content, scope, body.ending⟩

/-- Reads a start tag; the text begins with `<`. -/
def readStartTag (dialect : Dialect) (outer : Scope) (cs : List Char) : Scanned (Option StartTag) :=
  match readQName (cs.drop 1) with
  | .error e => .error e
  | .ok (q, rest) =>
    if q.space = xmlns then .error ⟨.reservedPrefix, cs.drop 1⟩
    else
      match readTagBody dialect [] [] rest with
      | .error e => .error e
      | .ok (none, rest) => .ok (none, rest)
      | .ok (some body, rest) =>
        match finishTag dialect outer (cs.drop 1) q body with
        | .error e => .error e
        | .ok tag => .ok (some tag, rest)

theorem length_readStartTag {dialect : Dialect} {outer : Scope} {c : Char} {cs rest : List Char}
    {tag : Option StartTag} (h : readStartTag dialect outer (c :: cs) = .ok (tag, rest)) :
    rest.length < (c :: cs).length := by
  unfold readStartTag at h
  split at h
  · cases h
  · next hq =>
    have h1 := length_readQName hq
    simp at h1
    split at h
    · cases h
    · split at h
      · cases h
      · next hb =>
        cases h
        have h2 := length_readTagBody hb
        simp
        omega
      · next hb =>
        split at h
        · cases h
        · cases h
          have h2 := length_readTagBody hb
          simp
          omega

/-- An element whose end has not come yet; its children so far are kept with the last first. -/
structure Frame where
  name : QName
  attributes : List Attribute
  scope : Scope
  children : List Node

namespace Frame

/-- The element once it is complete. -/
def node (f : Frame) : Node := .element f.name f.attributes f.children.reverse

def push (f : Frame) (n : Node) : Frame := { f with children := n :: f.children }

end Frame

/-- The frame of an element that was just opened. -/
def StartTag.frame (t : StartTag) : Frame := ⟨t.name, t.attributes, t.scope, []⟩

/-- What begins in the content of an element. -/
inductive Beginning where
  | comment
  | cdata
  | instruction
  | closing
  | opening
  | text
  | nothing
  deriving DecidableEq

/-- What the first characters of a content announce. -/
def beginning : List Char → Beginning
  | '<' :: '!' :: cs =>
    if begins ['-', '-'] cs then .comment
    else if begins ['[', 'C', 'D', 'A', 'T', 'A', '['] cs then .cdata
    else .nothing
  | '<' :: '?' :: _ => .instruction
  | '<' :: '/' :: _ => .closing
  | ['<'] => .nothing
  | '<' :: _ :: _ => .opening
  | _ => .text

theorem ne_of_beginning_text {c : Char} {cs : List Char} (h : beginning (c :: cs) = .text) :
    c ≠ '<' := by
  rintro rfl
  cases cs with
  | nil => simp [beginning] at h
  | cons d ds =>
    unfold beginning at h
    split at h <;> try cases h
    · split at h
      · cases h
      · split at h <;> cases h
    all_goals simp_all

/-- Reads on inside the element `top`, with the elements around it in `below`, to the end of the
outermost one. -/
def readContent (dialect : Dialect) (top : Frame) (below : List Frame) : List Char → Scanned Node
  | [] => .error ⟨.rootNotClosed, []⟩
  | c :: cs =>
    match _hb : beginning (c :: cs) with
    | .nothing => .error ⟨.unknownToken, c :: cs⟩
    | .comment =>
      match _h : readComment (c :: cs) with
      | .error e => .error e
      | .ok (n, rest) => readContent dialect (top.push n) below rest
    | .cdata =>
      match _h : readCData (c :: cs) with
      | .error e => .error e
      | .ok (run, rest) => readContent dialect (top.push (.text (dialect.text (run.map .literal)))) below rest
    | .instruction =>
      match _h : readInstruction (c :: cs) with
      | .error e => .error e
      | .ok (n, rest) => readContent dialect (top.push n) below rest
    | .closing =>
      match _h : readClosingTag (c :: cs) with
      | .error e => .error e
      | .ok (q, rest) =>
        if q ≠ top.name then .error ⟨.mismatchedTag top.name q, c :: cs⟩
        else
          match below with
          | [] => .ok (top.node, rest)
          | outer :: below => readContent dialect (outer.push top.node) below rest
    | .opening =>
      match _h : readStartTag dialect top.scope (c :: cs) with
      | .error e => .error e
      | .ok (none, _) => .error ⟨.rootNotClosed, []⟩
      | .ok (some tag, rest) =>
        match tag.ending with
        | .closed => readContent dialect (top.push tag.frame.node) below rest
        | .opened => readContent dialect tag.frame (top :: below) rest
    | .text =>
      match _h : readText (c :: cs) with
      | .error e => .error e
      | .ok (run, rest) =>
        match pieces rest run with
        | .error e => .error e
        | .ok ps => readContent dialect (top.push (.text (dialect.text ps))) below rest
termination_by cs => cs.length
decreasing_by
  · exact length_readComment _h
  · exact length_readCData _h
  · exact length_readInstruction _h
  · exact length_readClosingTag _h
  · exact length_readStartTag _h
  · exact length_readStartTag _h
  · exact length_readText (ne_of_beginning_text _hb) _h

/-- Passes over blanks, comments and instructions. -/
def skipMisc (cs : List Char) : Except Complaint (List Char) :=
  match _hcs : skipSpaces cs with
  | '<' :: '!' :: '-' :: '-' :: _ =>
    match _h : readComment (skipSpaces cs) with
    | .error e => .error e
    | .ok (_, rest) => skipMisc rest
  | '<' :: '?' :: _ =>
    match _h : readInstruction (skipSpaces cs) with
    | .error e => .error e
    | .ok (_, rest) => skipMisc rest
  | rest => .ok rest
termination_by cs.length
decreasing_by
  all_goals
    have h1 := length_skipSpaces cs
    rw [_hcs] at _h h1
  · have := length_readComment _h; omega
  · have := length_readInstruction _h; omega

/-- Reads the blank that has to follow an attribute of the declaration, unless the declaration or the
text ends. -/
def declarationSpace (cs : List Char) : Except Complaint (List Char) :=
  match cs with
  | [] => .ok []
  | c :: _ =>
    if isSpace c then .ok (skipSpaces cs)
    else if begins ['?', '>'] cs then .ok cs
    else .error ⟨.expectedClass "a whitespace" (leadingByte c), cs⟩

/-- Reads the declaration at the start of a document; its values are not looked at. -/
def skipDeclaration (cs : List Char) : Except Complaint (List Char) := do
  let cs := skipSpaces (cs.drop 5)
  if !begins "version".toList cs then throw ⟨.expectedText "version", cs⟩
  let (_, cs) ← readAttribute cs
  let cs ← declarationSpace cs
  let cs ←
    if begins "encoding".toList cs then do
      let (_, cs) ← readAttribute cs
      declarationSpace cs
    else pure cs
  let cs ←
    if begins "standalone".toList cs then do
      let (_, cs) ← readAttribute cs
      pure cs
    else pure cs
  expectText "?>" (skipSpaces cs)

/-- Passes over the declaration, if there is one. -/
def skipProlog (cs : List Char) : Except Complaint (List Char) :=
  if begins ['<', '?', 'x', 'm', 'l', ' '] cs then skipDeclaration cs else .ok cs

/-- Reads the outermost element. -/
def readRoot (dialect : Dialect) (cs : List Char) : Scanned Node :=
  match readStartTag dialect [] cs with
  | .error e => .error e
  | .ok (none, _) => .error ⟨.noRoot, []⟩
  | .ok (some tag, rest) =>
    match tag.ending with
    | .closed => .ok (tag.frame.node, rest)
    | .opened => readContent dialect tag.frame [] rest

/-- Reads a document behind its byte order mark. -/
def readDocument (dialect : Dialect) (cs : List Char) : Except Complaint Node := do
  let cs ← skipProlog cs
  let cs ← skipMisc cs
  if begins "<!DOCTYPE".toList cs then throw ⟨.declaresType, cs⟩
  match cs with
  | '<' :: _ =>
    let (root, cs) ← readRoot dialect cs
    match ← skipMisc cs with
    | [] => return root
    | cs => throw ⟨.unknownToken, cs⟩
  | [] => throw ⟨.noRoot, []⟩
  | cs => throw ⟨.unknownToken, cs⟩

/-- The root element of a document in a dialect. A byte order mark at the start is passed over. -/
def parseAs (dialect : Dialect) (text : List Char) : Except Error Node :=
  let body :=
    match text with
    | '\uFEFF' :: cs => cs
    | cs => cs
  (readDocument dialect body).mapError fun c => c.locate text

/-- What makes the root element of a text. -/
abbrev Parser := List Char → Except Error Node

/-- The parser of manifests. -/
def parse : Parser := parseAs .reader

end ReleaseBundle.Xml
