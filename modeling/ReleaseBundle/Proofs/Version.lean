import ReleaseBundle.Disk.Difference
import ReleaseBundle.Manifest
import ReleaseBundle.Proofs.Bytes.Encoding
import ReleaseBundle.Proofs.Xml.Agreement
import ReleaseBundle.Proofs.Xml.Document
import Mathlib.Data.List.Basic

/-!
# The version that a manifest declares

`declaredVersion` says which version a document tree declares: the trimmed text of the first `Version`
element in document order, refused if it is empty or has a separator. The main result is that a manifest
file gives the version that its tree declares, however the tree is written down, to every parser that
makes the tree of a document that is written by the standard. The parser of manifests departs from the
standard in three places, and gives the version that is declared wherever it does not. The last section
writes down one project in which the version is in pieces.
-/

namespace ReleaseBundle.Xml.Node

mutual

/-- The elements of a tree in document order, each with its local name and its children. -/
def elements : Node → List (List Char × List Node)
  | element name _ children => (name.localName, children) :: elementsAmong children
  | text _ => []
  | comment _ => []
  | instruction _ _ => []

/-- The same for the trees of a list. -/
def elementsAmong : List Node → List (List Char × List Node)
  | [] => []
  | n :: ns => elements n ++ elementsAmong ns

end

/-- The text of a node that is text itself. -/
def text? : Node → Option (List Char)
  | text content => some content
  | _ => none

mutual

/-- The first element that is found is the first in document order. -/
theorem findNamed?_eq_find? (wanted : List Char) (n : Node) :
    findNamed? wanted n = (n.elements.find? fun e => e.1 = wanted).map Prod.snd := by
  cases n with
  | element q attributes children =>
    rw [findNamed?, elements, List.find?_cons]
    by_cases hname : q.localName = wanted
    · simp [hname]
    · simp only [hname, if_false, decide_false]
      exact findNamedAmong?_eq_find? wanted children
  | text content => rfl
  | comment content => rfl
  | instruction target content => rfl

theorem findNamedAmong?_eq_find? (wanted : List Char) (ns : List Node) :
    findNamedAmong? wanted ns = ((elementsAmong ns).find? fun e => e.1 = wanted).map Prod.snd := by
  cases ns with
  | nil => rfl
  | cons n ns =>
    have hfirst := findNamed?_eq_find? wanted n
    have hothers := findNamedAmong?_eq_find? wanted ns
    rw [findNamedAmong?, elementsAmong, List.find?_append, hfirst, hothers]
    cases n.elements.find? fun e => e.1 = wanted <;> rfl

end

theorem directText_eq_flatten (ns : List Node) : directText ns = (ns.filterMap text?).flatten := by
  induction ns with
  | nil => rfl
  | cons n ns ih =>
    cases n with
    | text content => simp [directText, text?, ih]
    | element => exact ih
    | comment => exact ih
    | instruction => exact ih

end ReleaseBundle.Xml.Node

namespace ReleaseBundle.Manifest

/-- The version that a document tree declares. -/
def declaredVersion (path : Path) (root : Xml.Node) : Except ManifestFailure String :=
  match root.elements.find? fun e => e.1 = versionElement with
  | none => .error (.versionNotFound path)
  | some (_, children) =>
    let version := Text.trim (children.filterMap Xml.Node.text?).flatten
    if version = [] then .error (.versionEmpty path)
    else if '/' ∈ version ∨ '\\' ∈ version then .error (.unusableVersion path (String.ofList version))
    else .ok (String.ofList version)

theorem any_isSeparator_iff (version : List Char) :
    version.any Text.isSeparator = true ↔ '/' ∈ version ∨ '\\' ∈ version := by
  simp only [List.any_eq_true, Text.isSeparator, Bool.or_eq_true, beq_iff_eq]
  constructor
  · rintro ⟨c, hc, rfl | rfl⟩
    · exact .inl hc
    · exact .inr hc
  · rintro (h | h)
    · exact ⟨_, h, .inl rfl⟩
    · exact ⟨_, h, .inr rfl⟩

theorem versionOf_eq_declaredVersion (path : Path) (root : Xml.Node) :
    versionOf path root = declaredVersion path root := by
  unfold versionOf declaredVersion
  rw [Xml.Node.findNamed?_eq_find?]
  cases root.elements.find? fun e => e.1 = versionElement with
  | none => rfl
  | some found =>
    simp only [Option.map_some, Xml.Node.directText_eq_flatten, any_isSeparator_iff]

/-- The version does not depend on how the text of the document is cut into pieces. -/
theorem versionOf_joined (path : Path) (root : Xml.Node) :
    versionOf path root.joined = versionOf path root := by
  unfold versionOf
  rw [Xml.findNamed?_joined]
  cases root.findNamed? versionElement with
  | none => rfl
  | some children => simp only [Option.map_some, Xml.directText_joinedNodes]

theorem readVersionBy_result (parse : Xml.Parser) (path : Path) (d : Disk) :
    (readVersionBy parse path d).result = findVersionBy parse d path := by
  simp only [readVersionBy, bind, Job.bind, Job.inspect]
  cases findVersionBy parse d path <;> rfl

theorem readVersion_result (path : Path) (d : Disk) : (readVersion path d).result = findVersion d path :=
  readVersionBy_result Xml.parse path d

theorem readVersion_found {path : Path} {d : Disk} {version : String} (h : findVersion d path = .ok version) :
    readVersion path d = ⟨d, [], [.logged (.versionRead version path)], .ok version⟩ := by
  rw [findVersion] at h
  simp [readVersion, readVersionBy, bind, Job.bind, Job.inspect, Job.log, Job.report, pure, Job.pure, h]

theorem readVersion_failed {path : Path} {d : Disk} {x : ManifestFailure} (h : findVersion d path = .error x) :
    readVersion path d = ⟨d, [], [], .error x⟩ := by
  rw [findVersion] at h
  simp [readVersion, readVersionBy, bind, Job.bind, Job.inspect, h]

/-- The parser makes the tree of every document that is written by the rules, where it may keep the pieces of
adjacent text apart. What it makes of other texts does not matter. -/
def Conforms (rules : Xml.Rules) (parse : Xml.Parser) : Prop :=
  ∀ root text, Xml.Renders rules root text → ∃ m : Xml.Node, m.joined = root ∧ parse text = .ok m

theorem parseAs_conforms {dialect : Xml.Dialect} {rules : Xml.Rules} (hknows : dialect.Knows rules) :
    Conforms rules (Xml.parseAs dialect) :=
  fun _ _ htext => Xml.parseAs_rendered hknows htext

section File

variable {rules : Xml.Rules} {parse : Xml.Parser} {d : Disk} {path : Path} {root : Xml.Node}
  {mark text : List Char}

/-- A file whose document is written by some rules gives the version of its tree to a parser that conforms to
these rules. -/
theorem findVersionBy_rendered (hparse : Conforms rules parse) (hmark : mark = [] ∨ mark = ['\uFEFF'])
    (htext : Xml.Renders rules root text) (hfile : d.contentsOf path = .ok (Text.encode (mark ++ text))) :
    findVersionBy parse d path = declaredVersion path root := by
  obtain ⟨m, hm, hmade⟩ := hparse root text htext
  have hbody : withoutMark (mark ++ text) = text := by
    rcases hmark with rfl | rfl
    · obtain ⟨c, more, rfl, hc⟩ := htext.exists_cons
      rw [List.nil_append, withoutMark]
      exact fun cs heq => hc (List.cons.inj heq).1
    · rfl
  have hread : readText d path = .ok (mark ++ text) := by
    simp only [readText, hfile, Text.decode?_encode_text]
  calc findVersionBy parse d path = versionOf path m := by simp only [findVersionBy, hread, hbody, hmade]
    _ = versionOf path m.joined := (versionOf_joined path m).symm
    _ = declaredVersion path root := by rw [hm, versionOf_eq_declaredVersion]

/-- A manifest file gives the version that its document tree declares, wherever it stands in the tree and
however the tree is written by the rules of the standard, with or without a byte order mark, if the parser
conforms to the standard. -/
theorem declared_version_read (hparse : Conforms Xml.standardRules parse)
    (hmark : mark = [] ∨ mark = ['\uFEFF']) (htext : Xml.Renders Xml.standardRules root text)
    (hfile : d.contentsOf path = .ok (Text.encode (mark ++ text))) :
    (readVersionBy parse path d).result = declaredVersion path root := by
  rw [readVersionBy_result]
  exact findVersionBy_rendered hparse hmark htext hfile

/-- The parser of manifests gives the declared version of a document that is written by its own rules, or by
those of the standard apart from the three places in which it departs from them. -/
theorem readVersion_rendered (hmark : mark = [] ∨ mark = ['\uFEFF'])
    (htext : Xml.Renders Xml.commonRules root text ∨ Xml.Renders Xml.readerRules root text)
    (hfile : d.contentsOf path = .ok (Text.encode (mark ++ text))) :
    (readVersion path d).result = declaredVersion path root := by
  have hreader : Xml.Renders Xml.readerRules root text := by
    rcases htext with hcommon | hreader
    · exact hcommon.mono Xml.commonRules_within_readerRules
    · exact hreader
  rw [readVersion_result]
  exact findVersionBy_rendered (parseAs_conforms Xml.Dialect.reader_knows) hmark hreader hfile

end File

/-! ## A version in pieces -/

/-- The local name of the element with the version. -/
def versionName : List Char := ['V', 'e', 'r', 's', 'i', 'o', 'n']

/-- A project in which the version has a prefix, an element inside and another version behind it. -/
def pieced : Xml.Node :=
  .element ⟨['p'], ['P']⟩ [⟨⟨Xml.xmlns, ['p']⟩, ['u']⟩]
    [.element ⟨['p'], versionName⟩ []
        [.text ['1', '.'], .comment ['x'], .text ['4', '.', '0'], .element ⟨[], ['B']⟩ [] [.text ['9']],
          .text [' ']],
      .element ⟨[], versionName⟩ [] [.text ['2']]]

/-- The same project with a reference and a section inside the version. -/
def piecedText : List Char :=
  ["<?xml version=\"1.0\"?>", "<p:P xmlns:p=\"u\">", "<p:Version>1.", "<!--x-->", "&#x34;", "<![CDATA[.0]]>",
    "<B>9</B> ", "</p:Version>", "<Version>2</Version>", "</p:P>"].flatMap String.toList

/-- A run of characters that are all written as themselves. -/
theorem rendersRun_literals (cs : List Char) (h : ∀ c ∈ cs, Xml.isRunChar c = true ∧ c ≠ '&') :
    Xml.RendersRun (cs.map .literal) cs := by
  induction cs with
  | nil => exact .nil
  | cons c cs ih =>
    obtain ⟨hrun, hreference⟩ := h c (by simp)
    obtain ⟨hchar, htag⟩ := Bool.and_eq_true_iff.1 hrun
    exact .literal hchar (by simpa using htag) hreference (ih fun d hd => h d (List.mem_cons_of_mem _ hd))

section Pieces

variable {scope : Xml.Scope} {ns : List Xml.Node} {cs : List Char}

theorem rendersContent_literals (run : List Char)
    (hmore : Xml.RendersContent Xml.commonRules scope false ns cs) (hsome : run ≠ [])
    (hchars : ∀ c ∈ run, Xml.isRunChar c = true ∧ c ≠ '&') (hmark : ¬ [']', ']', '>'] <:+: run) :
    Xml.RendersContent Xml.commonRules scope true
      (Xml.textBefore (Xml.standardText (run.map .literal)) ns) (run ++ cs) :=
  .run hsome (rendersRun_literals run hchars) hmark (Xml.settlesReturns_literals run) hmore

theorem rendersElement_bare (q : Xml.QName)
    (hcontent : Xml.RendersContent Xml.commonRules scope true ns cs)
    (hproper : Xml.ProperTag Xml.commonRules scope q []) :
    Xml.RendersElement Xml.commonRules scope (.element q [] ns)
      ('<' :: (q.written ++ [] ++ []) ++ '>' :: cs ++ '<' :: '/' :: q.written ++ [] ++ ['>']) := by
  have hnone : Xml.Blank [] := by decide
  exact .filled (.tag hproper .nil hnone) hcontent hnone

end Pieces

theorem renders_pieced : Xml.Renders Xml.commonRules pieced piecedText := by
  let scope : Xml.Scope := [(['p'], ['u'])]
  have hnone : Xml.Blank [] := by decide
  have hgap : Xml.Gap [' '] := by decide
  have hdeclaration := Xml.RendersDeclaration.declaration ⟨['0'], rfl, by decide, by decide⟩
    (.setting hgap hnone hnone (.inl rfl)) (.inl rfl) (.inl rfl) hnone
  have hdone : Xml.RendersContent Xml.commonRules scope false [] [] := .done
  have hinner := rendersElement_bare ⟨[], ['B']⟩
    (rendersContent_literals ['9'] hdone (by decide) (by decide) (by decide)) (by decide)
  have hblank := rendersContent_literals [' '] hdone (by decide) (by decide) (by decide)
  have hsection : Xml.RendersSection ['.', '0'] _ := .cdata (by decide) (by decide)
  have hdigit : Xml.Refers '4' ('&' :: '#' :: 'x' :: ['3', '4'] ++ [';']) :=
    .hexadecimal (by decide) (by decide) (by decide) (by decide)
  have hreference : Xml.RendersRun [.referred '4'] _ := .reference hdigit .nil
  have hcomment := @Xml.RendersComment.comment ['x'] (by decide) (by decide) (by decide)
  have hpieces := rendersContent_literals ['1', '.']
    (.comment hcomment (.run (by decide) hreference (by decide) (by decide)
      (.cdata hsection (.element hinner hblank)))) (by decide) (by decide) (by decide)
  have hversion := rendersElement_bare ⟨['p'], versionName⟩ hpieces (by decide)
  have hlater := rendersElement_bare ⟨[], versionName⟩
    (rendersContent_literals ['2'] hdone (by decide) (by decide) (by decide)) (by decide)
  have hbinding : Xml.RendersAttribute ⟨⟨Xml.xmlns, ['p']⟩, ['u']⟩ _ :=
    .quoted (by decide) hnone hnone (.inl rfl) (rendersRun_literals ['u'] (by decide)) (by decide)
  have htag : Xml.RendersTag Xml.commonRules scope ⟨['p'], ['P']⟩ [⟨⟨Xml.xmlns, ['p']⟩, ['u']⟩] _ :=
    .tag (by decide) (.cons hgap hbinding .nil) hnone
  have hroot := @Xml.RendersElement.filled Xml.commonRules [] ⟨['p'], ['P']⟩ [⟨⟨Xml.xmlns, ['p']⟩, ['u']⟩]
    _ _ _ _ htag (.element hversion (.element hlater .done)) hnone
  have hdocument := Xml.Renders.document (.inr hdeclaration) .done hroot .done
  -- The pieces are in the order of the text, so that it remains to join them.
  refine Eq.subst (motive := Xml.Renders Xml.commonRules pieced) ?_ hdocument
  decide +kernel

/-- A disk with the project in the file `m`, behind a byte order mark. -/
def piecedDisk : Disk :=
  Disk.placeFile (Disk.locationOf (.ofString "m"))
    { content := Text.encode (['\uFEFF'] ++ piecedText), mode := 0o644 } .empty

/-- The version is `1.4.0` to a parser by the standard, and to the parser of manifests. -/
theorem pieced_version_read :
    Conforms Xml.standardRules (Xml.parseAs .standard) ∧
      Xml.Renders Xml.standardRules pieced piecedText ∧
      piecedDisk.contentsOf (.ofString "m") = .ok (Text.encode (['\uFEFF'] ++ piecedText)) ∧
      (readVersionBy (Xml.parseAs .standard) (.ofString "m") piecedDisk).result = .ok "1.4.0" ∧
      (readVersion (.ofString "m") piecedDisk).result = .ok "1.4.0" := by
  have hconforms := parseAs_conforms Xml.Dialect.standard_knows
  have htext := renders_pieced.mono Xml.commonRules_within_standardRules
  have hfile : piecedDisk.contentsOf (.ofString "m") = .ok (Text.encode (['\uFEFF'] ++ piecedText)) := by
    decide +kernel
  have hdeclared : declaredVersion (.ofString "m") pieced = .ok "1.4.0" := by decide +kernel
  have hread := declared_version_read hconforms (.inr rfl) htext hfile
  have hown := readVersion_rendered (.inr rfl) (.inl renders_pieced) hfile
  exact ⟨hconforms, htext, hfile, hread.trans hdeclared, hown.trans hdeclared⟩

end ReleaseBundle.Manifest
