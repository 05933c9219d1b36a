import ReleaseBundle.Proofs.Xml.References
import ReleaseBundle.Xml.Reader

/-!
# Reading tags

A tag is read back in every dialect that knows the rules it is written by, with its name, its attributes in
order and the bindings that hold inside the element. The attributes are read one after another, so what has to hold
of the bindings so far is carried along as `Declarable`; the uses of prefixes are checked at the end, when
all bindings of the tag are known.
-/

namespace ReleaseBundle.Xml

/-- Whatever is written by the rules has to this dialect the meaning that the rules give it. -/
structure Dialect.Knows (dialect : Dialect) (rules : Rules) : Prop where
  text : ∀ ps, dialect.text ps = rules.text ps
  bound : ∀ p ∈ rules.undeclared, p ∈ dialect.bound
  declarations : ∀ a : Attribute, a.isDeclaration = true → dialect.declares a.name = true
  /-- What is taken for a declaration and is none does no harm. -/
  harmless : ∀ a : Attribute, rules.admits a = true → dialect.declares a.name = true →
    a.isDeclaration = true ∨ a.value ≠ xmlUri ∧ a.value ≠ declarationUri

variable {rest : List Char} {dialect : Dialect} {rules : Rules}

/-! ## Attributes -/

/-- Blanks in front of a text that does not go on with a name do not either. -/
theorem Blank.stop {blanks : List Char} (hblank : Blank blanks) (hstop : rest.head?.any isNameChar = false) :
    (blanks ++ rest).head?.any isNameChar = false := by
  cases blanks with
  | nil => exact hstop
  | cons c blanks => simpa using isNameChar_of_isSpace (hblank c (by simp))

theorem isSpace_quote {quote : Char} (h : quote = '"' ∨ quote = '\'') : isSpace quote = false := by
  rcases h with rfl | rfl <;> decide

theorem readValue_quoted {quote : Char} {value : List Char} (hquote : quote = '"' ∨ quote = '\'')
    (hchars : ∀ c ∈ value, isRunChar c = true) (hvalue : quote ∉ value) :
    readValue (quote :: (value ++ quote :: rest)) = .ok (value, quote :: rest, rest) := by
  have hchar : isChar quote = true := by rcases hquote with rfl | rfl <;> decide
  have hon : ∀ s, s ≠ [] → s <:+ value →
      ((s ++ quote :: rest).head? == some quote || (s ++ quote :: rest).head? == some '<') = false := by
    intro s hsome hsuffix
    obtain ⟨c, more, rfl⟩ := List.exists_cons_of_ne_nil hsome
    have hmem : c ∈ value := hsuffix.subset (by simp)
    have hnoQuote : c ≠ quote := fun heq => hvalue (heq ▸ hmem)
    have hnoTag : c ≠ '<' := by simpa using (Bool.and_eq_true_iff.1 (hchars c hmem)).2
    simp [hnoQuote, hnoTag]
  have hxml : ∀ c ∈ value, isChar c = true := fun c hc => (Bool.and_eq_true_iff.1 (hchars c hc)).1
  have huntil := charsUntil_append (fun t => t.head? == some quote || t.head? == some '<') hxml hchar
    (by simp) hon
  rw [readValue, if_pos hquote]
  simp only [huntil, expectChar, if_true]

theorem readAttribute_quoted {q : QName} {before after value : List Char} {quote : Char}
    (hname : q.Proper) (hbefore : Blank before) (hafter : Blank after) (hquote : quote = '"' ∨ quote = '\'')
    (hchars : ∀ c ∈ value, isRunChar c = true) (hvalue : quote ∉ value) (rest : List Char) :
    readAttribute (q.written ++ (before ++ '=' :: (after ++ quote :: (value ++ quote :: rest)))) =
      .ok (⟨q, value, q.written ++ (before ++ '=' :: (after ++ quote :: (value ++ quote :: rest))),
        quote :: rest⟩, rest) := by
  have hread := readQName_written hname (before ++ '=' :: (after ++ quote :: (value ++ quote :: rest)))
    (hbefore.stop (by simp; decide))
  have hequal : skipSpaces (before ++ '=' :: (after ++ quote :: (value ++ quote :: rest))) =
      '=' :: (after ++ quote :: (value ++ quote :: rest)) := skipSpaces_append hbefore (by simp; decide)
  have hskip : skipSpaces (after ++ quote :: (value ++ quote :: rest)) = quote :: (value ++ quote :: rest) :=
    skipSpaces_append hafter (by simpa using isSpace_quote hquote)
  simp only [readAttribute, hread, hequal, expectChar, if_true, hskip, readValue_quoted hquote hchars hvalue]

/-- An attribute is read with its value. -/
theorem readWholeAttribute_written {a : Attribute} {cs : List Char} (h : RendersAttribute a cs)
    (rest : List Char) :
    ∃ placed : PlacedAttribute, placed.content = a ∧ readWholeAttribute (cs ++ rest) = .ok (placed, rest) := by
  obtain @⟨q, ps, before, after, value, quote, hname, hbefore, hafter, hquote, hrun, hvalue⟩ := h
  have htext : q.written ++ before ++ '=' :: after ++ quote :: value ++ [quote] ++ rest =
      q.written ++ (before ++ '=' :: (after ++ quote :: (value ++ quote :: rest))) := by simp
  have hread := readAttribute_quoted hname hbefore hafter hquote hrun.all_isRunChar hvalue rest
  rw [htext]
  refine ⟨⟨⟨q, standardValue ps⟩, q.written ++ (before ++ '=' :: (after ++ quote :: (value ++ quote :: rest)))⟩,
    rfl, ?_⟩
  simp only [readWholeAttribute, hread, pieces_rendered hrun, valueText_eq_standardValue]

theorem RendersAttribute.exists_cons {a : Attribute} {cs : List Char} (h : RendersAttribute a cs) :
    ∃ c more, cs = c :: more ∧ isNameStart c = true := by
  obtain @⟨q, ps, before, after, value, quote, hname, hbefore, hafter, hquote, hrun, hvalue⟩ := h
  obtain ⟨c, more, hcons, hc⟩ := hname.exists_cons
  exact ⟨c, _, by rw [hcons]; rfl, hc⟩

/-! ## Declarations -/

/-- The attributes may come behind those that declared the given bindings. -/
structure Declarable (dialect : Dialect) (own : Scope) (attributes : List Attribute) : Prop where
  declarations : ∀ a ∈ attributes, a.isDeclaration = true → a.MayDeclare
  harmless : ∀ a ∈ attributes, dialect.declares a.name = true →
    a.isDeclaration = true ∨ a.value ≠ xmlUri ∧ a.value ≠ declarationUri
  distinct : (attributes.map Attribute.name).Nodup
  fresh : ∀ a ∈ attributes, a.name.space = xmlns → own.lookup a.name.localName = none

theorem Declarable.tail {own : Scope} {a : Attribute} {as : List Attribute}
    (h : Declarable dialect own (a :: as)) : Declarable dialect (a.binding?.toList ++ own) as := by
  have hdistinct : a.name ∉ as.map Attribute.name ∧ (as.map Attribute.name).Nodup := by
    simpa using h.distinct
  constructor
  · exact fun b hb => h.declarations b (List.mem_cons_of_mem _ hb)
  · exact fun b hb => h.harmless b (List.mem_cons_of_mem _ hb)
  · exact hdistinct.2
  · intro b hb hspace
    have hold := h.fresh b (List.mem_cons_of_mem _ hb) hspace
    unfold Attribute.binding?
    split
    · next hbinds =>
      -- another declaration of the same prefix would have the same name
      have hne : b.name.localName ≠ a.name.localName := by
        intro heq
        have hname : b.name = a.name := by
          cases hb' : b.name
          cases ha' : a.name
          simp_all
        exact hdistinct.1 (hname ▸ List.mem_map_of_mem hb)
      have hother : (b.name.localName == a.name.localName) = false := by simpa using hne
      simp [List.lookup_cons, hold, hother]
    · simpa using hold

/-- A declaration that may be made is made. -/
theorem declare_declarable {own : Scope} {placed : PlacedAttribute} {as : List Attribute}
    (h : Declarable dialect own (placed.content :: as))
    (hdeclares : dialect.declares placed.content.name = true) :
    declare own placed = .ok (placed.content.binding?.toList ++ own) := by
  generalize hcontent : placed.content = a at h hdeclares ⊢
  simp only [declare, hcontent, Attribute.binding?]
  by_cases hspace : a.name.space = xmlns
  · obtain ⟨-, hnoDeclaration, hxml⟩ := h.declarations a (by simp) (by simp [Attribute.isDeclaration, hspace])
    rw [if_pos hspace, if_neg hnoDeclaration]
    by_cases hlocal : a.name.localName = xml
    · have huri : a.value = xmlUri := hxml.1 ⟨hspace, hlocal⟩
      simp [hlocal, huri]
    · have huri : a.value ≠ xmlUri := fun huri => hlocal (hxml.2 huri).2
      have hfresh := h.fresh a (by simp) hspace
      simp [hspace, hlocal, huri, hfresh]
  · have huris : a.value ≠ xmlUri ∧ a.value ≠ declarationUri := by
      rcases h.harmless a (by simp) hdeclares with hdeclaration | hharmless
      · obtain ⟨-, hnoDeclaration, hxml⟩ := h.declarations a (by simp) hdeclaration
        exact ⟨fun huri => hspace (hxml.2 huri).1, hnoDeclaration⟩
      · exact hharmless
    simp [hspace, huris.1, huris.2]

theorem bindings_cons (a : Attribute) (as : List Attribute) :
    bindings (a :: as) = bindings as ++ a.binding?.toList := by
  unfold bindings
  cases hbinding : a.binding? with
  | none => simp [hbinding]
  | some binding => simp [hbinding]

theorem binding?_of_not_declaration {a : Attribute} (h : a.isDeclaration = false) : a.binding? = none := by
  have hspace : a.name.space ≠ xmlns := by
    intro heq
    simp [Attribute.isDeclaration, heq] at h
  simp [Attribute.binding?, hspace]

/-! ## The attributes of a tag -/

namespace TagEnd

/-- The characters at the end of a tag. -/
def written : TagEnd → List Char
  | closed => ['/', '>']
  | opened => ['>']

end TagEnd

theorem readTagBody_end {own : Scope} {sofar : List PlacedAttribute} {blanks : List Char} (ending : TagEnd)
    (hblank : Blank blanks) :
    readTagBody dialect own sofar (blanks ++ (ending.written ++ rest)) = .ok (some ⟨sofar, own, ending⟩, rest) := by
  have hstop : (ending.written ++ rest).head?.any isSpace = false := by
    cases ending <;> simp [TagEnd.written] <;> decide
  have hskip := skipSpaces_append hblank hstop
  have hsome : blanks ++ (ending.written ++ rest) ≠ [] := by
    cases ending <;> simp [TagEnd.written]
  obtain ⟨c, cs, hcons⟩ := List.exists_cons_of_ne_nil hsome
  rw [hcons] at hskip ⊢
  rw [readTagBody]
  cases ending with
  | closed =>
    simp only [TagEnd.written, List.cons_append, List.nil_append] at hskip
    split
    · next h => simp [hskip] at h
    · next h =>
      rw [hskip] at h
      cases h
      simp [expectChar]
    · next h => simp [hskip] at h
    · next hnoEnd _ => exact absurd hskip (hnoEnd _)
  | opened =>
    simp only [TagEnd.written, List.cons_append, List.nil_append] at hskip
    split
    · next h => simp [hskip] at h
    · next h => simp [hskip] at h
    · next h =>
      rw [hskip] at h
      cases h
      rfl
    · next hnoEnd => exact absurd hskip (hnoEnd _)

theorem Dialect.Knows.not_declaration (hknows : dialect.Knows rules) {a : Attribute}
    (h : dialect.declares a.name = false) : a.isDeclaration = false := by
  rw [Bool.eq_false_iff]
  intro hdeclaration
  rw [hknows.declarations a hdeclaration] at h
  cases h

/-- What an attribute adds to the tag. -/
theorem readTagBody_attribute {own : Scope} {a : Attribute} {as : List Attribute} {gap cs : List Char}
    (hknows : dialect.Knows rules) (hgap : Gap gap) (hattribute : RendersAttribute a cs)
    (h : Declarable dialect own (a :: as)) (sofar : List PlacedAttribute) (rest : List Char) :
    ∃ placed : PlacedAttribute, placed.content = a ∧ readTagBody dialect own sofar (gap ++ (cs ++ rest)) =
      readTagBody dialect (a.binding?.toList ++ own) (placed :: sofar) rest := by
  obtain ⟨placed, rfl, hread⟩ := readWholeAttribute_written hattribute rest
  obtain ⟨d, after, rfl, hd⟩ := hattribute.exists_cons
  obtain ⟨c, more, rfl, hc⟩ := hgap.exists_cons
  refine ⟨placed, rfl, ?_⟩
  have hmarks : d ≠ '/' ∧ d ≠ '>' := by
    constructor
    · rintro rfl
      exact absurd hd (by decide)
    · rintro rfl
      exact absurd hd (by decide)
  have hskip : skipSpaces ((c :: more) ++ (d :: after ++ rest)) = d :: after ++ rest :=
    skipSpaces_append hgap.blank (by simpa using isSpace_of_isNameStart hd)
  rw [List.cons_append] at hskip ⊢
  rw [readTagBody]
  split
  · next hend =>
    rw [hskip] at hend
    cases hend
  · next hend =>
    rw [hskip] at hend
    exact absurd (List.cons.inj hend).1 hmarks.1
  · next hend =>
    rw [hskip] at hend
    exact absurd (List.cons.inj hend).1 hmarks.2
  · rw [if_neg (by simp [hc])]
    split
    · next hfails =>
      rw [hskip, hread] at hfails
      cases hfails
    · next hreads =>
      rw [hskip, hread] at hreads
      cases hreads
      by_cases hdeclares : dialect.declares placed.content.name = true
      · rw [if_pos hdeclares]
        simp only [declare_declarable h hdeclares]
      · rw [if_neg hdeclares, binding?_of_not_declaration (hknows.not_declaration (by simpa using hdeclares))]
        rfl

/-- The attributes of a tag are read in order, with the bindings that they declare. -/
theorem readTagBody_attributes {as : List Attribute} {cs : List Char} (hknows : dialect.Knows rules)
    (h : RendersAttributes as cs) {own : Scope} (hdeclarable : Declarable dialect own as)
    (sofar : List PlacedAttribute) (rest : List Char) :
    ∃ placed : List PlacedAttribute, placed.map PlacedAttribute.content = as ∧
      readTagBody dialect own sofar (cs ++ rest) =
        readTagBody dialect (bindings as ++ own) (placed.reverse ++ sofar) rest := by
  induction h generalizing own sofar with
  | nil => exact ⟨[], rfl, rfl⟩
  | @cons a as gap cs ds hgap hfirst hmore ih =>
    obtain ⟨first, hcontent, hstep⟩ := readTagBody_attribute hknows hgap hfirst hdeclarable sofar (ds ++ rest)
    obtain ⟨others, hcontents, hsteps⟩ := ih hdeclarable.tail (first :: sofar)
    refine ⟨first :: others, by rw [List.map_cons, hcontent, hcontents], ?_⟩
    have htext : gap ++ cs ++ ds ++ rest = gap ++ (cs ++ (ds ++ rest)) := by simp
    rw [htext, hstep, hsteps, bindings_cons]
    simp

/-! ## The end of a tag -/

/-- The prefix of an attribute that is bound has the namespace that it is bound to. -/
theorem attributeSpace_bound {scope : Scope} {placed : PlacedAttribute} (h : placed.content.Bound scope) :
    attributeSpace scope placed = .ok (placed.content.expandedName scope).1 := by
  simp only [attributeSpace, Attribute.expandedName]
  split
  · rfl
  · next hnone =>
    split
    · rfl
    · next hxml =>
      have hsome : (scope.lookup placed.content.name.space).isSome = true := by
        simpa [Attribute.Bound, hnone, hxml] using h
      obtain ⟨uri, huri⟩ := Option.isSome_iff_exists.1 hsome
      simp only [huri]

theorem checkAttributes_bound {scope : Scope} {placed : List PlacedAttribute}
    (hbound : ∀ p ∈ placed, p.content.Bound scope) {seen : List (Option (List Char) × List Char)}
    (hdistinct : (placed.map fun p => p.content.expandedName scope).Nodup)
    (hfresh : ∀ p ∈ placed, p.content.expandedName scope ∉ seen) :
    checkAttributes scope seen placed = .ok () := by
  induction placed generalizing seen with
  | nil => rfl
  | cons p placed ih =>
    obtain ⟨hother, hdistinct⟩ := List.nodup_cons.1 hdistinct
    have hkey : ((p.content.expandedName scope).1, p.content.name.localName) =
        p.content.expandedName scope := rfl
    have hnew : seen.contains (p.content.expandedName scope) = false := by
      simpa using hfresh p (by simp)
    rw [checkAttributes, attributeSpace_bound (hbound p (by simp))]
    simp only [hkey, hnew, Bool.false_eq_true, if_false]
    apply ih (fun q hq => hbound q (List.mem_cons_of_mem _ hq)) hdistinct
    intro q hq hseen
    rcases List.mem_cons.1 hseen with heq | hseen
    · exact hother (List.mem_map.2 ⟨q, hq, heq⟩)
    · exact hfresh q (List.mem_cons_of_mem _ hq) hseen

theorem finishTag_proper {outer : Scope} {q : QName} {as : List Attribute} {placed : List PlacedAttribute}
    (hknows : dialect.Knows rules) (h : ProperTag rules (bindings as ++ outer) q as)
    (hcontents : placed.map PlacedAttribute.content = as) (start : List Char) (ending : TagEnd) :
    finishTag dialect outer start q ⟨placed.reverse, bindings as, ending⟩ =
      .ok ⟨q, as, bindings as ++ outer, ending⟩ := by
  have huses : checkAttributes (bindings as ++ outer) []
      (placed.filter fun p => !dialect.declares p.content.name) = .ok () := by
    apply checkAttributes_bound
    · intro p hp
      obtain ⟨hp, hdeclares⟩ := List.mem_filter.1 hp
      have hmem : p.content ∈ as := hcontents ▸ List.mem_map_of_mem hp
      exact h.attributesBound p.content hmem (hknows.not_declaration (by simpa using hdeclares))
    · have hothers :
          (as.filter fun a => !dialect.declares a.name).Sublist (as.filter fun a => !a.isDeclaration) := by
        have htwice : (as.filter fun a => !dialect.declares a.name) =
            (as.filter fun a => !a.isDeclaration).filter fun a => !dialect.declares a.name := by
          rw [List.filter_filter]
          apply List.filter_congr
          intro a _
          cases hdeclares : dialect.declares a.name with
          | true => rfl
          | false => simp [hknows.not_declaration hdeclares]
        rw [htwice]
        exact List.filter_sublist
      have hdistinct := h.expandedDistinct.sublist (hothers.map _)
      subst hcontents
      rw [List.filter_map, List.map_map] at hdistinct
      exact hdistinct
    · simp
  have helement : checkElement dialect (bindings as ++ outer) start q = .ok () := by
    rw [checkElement, if_pos (h.bound.imp_right (Or.imp_left (hknows.bound _)))]
  simp only [finishTag, List.reverse_reverse, huses, helement, hcontents]

/-- A start tag is read with the bindings that hold inside the element. -/
theorem readStartTag_written {outer : Scope} {q : QName} {as : List Attribute} {tag : List Char}
    (hknows : dialect.Knows rules) (h : RendersTag rules (bindings as ++ outer) q as tag) (ending : TagEnd)
    (rest : List Char) :
    readStartTag dialect outer ('<' :: (tag ++ (ending.written ++ rest))) =
      .ok (some ⟨q, as, bindings as ++ outer, ending⟩, rest) := by
  cases h with | @tag cs blanks hproper hattributes hblanks =>
  have hdeclarable : Declarable dialect [] as := by
    constructor
    · exact hproper.declarations
    · exact fun a ha => hknows.harmless a (hproper.admitted a ha)
    · exact hproper.distinct
    · exact fun a ha hspace => rfl
  obtain ⟨placed, hcontents, hbody⟩ :=
    readTagBody_attributes hknows hattributes hdeclarable [] (blanks ++ (ending.written ++ rest))
  rw [readTagBody_end ending hblanks, List.append_nil, List.append_nil] at hbody
  have hstop : (cs ++ (blanks ++ (ending.written ++ rest))).head?.any isNameChar = false := by
    cases hattributes with
    | nil =>
      apply hblanks.stop
      cases ending <;> simp [TagEnd.written] <;> decide
    | cons hgap hfirst hmore =>
      obtain ⟨c, more, rfl, hc⟩ := hgap.exists_cons
      simpa using isNameChar_of_isSpace hc
  have hname := readQName_written hproper.name (cs ++ (blanks ++ (ending.written ++ rest))) hstop
  have htext : q.written ++ cs ++ blanks ++ (ending.written ++ rest) =
      q.written ++ (cs ++ (blanks ++ (ending.written ++ rest))) := by simp
  rw [htext]
  simp only [readStartTag, List.drop_succ_cons, List.drop_zero, hname, if_neg hproper.noDeclaration, hbody,
    finishTag_proper hknows hproper hcontents]

/-- A closing tag is read as the name that it closes. -/
theorem readClosingTag_written {q : QName} (hname : q.Proper) {blanks : List Char} (hblanks : Blank blanks)
    (rest : List Char) :
    readClosingTag ('<' :: '/' :: (q.written ++ (blanks ++ '>' :: rest))) = .ok (q, rest) := by
  have hread := readQName_written hname (blanks ++ '>' :: rest) (hblanks.stop (by simp; decide))
  have hskip : skipSpaces (blanks ++ '>' :: rest) = '>' :: rest :=
    skipSpaces_append hblanks (by simp; decide)
  simp only [readClosingTag, List.drop_succ_cons, List.drop_zero, hread, hskip, expectChar, if_true]

end ReleaseBundle.Xml
