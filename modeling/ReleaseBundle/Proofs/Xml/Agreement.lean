import ReleaseBundle.Proofs.Xml.References

/-!
# What the standard and the reader agree on

A document that is written by the common rules is written by the rules of the standard and by those of
the reader, and has the same tree for both. All that has to be seen is that a run has the same text:
the two rules for line ends differ only where a carriage return stands beside a reference.
-/

namespace ReleaseBundle.Xml

/-! ## Line ends -/

theorem settlesReturns_literal {afterReference : Bool} {c : Char} (hc : c ≠ '\r') (ps : List Piece) :
    settlesReturns afterReference (.literal c :: ps) = settlesReturns false ps := by
  rw [settlesReturns] <;> simp [hc]

theorem settlesReturns_referred (afterReference : Bool) (c : Char) (ps : List Piece) :
    settlesReturns afterReference (.referred c :: ps) = settlesReturns true ps := by
  rw [settlesReturns]

theorem settlesReturns_return_literal (afterReference : Bool) (c : Char) (ps : List Piece) :
    settlesReturns afterReference (.literal '\r' :: .literal c :: ps) =
      settlesReturns false (.literal c :: ps) := by
  rw [settlesReturns] <;> simp

/-- The two rules for line ends agree on a run whose carriage returns all become line feeds. -/
theorem keptEnds_eq_lineEnds {afterReference : Bool} {ps : List Piece}
    (h : settlesReturns afterReference ps = true) : keptEnds afterReference ps = lineEnds ps := by
  fun_induction keptEnds afterReference ps with
  | case1 afterReference ps ih =>
    rw [settlesReturns_return_literal, settlesReturns_literal (by decide)] at h
    rw [ih h, lineEnds]
  | case2 => simp [settlesReturns] at h
  | case3 => simp [settlesReturns] at h
  | case4 => rfl
  | case5 afterReference ps hfeed hreference hend ih =>
    cases ps with
    | nil => exact absurd rfl hend
    | cons p ps =>
      cases p with
      | literal c =>
        rw [settlesReturns_return_literal] at h
        rw [ih h, lineEnds]
        exact fun more hmore => hfeed more hmore
      | referred c => exact absurd rfl (hreference c ps)
  | case6 afterReference c ps _ _ _ hreturn ih =>
    rw [settlesReturns_literal hreturn] at h
    rw [ih h, lineEnds_literal hreturn]
  | case7 afterReference c ps ih =>
    rw [settlesReturns_referred] at h
    rw [ih h, lineEnds]
    all_goals simp
  | case8 => rfl

theorem keptText_eq_standardText {ps : List Piece} (h : settlesReturns false ps = true) :
    keptText ps = standardText ps := by
  rw [keptText, standardText, keptEnds_eq_lineEnds h]

theorem settlesReturns_literals (written : List Char) :
    settlesReturns false (written.map .literal) = true := by
  induction written with
  | nil => rfl
  | cons c written ih =>
    by_cases hc : c = '\r'
    · subst hc
      cases written with
      | nil => rfl
      | cons d written =>
        rw [List.map_cons, List.map_cons, settlesReturns_return_literal]
        exact ih
    · rw [List.map_cons, settlesReturns_literal hc]
      exact ih

/-! ## Renderings -/

/-- Whatever is written by the rules `r` is written by the rules `s`, with the same text. -/
structure Rules.Within (r s : Rules) : Prop where
  runs : ∀ ps, r.admitsRun ps = true → s.admitsRun ps = true ∧ r.text ps = s.text ps
  sections : ∀ written : List Char, r.text (written.map .literal) = s.text (written.map .literal)
  undeclared : ∀ p ∈ r.undeclared, p ∈ s.undeclared
  attributes : ∀ a, r.admits a = true → s.admits a = true

theorem commonRules_within_readerRules : commonRules.Within readerRules := by
  constructor
  · intro ps hsettled
    exact ⟨rfl, (keptText_eq_standardText hsettled).symm⟩
  · intro written
    exact (keptText_eq_standardText (settlesReturns_literals written)).symm
  · exact fun p hp => hp
  · exact fun a ha => ha

theorem commonRules_within_standardRules : commonRules.Within standardRules := by
  constructor
  · exact fun ps _ => ⟨rfl, rfl⟩
  · exact fun written => rfl
  · intro p hp
    cases hp
  · exact fun a _ => rfl

variable {r s : Rules}

theorem RendersTag.mono (hrules : r.Within s) {scope : Scope} {q : QName} {as : List Attribute}
    {tag : List Char} (h : RendersTag r scope q as tag) : RendersTag s scope q as tag := by
  obtain @⟨cs, blanks, hproper, hattributes, hblanks⟩ := h
  refine .tag ⟨hproper.name, hproper.noDeclaration, ?_, hproper.distinct, hproper.declarations,
    hproper.attributesBound, hproper.expandedDistinct, ?_⟩ hattributes hblanks
  · exact hproper.bound.imp id (.imp (hrules.undeclared _) id)
  · exact fun a ha => hrules.attributes a (hproper.admitted a ha)

theorem RendersContent.mono (hrules : r.Within s) {scope : Scope} {mayRun : Bool} {ns : List Node}
    {cs : List Char} (h : RendersContent r scope mayRun ns cs) : RendersContent s scope mayRun ns cs := by
  refine @RendersContent.rec r (fun outer n cs _ => RendersElement s outer n cs)
    (fun scope mayRun ns cs _ => RendersContent s scope mayRun ns cs) ?empty ?filled ?done ?run ?cdata ?comment
    ?instruction ?element scope mayRun ns cs h
  case empty =>
    intro outer q as tag htag
    exact .empty (htag.mono hrules)
  case filled =>
    intro outer q as children tag content blanks htag _ hblanks ih
    exact .filled (htag.mono hrules) ih hblanks
  case done =>
    intro scope mayRun
    exact .done
  case run =>
    intro scope ps run ns more hsome hrun hmark hadmitted _ ih
    obtain ⟨hadmits, htext⟩ := hrules.runs ps hadmitted
    rw [htext]
    exact .run hsome hrun hmark hadmits ih
  case cdata =>
    intro scope mayRun written cs ns more hsection _ ih
    rw [hrules.sections]
    exact .cdata hsection ih
  case comment =>
    intro scope mayRun n cs ns more hcomment _ ih
    exact .comment hcomment ih
  case instruction =>
    intro scope mayRun n cs ns more hinstruction _ ih
    exact .instruction hinstruction ih
  case element =>
    intro scope mayRun n cs ns more _ _ ihElement ih
    exact .element ihElement ih

theorem RendersElement.mono (hrules : r.Within s) {outer : Scope} {n : Node} {cs : List Char}
    (h : RendersElement r outer n cs) : RendersElement s outer n cs := by
  cases h with
  | empty htag => exact .empty (htag.mono hrules)
  | filled htag hcontent hblanks => exact .filled (htag.mono hrules) (hcontent.mono hrules) hblanks

/-- A document that is written by some rules is written by all wider ones. -/
theorem Renders.mono (hrules : r.Within s) {root : Node} {text : List Char} (h : Renders r root text) :
    Renders s root text := by
  obtain @⟨declaration, before, cs, after, hdeclaration, hbefore, hroot, hafter⟩ := h
  exact .document hdeclaration hbefore (hroot.mono hrules) hafter

end ReleaseBundle.Xml
