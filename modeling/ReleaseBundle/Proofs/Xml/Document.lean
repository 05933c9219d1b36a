import ReleaseBundle.Proofs.Xml.Reading

/-!
# Reading whole documents

What stands before and behind the outermost element is passed over, a declaration included. A declaration
whose name is followed by another blank than a space is passed over as if it were an instruction. With
the elements read as in `Reading`, every document is read as its tree, up to adjacent text, in a dialect
that knows the rules it is written by: in the dialect of the standard by the rules of the standard, and in
that of the reader by its own.
-/

namespace ReleaseBundle.Xml

variable {cs rest : List Char} {dialect : Dialect} {rules : Rules}

/-! ## The outermost element -/

theorem readRoot_rendered {root : Node} (hknows : dialect.Knows rules)
    (h : RendersElement rules [] root cs) (rest : List Char) :
    ∃ m : Node, m.joined = root ∧ readRoot dialect (cs ++ rest) = .ok (m, rest) := by
  cases h with
  | @empty _ q as tag htag =>
    have htext : '<' :: tag ++ ['/', '>'] ++ rest = '<' :: (tag ++ (TagEnd.closed.written ++ rest)) := by
      simp [TagEnd.written]
    refine ⟨.element q as [], rfl, ?_⟩
    rw [htext]
    simp only [readRoot, readStartTag_written hknows htag .closed rest]
    rfl
  | @filled _ q as children tag content blanks htag hcontent hblanks =>
    have htext : '<' :: tag ++ '>' :: content ++ '<' :: '/' :: q.written ++ blanks ++ ['>'] ++ rest =
        '<' :: (tag ++ (TagEnd.opened.written ++
          (content ++ '<' :: '/' :: (q.written ++ (blanks ++ '>' :: rest))))) := by simp [TagEnd.written]
    let frame : Frame := ⟨q, as, bindings as ++ [], []⟩
    obtain ⟨raw, hraw, hinside⟩ := hcontent.readsNodes hknows frame rfl []
      ('/' :: (q.written ++ (blanks ++ '>' :: rest)))
    have hclosing := readClosingTag_written htag.proper hblanks rest
    refine ⟨(frame.pushAll raw).node, by simp [Frame.node, Frame.pushAll, Node.joined, frame, hraw], ?_⟩
    rw [htext]
    simp only [readRoot, readStartTag_written hknows htag .opened]
    exact hinside.trans (readContent_closing_root rfl hclosing)

/-! ## Around the outermost element -/

/-- The text has nothing to pass over: it is empty or begins with the tag of an element. -/
def Settles (rest : List Char) : Prop := rest = [] ∨ ∃ c more, rest = '<' :: c :: more ∧ isNameStart c = true

theorem Settles.ne {c : Char} (h : Settles rest) (hc : isNameStart c = false) (more : List Char) :
    rest ≠ '<' :: c :: more := by
  rintro rfl
  rcases h with hnone | ⟨c', more', heq, hc'⟩
  · cases hnone
  · cases heq
    rw [hc] at hc'
    cases hc'

theorem skipMisc_settled {text : List Char} (htext : skipSpaces text = rest) (hrest : Settles rest) :
    skipMisc text = .ok rest := by
  rw [skipMisc]
  split
  · next h => exact absurd (htext.symm.trans h) (hrest.ne (by decide) _)
  · next h => exact absurd (htext.symm.trans h) (hrest.ne (by decide) _)
  · rw [htext]

theorem skipMisc_comment {text : List Char} {n : Node} (h : RendersComment n cs)
    (htext : skipSpaces text = cs ++ rest) : skipMisc text = skipMisc rest := by
  obtain ⟨m, hm, hread⟩ := readComment_written h rest
  obtain ⟨more, rfl⟩ := h.exists_cons
  rw [skipMisc]
  split
  · split
    · next hfails =>
      rw [htext, hread] at hfails
      cases hfails
    · next hreads =>
      rw [htext, hread] at hreads
      cases hreads
      rfl
  · next hother =>
    rw [htext] at hother
    cases hother
  · next hnone _ => exact absurd htext (hnone _)

theorem skipMisc_of_readInstruction {text more : List Char} {n : Node}
    (hbegins : skipSpaces text = '<' :: '?' :: more)
    (hread : readInstruction (skipSpaces text) = .ok (n, rest)) : skipMisc text = skipMisc rest := by
  rw [skipMisc]
  split
  · next hother =>
    rw [hbegins] at hother
    cases hother
  · split
    · next hfails =>
      rw [hread] at hfails
      cases hfails
    · next hreads =>
      rw [hread] at hreads
      cases hreads
      rfl
  · next hnone => exact absurd hbegins (hnone _)

/-- Blanks, comments and instructions are passed over. -/
theorem skipMisc_rendered (h : RendersMisc cs) (hrest : Settles rest) (blanks : List Char)
    (hblanks : Blank blanks) : skipMisc (blanks ++ (cs ++ rest)) = .ok rest := by
  induction h generalizing blanks with
  | done =>
    apply skipMisc_settled _ hrest
    rw [List.nil_append]
    apply skipSpaces_append hblanks
    rcases hrest with rfl | ⟨c, more, rfl, -⟩
    · rfl
    · simp
      decide
  | @blank c more hblank hmore ih =>
    have hmoreBlanks : Blank (blanks ++ [c]) := by
      intro d hd
      rcases List.mem_append.1 hd with hd | hd
      · exact hblanks d hd
      · exact List.mem_singleton.1 hd ▸ hblank
    simpa using ih (blanks ++ [c]) hmoreBlanks
  | @comment n cs more hcomment hmore ih =>
    have htext : skipSpaces (blanks ++ (cs ++ more ++ rest)) = cs ++ (more ++ rest) := by
      rw [List.append_assoc]
      apply skipSpaces_append hblanks
      obtain ⟨after, rfl⟩ := hcomment.exists_cons
      simp
      decide
    rw [skipMisc_comment hcomment htext]
    exact ih [] (by simp [Blank])
  | @instruction n cs more hinstruction hmore ih =>
    have htext : skipSpaces (blanks ++ (cs ++ more ++ rest)) = cs ++ (more ++ rest) := by
      rw [List.append_assoc]
      apply skipSpaces_append hblanks
      obtain ⟨after, rfl⟩ := hinstruction.exists_cons
      simp
      decide
    obtain ⟨m, hm, hread⟩ := readInstruction_written hinstruction (more ++ rest)
    obtain ⟨after, hcons⟩ := hinstruction.exists_cons
    rw [skipMisc_of_readInstruction (htext.trans (by rw [hcons]; rfl)) (by rw [htext]; exact hread)]
    exact ih [] (by simp [Blank])

/-! ## The declaration -/

/-- The characters that the values of a declaration are made of: letters, digits, and three marks. -/
theorem isEncodingChar_range {c : Char} (h : isEncodingChar c = true) :
    45 ≤ c.toNat ∧ c.toNat ≤ 122 ∧ c.toNat ≠ 47 ∧ c.toNat ≠ 60 ∧ c.toNat ≠ 63 := by
  unfold isEncodingChar Char.isAlphanum Char.isAlpha Char.isUpper Char.isLower Char.isDigit at h
  simp only [Bool.or_eq_true, Bool.and_eq_true, decide_eq_true_eq, beq_iff_eq] at h
  have hletter : ∀ {low high : UInt32}, low ≤ c.val → c.val ≤ high →
      low.toNat ≤ c.toNat ∧ c.toNat ≤ high.toNat := fun hlow hhigh => ⟨hlow, hhigh⟩
  rcases h with ((((⟨hlow, hhigh⟩ | ⟨hlow, hhigh⟩) | ⟨hlow, hhigh⟩) | rfl) | rfl) | rfl
  · have hrange : 65 ≤ c.toNat ∧ c.toNat ≤ 90 := hletter hlow hhigh
    omega
  · have hrange : 97 ≤ c.toNat ∧ c.toNat ≤ 122 := hletter hlow hhigh
    omega
  · have hrange : 48 ≤ c.toNat ∧ c.toNat ≤ 57 := hletter hlow hhigh
    omega
  all_goals decide

/-- What reading a setting of the declaration comes to, without the blanks in front of it. -/
structure ReadsSetting (name body : List Char) : Prop where
  prefixed : name <+: body
  reads : ∀ rest, ∃ a, readAttribute (body ++ rest) = .ok (a, rest)
  chars : ∀ c ∈ body, isChar c = true ∧ c ≠ '?'

theorem isChar_of_isSpace {c : Char} (h : isSpace c = true) : isChar c = true ∧ c ≠ '?' := by
  simp only [isSpace, Bool.or_eq_true, beq_iff_eq] at h
  rcases h with ((rfl | rfl) | rfl) | rfl <;> decide

theorem isChar_of_isEncodingChar {c : Char} (h : isEncodingChar c = true) :
    isRunChar c = true ∧ c ≠ '?' := by
  obtain ⟨hlow, hhigh, hslash, htag, hmark⟩ := isEncodingChar_range h
  refine ⟨?_, fun heq => hmark (heq ▸ rfl)⟩
  refine Bool.and_eq_true_iff.2 ⟨?_, bne_iff_ne.2 fun heq => htag (heq ▸ rfl)⟩
  simp only [isChar, Bool.and_eq_true, Bool.or_eq_true, bne_iff_ne, beq_iff_eq, decide_eq_true_eq]
  omega

theorem RendersSetting.exists_body {name value : List Char} (h : RendersSetting name value cs)
    (hname : IsName name) (hplain : ∀ c ∈ name, isEncodingChar c = true)
    (hvalue : ∀ c ∈ value, isEncodingChar c = true) :
    ∃ gap body, cs = gap ++ body ∧ Gap gap ∧ ReadsSetting name body := by
  obtain @⟨gap, before, after, quote, hgap, hbefore, hafter, hquote⟩ := h
  have hcolon : ':' ∉ name := fun hmem => absurd (hplain ':' hmem) (by decide)
  have hnoQuote : quote ∉ value := by
    intro hmem
    rcases hquote with rfl | rfl
    · exact absurd (hvalue _ hmem) (by decide)
    · exact absurd (hvalue _ hmem) (by decide)
  refine ⟨gap, name ++ (before ++ '=' :: (after ++ quote :: (value ++ [quote]))), by simp, hgap, ?_⟩
  constructor
  · exact List.prefix_append _ _
  · intro rest
    let q : QName := ⟨[], name⟩
    have hproper : q.Proper := ⟨fun hnone => absurd rfl hnone, hname, hcolon⟩
    have hread := readAttribute_quoted hproper hbefore hafter hquote
      (fun c hc => (isChar_of_isEncodingChar (hvalue c hc)).1) hnoQuote rest
    have hwritten : q.written = name := by simp [q, QName.written]
    rw [hwritten] at hread
    refine ⟨_, Eq.trans ?_ hread⟩
    simp
  · intro c hc
    simp only [List.mem_append, List.mem_cons, List.not_mem_nil, or_false] at hc
    have hquoteChar : isChar quote = true ∧ quote ≠ '?' := by rcases hquote with rfl | rfl <;> decide
    have hplainChar : ∀ d, isEncodingChar d = true → isChar d = true ∧ d ≠ '?' := fun d hd =>
      ⟨(Bool.and_eq_true_iff.1 (isChar_of_isEncodingChar hd).1).1, (isChar_of_isEncodingChar hd).2⟩
    rcases hc with hc | hc | rfl | hc | rfl | hc | rfl
    · exact hplainChar c (hplain c hc)
    · exact isChar_of_isSpace (hbefore c hc)
    · decide
    · exact isChar_of_isSpace (hafter c hc)
    · exact hquoteChar
    · exact hplainChar c (hvalue c hc)
    · exact hquoteChar

/-- A setting that may be missing. -/
def OptionalSetting (name cs : List Char) : Prop :=
  cs = [] ∨ ∃ gap body, cs = gap ++ body ∧ Gap gap ∧ ReadsSetting name body

theorem ReadsSetting.skipSpaces {name body gap : List Char} (h : ReadsSetting name body) (hname : IsName name)
    (hblank : Blank gap) (rest : List Char) : skipSpaces (gap ++ (body ++ rest)) = body ++ rest := by
  obtain ⟨more, rfl⟩ := h.prefixed
  obtain ⟨c, after, rfl, hc⟩ := hname.exists_cons
  apply skipSpaces_append hblank
  simpa using isSpace_of_isNameStart hc

theorem ReadsSetting.begins_append {name body : List Char} (h : ReadsSetting name body) (rest : List Char) :
    begins name (body ++ rest) = true :=
  List.isPrefixOf_iff_prefix.2 (h.prefixed.trans (List.prefix_append _ _))

/-- What may follow a setting: a blank, or the end of the declaration. -/
def EndsSetting (cs : List Char) : Prop :=
  (∃ c more, cs = c :: more ∧ isSpace c = true) ∨ ∃ more, cs = '?' :: '>' :: more

theorem endsSetting_mark {blanks : List Char} (hblanks : Blank blanks) (rest : List Char) :
    EndsSetting (blanks ++ '?' :: '>' :: rest) := by
  cases blanks with
  | nil => exact .inr ⟨rest, rfl⟩
  | cons c more => exact .inl ⟨c, _, rfl, hblanks c (by simp)⟩

theorem OptionalSetting.ends {name : List Char} (h : OptionalSetting name cs) (hrest : EndsSetting rest) :
    EndsSetting (cs ++ rest) := by
  rcases h with rfl | ⟨gap, body, rfl, hgap, -⟩
  · exact hrest
  · obtain ⟨c, more, rfl, hc⟩ := hgap.exists_cons
    exact .inl ⟨c, more ++ body ++ rest, by simp, hc⟩

theorem declarationSpace_ends (h : EndsSetting cs) : declarationSpace cs = .ok (skipSpaces cs) := by
  rcases h with ⟨c, more, rfl, hc⟩ | ⟨more, rfl⟩
  · simp [declarationSpace, hc]
  · rfl

theorem settingNames : "version".toList = settingVersion ∧ "encoding".toList = settingEncoding ∧
    "standalone".toList = settingStandalone := by decide

theorem isName_setting : IsName settingVersion ∧ IsName settingEncoding ∧ IsName settingStandalone := by
  refine ⟨?_, ?_, ?_⟩
  all_goals constructor <;> decide

theorem skipSpaces_mark {blanks : List Char} (hblanks : Blank blanks) (rest : List Char) :
    skipSpaces (blanks ++ '?' :: '>' :: rest) = '?' :: '>' :: rest :=
  skipSpaces_append hblanks (by simp; decide)

/-- The end of a declaration, behind the version and the encoding. -/
theorem skipStandalone {standalone blanks : List Char} (h : OptionalSetting settingStandalone standalone)
    (hblanks : Blank blanks) (rest text : List Char)
    (htext : skipSpaces (standalone ++ (blanks ++ '?' :: '>' :: rest)) = text) :
    (if begins settingStandalone text = true then
      (readAttribute text).bind fun r => expectText "?>" (skipSpaces r.2)
    else expectText "?>" (skipSpaces text)) = .ok rest := by
  have hexpect : expectText "?>" ('?' :: '>' :: rest) = .ok rest :=
    expectText_append (show "?>".toList = ['?', '>'] by decide)
  have hmark := skipSpaces_mark hblanks rest
  rcases h with rfl | ⟨gap, body, rfl, hgap, hbody⟩
  · have hnone : begins settingStandalone ('?' :: '>' :: rest) = false := rfl
    have hstay : skipSpaces ('?' :: '>' :: rest) = '?' :: '>' :: rest := skipSpaces_of_stop (by simp; decide)
    rw [List.nil_append, hmark] at htext
    simp only [← htext, hnone, Bool.false_eq_true, if_false, hstay, hexpect]
  · obtain ⟨a, hread⟩ := hbody.reads (blanks ++ '?' :: '>' :: rest)
    rw [List.append_assoc, hbody.skipSpaces isName_setting.2.2 hgap.blank] at htext
    simp only [← htext, hbody.begins_append, if_true, hread, Except.bind, hmark, hexpect]

/-- Where no encoding is stated, none is seen. -/
theorem begins_encoding_of_none {standalone blanks : List Char}
    (h : OptionalSetting settingStandalone standalone) (hblanks : Blank blanks) (rest : List Char) :
    begins settingEncoding (skipSpaces (standalone ++ (blanks ++ '?' :: '>' :: rest))) = false := by
  rcases h with rfl | ⟨gap, body, rfl, hgap, hbody⟩
  · rw [List.nil_append, skipSpaces_mark hblanks]
    rfl
  · rw [List.append_assoc, hbody.skipSpaces isName_setting.2.2 hgap.blank]
    obtain ⟨more, rfl⟩ := hbody.prefixed
    rfl

/-- The settings of a declaration, as they are read behind the first blanks. -/
structure ReadsSettings (version encoding standalone blanks : List Char) : Prop where
  version : ReadsSetting settingVersion version
  encoding : OptionalSetting settingEncoding encoding
  standalone : OptionalSetting settingStandalone standalone
  blanks : Blank blanks

/-- A declaration with the text behind it. -/
def declared (gap version encoding standalone blanks rest : List Char) : List Char :=
  '<' :: '?' :: 'x' :: 'm' :: 'l' ::
    (gap ++ (version ++ (encoding ++ (standalone ++ (blanks ++ '?' :: '>' :: rest)))))

section Declaration

variable {gap version encoding standalone blanks : List Char}

theorem skipDeclaration_settings (hgap : Gap gap) (h : ReadsSettings version encoding standalone blanks)
    (rest : List Char) :
    skipDeclaration (declared gap version encoding standalone blanks rest) = .ok rest := by
  have hends := h.standalone.ends (endsSetting_mark h.blanks rest)
  have hfirst := h.version.skipSpaces isName_setting.1 hgap.blank
    (encoding ++ (standalone ++ (blanks ++ '?' :: '>' :: rest)))
  obtain ⟨a, hread⟩ := h.version.reads (encoding ++ (standalone ++ (blanks ++ '?' :: '>' :: rest)))
  simp only [declared, skipDeclaration, List.drop_succ_cons, List.drop_zero, settingNames.1, settingNames.2.1,
    settingNames.2.2, hfirst, h.version.begins_append, Bool.not_true, Bool.false_eq_true, if_false, bind,
    Except.bind, pure, Except.pure, hread, declarationSpace_ends (h.encoding.ends hends)]
  rcases h.encoding with rfl | ⟨more, body, rfl, hmore, hbody⟩
  · simp only [List.nil_append, begins_encoding_of_none h.standalone h.blanks, Bool.false_eq_true, if_false]
    exact skipStandalone h.standalone h.blanks rest _ rfl
  · obtain ⟨b, hnext⟩ := hbody.reads (standalone ++ (blanks ++ '?' :: '>' :: rest))
    simp only [List.append_assoc, hbody.skipSpaces isName_setting.2.1 hmore.blank, hbody.begins_append, if_true,
      hnext, declarationSpace_ends hends]
    exact skipStandalone h.standalone h.blanks rest _ rfl

theorem OptionalSetting.chars {name : List Char} (h : OptionalSetting name cs) :
    ∀ c ∈ cs, isChar c = true ∧ c ≠ '?' := by
  intro c hc
  rcases h with rfl | ⟨gap, body, rfl, hgap, hbody⟩
  · cases hc
  · rcases List.mem_append.1 hc with hc | hc
    · exact isChar_of_isSpace (hgap.blank c hc)
    · exact hbody.chars c hc

theorem ReadsSettings.chars (h : ReadsSettings version encoding standalone blanks) :
    ∀ c ∈ version ++ encoding ++ standalone ++ blanks, isChar c = true ∧ c ≠ '?' := by
  intro c hc
  simp only [List.mem_append] at hc
  rcases hc with ((hc | hc) | hc) | hc
  · exact h.version.chars c hc
  · exact h.encoding.chars c hc
  · exact h.standalone.chars c hc
  · exact isChar_of_isSpace (h.blanks c hc)

/-- A declaration whose name is not followed by a space is taken for an instruction. -/
theorem readInstruction_settings {c : Char} (hgap : Gap (c :: gap)) (hc : c ≠ ' ')
    (h : ReadsSettings version encoding standalone blanks) (rest : List Char) :
    ∃ n, readInstruction (declared (c :: gap) version encoding standalone blanks rest) = .ok (n, rest) := by
  have hspace : isSpace c = true := hgap.blank c (by simp)
  have hother : (' ' == c) = false := by simpa using hc.symm
  have hskip := h.version.skipSpaces isName_setting.1 hgap.blank
    (encoding ++ (standalone ++ (blanks ++ '?' :: '>' :: rest)))
  have hmark : ¬ ['?', '>'] <:+: version ++ encoding ++ standalone ++ blanks := by
    intro hwithin
    exact (h.chars '?' (hwithin.subset (by decide))).2 rfl
  refine ⟨.instruction xml (version ++ encoding ++ standalone ++ blanks), ?_⟩
  have hname : IsName xml := by decide
  apply readInstruction_body hname
  · simp [begins, List.isPrefixOf, xml, hother]
  · simpa using isNameChar_of_isSpace hspace
  · simpa using hskip
  · exact fun d hd => (h.chars d hd).1
  · exact hmark

/-- A declaration is passed over, at once or together with the instructions behind it. -/
theorem skipProlog_declared (hgap : Gap gap) (h : ReadsSettings version encoding standalone blanks)
    (rest : List Char) :
    ∃ text, skipProlog (declared gap version encoding standalone blanks rest) = .ok text ∧
      skipMisc text = skipMisc rest := by
  obtain ⟨c, gap, rfl, -⟩ := hgap.exists_cons
  by_cases hspace : c = ' '
  · subst hspace
    have hbegins : begins ['<', '?', 'x', 'm', 'l', ' ']
        (declared (' ' :: gap) version encoding standalone blanks rest) = true := rfl
    rw [skipProlog, if_pos hbegins]
    exact ⟨rest, skipDeclaration_settings hgap h rest, rfl⟩
  · obtain ⟨n, hread⟩ := readInstruction_settings hgap hspace h rest
    have hother : (' ' == c) = false := by simpa using Ne.symm hspace
    rw [skipProlog, if_neg (by simp [declared, begins, List.isPrefixOf, hother])]
    have hstay : skipSpaces (declared (c :: gap) version encoding standalone blanks rest) =
        declared (c :: gap) version encoding standalone blanks rest :=
      skipSpaces_of_stop (by simp [declared]; decide)
    exact ⟨_, rfl, skipMisc_of_readInstruction hstay (by rw [hstay]; exact hread)⟩

end Declaration

/-- A declaration consists of settings that are read as such. -/
theorem RendersDeclaration.exists_settings (h : RendersDeclaration cs) (rest : List Char) :
    ∃ gap version encoding standalone blanks, Gap gap ∧ ReadsSettings version encoding standalone blanks ∧
      cs ++ rest = declared gap version encoding standalone blanks rest := by
  obtain @⟨number, version, encoding, standalone, blanks, hnumber, hversion, hencoding, hstandalone,
    hblanks⟩ := h
  have hdigit : ∀ d : Char, d.isDigit = true → isEncodingChar d = true := by
    intro d hd
    simp [isEncodingChar, Char.isAlphanum, hd]
  have hnumberChars : ∀ c ∈ number, isEncodingChar c = true := by
    obtain ⟨digits, rfl, -, hdigits⟩ := hnumber
    intro c hc
    rcases List.mem_cons.1 hc with rfl | hc
    · decide
    · rcases List.mem_cons.1 hc with rfl | hc
      · decide
      · exact hdigit c (hdigits c hc)
  obtain ⟨gap, version, rfl, hgap, hbody⟩ :=
    hversion.exists_body isName_setting.1 (by decide) hnumberChars
  have hencoding : OptionalSetting settingEncoding encoding := by
    rcases hencoding with rfl | ⟨name, hname, hsetting⟩
    · exact .inl rfl
    · exact .inr (hsetting.exists_body isName_setting.2.1 (by decide) hname.2)
  have hstandalone : OptionalSetting settingStandalone standalone := by
    rcases hstandalone with rfl | ⟨answer, hanswer, hsetting⟩
    · exact .inl rfl
    · refine .inr (hsetting.exists_body isName_setting.2.2 (by decide) ?_)
      rcases hanswer with rfl | rfl <;> decide
  exact ⟨gap, version, encoding, standalone, blanks, hgap, ⟨hbody, hencoding, hstandalone, hblanks⟩,
    by simp [declared]⟩

/-! ## The document -/

theorem RendersInstruction.not_declaration {n : Node} (h : RendersInstruction n cs) (rest : List Char) :
    begins ['<', '?', 'x', 'm', 'l', ' '] (cs ++ rest) = false := by
  rw [Bool.eq_false_iff]
  intro hbegins
  obtain ⟨m, -, hread⟩ := readInstruction_written h rest
  rw [readInstruction, if_pos hbegins] at hread
  cases hread

theorem RendersMisc.not_declaration (h : RendersMisc cs) (hrest : Settles rest) :
    begins ['<', '?', 'x', 'm', 'l', ' '] (cs ++ rest) = false := by
  cases h with
  | done =>
    rcases hrest with rfl | ⟨c, more, rfl, hc⟩
    · rfl
    · have hmark : ('?' == c) = false := by
        rw [beq_eq_false_iff_ne]
        rintro rfl
        exact absurd hc (by decide)
      simp [begins, List.isPrefixOf, hmark]
  | @blank c more hblank hmore =>
    have htag : ('<' == c) = false := by
      rw [beq_eq_false_iff_ne]
      rintro rfl
      exact absurd hblank (by decide)
    simp [begins, List.isPrefixOf, htag]
  | comment hcomment hmore =>
    obtain ⟨after, rfl⟩ := hcomment.exists_cons
    rfl
  | instruction hinstruction hmore =>
    rw [List.append_assoc]
    exact hinstruction.not_declaration _

/-- Everything in front of the outermost element is passed over. -/
theorem skipProlog_rendered {declaration before : List Char}
    (hdeclaration : declaration = [] ∨ RendersDeclaration declaration) (hbefore : RendersMisc before)
    (hrest : Settles rest) :
    ∃ text, skipProlog (declaration ++ (before ++ rest)) = .ok text ∧ skipMisc text = .ok rest := by
  have hmisc : skipMisc (before ++ rest) = .ok rest := skipMisc_rendered hbefore hrest [] (by simp [Blank])
  rcases hdeclaration with rfl | hdeclaration
  · refine ⟨before ++ rest, ?_, hmisc⟩
    rw [List.nil_append, skipProlog, hbefore.not_declaration hrest]
    rfl
  · obtain ⟨gap, version, encoding, standalone, blanks, hgap, hsettings, htext⟩ :=
      hdeclaration.exists_settings (before ++ rest)
    obtain ⟨text, hskip, hbehind⟩ := skipProlog_declared hgap hsettings (before ++ rest)
    exact ⟨text, htext ▸ hskip, hbehind.trans hmisc⟩

theorem RendersElement.settles {rules : Rules} {outer : Scope} {root : Node}
    (h : RendersElement rules outer root cs) (rest : List Char) : Settles (cs ++ rest) := by
  obtain ⟨c, more, rfl, hc⟩ := h.exists_cons
  exact .inr ⟨c, more ++ rest, rfl, hc⟩

/-- A document is read as its tree in a dialect that knows the rules it is written by. -/
theorem readDocument_rendered {root : Node} {text : List Char} (hknows : dialect.Knows rules)
    (h : Renders rules root text) : ∃ m : Node, m.joined = root ∧ readDocument dialect text = .ok m := by
  obtain @⟨declaration, before, cs, after, hdeclaration, hbefore, hroot, hafter⟩ := h
  obtain ⟨middle, hprolog, hmisc⟩ := skipProlog_rendered hdeclaration hbefore (hroot.settles after)
  obtain ⟨m, hm, hread⟩ := readRoot_rendered hknows hroot after
  have hrest : skipMisc after = .ok [] := by
    simpa using skipMisc_rendered hafter (.inl rfl) [] (by simp [Blank])
  obtain ⟨c, more, rfl, hc⟩ := hroot.exists_cons
  have htype : begins "<!DOCTYPE".toList ('<' :: c :: (more ++ after)) = false := by
    have hlist : "<!DOCTYPE".toList = '<' :: '!' :: "DOCTYPE".toList := by decide
    have hmark : ('!' == c) = false := by
      rw [beq_eq_false_iff_ne]
      rintro rfl
      exact absurd hc (by decide)
    simp [hlist, begins, List.isPrefixOf, hmark]
  refine ⟨m, hm, ?_⟩
  rw [List.append_assoc, List.append_assoc]
  simp only [List.cons_append] at hprolog hmisc hread ⊢
  simp only [readDocument, hprolog, bind, Except.bind, hmisc, htype, Bool.false_eq_true, if_false, hread, hrest,
    pure, Except.pure]

/-- A document begins with a tag or a blank, so never with a byte order mark. -/
theorem Renders.exists_cons {rules : Rules} {root : Node} {text : List Char} (h : Renders rules root text) :
    ∃ c more, text = c :: more ∧ c ≠ '\uFEFF' := by
  obtain @⟨declaration, before, cs, after, hdeclaration, hbefore, hroot, hafter⟩ := h
  rcases hdeclaration with rfl | hdeclaration
  · cases hbefore with
    | done =>
      obtain ⟨c, more, rfl, -⟩ := hroot.exists_cons
      exact ⟨'<', _, rfl, by decide⟩
    | @blank c more hblank hmore =>
      refine ⟨c, _, rfl, ?_⟩
      rintro rfl
      exact absurd hblank (by decide)
    | comment hcomment hmore =>
      obtain ⟨more, rfl⟩ := hcomment.exists_cons
      exact ⟨'<', _, rfl, by decide⟩
    | instruction hinstruction hmore =>
      obtain ⟨more, rfl⟩ := hinstruction.exists_cons
      exact ⟨'<', _, rfl, by decide⟩
  · cases hdeclaration
    exact ⟨'<', _, rfl, by decide⟩

/-- Reading a document gives its tree, up to adjacent text. -/
theorem parseAs_rendered {root : Node} {text : List Char} (hknows : dialect.Knows rules)
    (h : Renders rules root text) : ∃ m : Node, m.joined = root ∧ parseAs dialect text = .ok m := by
  obtain ⟨m, hm, hread⟩ := readDocument_rendered hknows h
  obtain ⟨c, more, rfl, hc⟩ := h.exists_cons
  refine ⟨m, hm, ?_⟩
  simp only [parseAs]
  split
  · next heq => exact absurd (List.cons.inj heq).1 hc
  · rw [hread]
    rfl

/-! ## The two dialects -/

/-- How documents are read by the standard. -/
def Dialect.standard : Dialect where
  text := standardText
  bound := [xml]
  declares q := q.space = xmlns || q = ⟨[], xmlns⟩

theorem Dialect.standard_knows : Dialect.standard.Knows standardRules where
  text _ := rfl
  bound _ hp := hp
  declarations _ h := h
  harmless _ _ h := Or.inl h

theorem Dialect.reader_knows : Dialect.reader.Knows readerRules where
  text := runText_eq_keptText
  bound _ hp := hp
  declarations a h := by
    simp only [Attribute.isDeclaration, Bool.or_eq_true, decide_eq_true_eq] at h
    rcases h with hspace | hdefault
    · simp [Dialect.reader, QName.declares, hspace]
    · simp [Dialect.reader, QName.declares, hdefault]
  harmless a hadmitted h := by
    by_cases hdeclaration : a.isDeclaration = true
    · exact Or.inl hdeclaration
    · right
      simp only [Attribute.isDeclaration, Bool.or_eq_true, decide_eq_true_eq, not_or] at hdeclaration
      obtain ⟨hspace, hdefault⟩ := hdeclaration
      have hlocal : a.name.localName = xmlns := by
        simpa [Dialect.reader, QName.declares, hspace] using h
      have hsome : a.name.space ≠ [] := by
        intro hnone
        apply hdefault
        cases hname : a.name
        simp_all
      simpa [readerRules, Attribute.seemsReserved, hsome, hspace, hlocal] using hadmitted

end ReleaseBundle.Xml
