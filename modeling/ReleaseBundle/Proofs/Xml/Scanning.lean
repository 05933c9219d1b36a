import ReleaseBundle.Proofs.Xml.Rendering

/-!
# Scanning what was written

Each scanner reads back the piece that it is for, whatever follows, as long as what follows does not go
on with the piece: a name must not be followed by a character of names, blanks not by a blank. Markup
that ends with a mark is read up to the first mark, so its content must not hold the mark; that the mark
cannot begin in the content and end behind it is `begins_mark_append`.
-/

namespace ReleaseBundle.Xml

variable {p : Char → Bool} {cs rest : List Char}

/-! ## Runs of characters of one kind -/

theorem takeWhile_append_stop (hall : ∀ c ∈ cs, p c = true) (hstop : rest.head?.any p = false) :
    (cs ++ rest).takeWhile p = cs := by
  rw [List.takeWhile_append_of_pos hall]
  cases rest with
  | nil => simp
  | cons d ds =>
    have hd : p d = false := by simpa using hstop
    simp [hd]

theorem dropWhile_append_stop (hall : ∀ c ∈ cs, p c = true) (hstop : rest.head?.any p = false) :
    (cs ++ rest).dropWhile p = rest := by
  rw [List.dropWhile_append_of_pos hall]
  cases rest with
  | nil => simp
  | cons d ds =>
    have hd : p d = false := by simpa using hstop
    simp [hd]

theorem skipSpaces_append (hblank : Blank cs) (hstop : rest.head?.any isSpace = false) :
    skipSpaces (cs ++ rest) = rest := dropWhile_append_stop hblank hstop

theorem skipSpaces_of_stop (hstop : cs.head?.any isSpace = false) : skipSpaces cs = cs := by
  have hnone : Blank [] := by simp [Blank]
  simpa using skipSpaces_append hnone hstop

/-- No blank goes on with a name. -/
theorem isNameChar_of_isSpace {c : Char} (h : isSpace c = true) : isNameChar c = false := by
  simp only [isSpace, Bool.or_eq_true, beq_iff_eq] at h
  rcases h with ((rfl | rfl) | rfl) | rfl <;> decide

/-- No name starts with a blank. -/
theorem isSpace_of_isNameStart {c : Char} (h : isNameStart c = true) : isSpace c = false := by
  rw [Bool.eq_false_iff]
  intro hspace
  have hname := isNameChar_of_isSpace hspace
  simp only [isNameChar, Bool.or_eq_false_iff] at hname
  exact absurd h (by simp [isNameStart, hname.1])

theorem Gap.exists_cons (h : Gap cs) : ∃ c more, cs = c :: more ∧ isSpace c = true := by
  obtain ⟨c, more, rfl⟩ := List.exists_cons_of_ne_nil h.some
  exact ⟨c, more, rfl, h.blank c (by simp)⟩

/-! ## Names -/

theorem IsName.exists_cons (h : IsName cs) : ∃ c more, cs = c :: more ∧ isNameStart c = true := by
  cases cs with
  | nil => simpa using h.first
  | cons c more => exact ⟨c, more, rfl, by simpa using h.first⟩

theorem IsName.ne_nil (h : IsName cs) : cs ≠ [] := by
  obtain ⟨c, more, rfl, -⟩ := h.exists_cons
  simp

theorem readName_append (hname : IsName cs) (hstop : rest.head?.any isNameChar = false) :
    readName (cs ++ rest) = .ok (cs, rest) := by
  have htake := takeWhile_append_stop hname.all hstop
  have hdrop := dropWhile_append_stop hname.all hstop
  obtain ⟨c, more, rfl, hc⟩ := hname.exists_cons
  simp only [List.cons_append] at htake hdrop
  simp only [readName, List.cons_append, hc, if_true, htake, hdrop]

namespace QName

variable {q : QName}

theorem Proper.all_written (h : q.Proper) : ∀ c ∈ q.written, isNameChar c = true := by
  intro c hc
  unfold written at hc
  split at hc
  · exact h.localName.1.all c hc
  · next hspace =>
    rw [List.mem_append, List.mem_cons] at hc
    rcases hc with hc | rfl | hc
    · exact (h.space hspace).1.all c hc
    · decide
    · exact h.localName.1.all c hc

theorem Proper.count_written (h : q.Proper) : q.written.count ':' ≤ 1 := by
  have hlocal : q.localName.count ':' = 0 := List.count_eq_zero_of_not_mem h.localName.2
  unfold written
  split
  · omega
  · next hspace =>
    have hbegins : q.space.count ':' = 0 := List.count_eq_zero_of_not_mem (h.space hspace).2
    rw [List.count_append, List.count_cons_self]
    omega

theorem Proper.splitName_written (h : q.Proper) : splitName q.written = q := by
  unfold splitName written
  by_cases hspace : q.space = []
  · have hnone : q.localName.contains ':' = false := by simpa using h.localName.2
    rw [if_pos hspace, hnone]
    exact congrArg (fun s => QName.mk s q.localName) hspace.symm
  · have hall : ∀ c ∈ q.space, decide (c ≠ ':') = true := by
      intro c hc
      have hne : c ≠ ':' := fun heq => (h.space hspace).2 (heq ▸ hc)
      simpa using hne
    have hstop : (':' :: q.localName).head?.any (fun c => decide (c ≠ ':')) = false := by simp
    rw [if_neg hspace, if_pos (by simp), takeWhile_append_stop hall hstop,
      dropWhile_append_stop hall hstop]
    rfl

theorem Proper.isValid (h : q.Proper) : q.isValid = true := by
  have hlocal := h.localName.1.first
  unfold QName.isValid
  rw [hlocal, Bool.and_true]
  by_cases hspace : q.space = []
  · simp [hspace]
  · obtain ⟨c, more, hcons, hc⟩ := (h.space hspace).1.exists_cons
    simp [hcons, hc]

/-- The first character of a written name may start a name. -/
theorem Proper.exists_cons (h : q.Proper) : ∃ c more, q.written = c :: more ∧ isNameStart c = true := by
  unfold written
  by_cases hspace : q.space = []
  · rw [if_pos hspace]
    exact h.localName.1.exists_cons
  · obtain ⟨c, more, hcons, hc⟩ := (h.space hspace).1.exists_cons
    rw [if_neg hspace, hcons]
    exact ⟨c, more ++ ':' :: q.localName, rfl, hc⟩

end QName

theorem readQName_written {q : QName} (hname : q.Proper) (rest : List Char)
    (hstop : rest.head?.any isNameChar = false) :
    readQName (q.written ++ rest) = .ok (q, rest) := by
  have htake := takeWhile_append_stop hname.all_written hstop
  have hdrop := dropWhile_append_stop hname.all_written hstop
  have hcount : ¬ 1 < q.written.count ':' := Nat.not_lt.2 hname.count_written
  simp only [readQName, htake, hdrop, if_neg hcount, hname.splitName_written, hname.isValid, if_true]

/-! ## Up to a mark -/

/-- A mark that ends markup: one or more equal characters and `>`. -/
def mark (x : Char) (more : Nat) : List Char := List.replicate (more + 1) x ++ ['>']

theorem mem_of_append_eq_mark {x : Char} {n : Nat} {s t : List Char} (h : s ++ t = mark x n)
    (ht : t ≠ []) : '>' ∈ t := by
  have hlast : (s ++ t).getLast (List.append_ne_nil_of_right_ne_nil s ht) = '>' := by simp [h, mark]
  rw [List.getLast_append_right ht] at hlast
  exact hlast ▸ List.getLast_mem ht

/-- A mark does not begin in a text that does not hold it, even if it stands right behind that text. -/
theorem begins_mark_append {x : Char} {n : Nat} {s : List Char} (hx : x ≠ '>') (hsome : s ≠ [])
    (hnone : ¬ mark x n <:+: s) : begins (mark x n) (s ++ (mark x n ++ rest)) = false := by
  rw [Bool.eq_false_iff]
  intro hbegins
  have hmark : mark x n <+: s ++ (mark x n ++ rest) := List.isPrefixOf_iff_prefix.1 hbegins
  rcases List.prefix_or_prefix_of_prefix hmark (List.prefix_append s _) with hinside | hacross
  · exact hnone hinside.isInfix
  · -- the mark would go on behind `s` with its `>` where only its other characters stand
    obtain ⟨t, ht⟩ := hacross
    have hlength : s.length + t.length = n + 2 := by
      simpa [mark] using congrArg List.length ht
    have hpositive : 0 < s.length := List.length_pos_iff.2 hsome
    have hrest : t <+: List.replicate (n + 1) x ++ ('>' :: rest) := by
      rw [← ht, List.prefix_append_right_inj, ht] at hmark
      simpa [mark] using hmark
    have hequal : t <+: List.replicate (n + 1) x := by
      apply List.prefix_of_prefix_length_le hrest (List.prefix_append _ _)
      rw [List.length_replicate]
      omega
    by_cases hend : t = []
    · rw [hend, List.append_nil] at ht
      exact hnone (ht ▸ List.infix_rfl)
    · have hmem := hequal.subset (mem_of_append_eq_mark ht hend)
      exact hx (List.eq_of_mem_replicate hmem).symm

theorem charsFrom_append {stop : List Char → Bool} {sofar content more : List Char} {d : Char}
    (hchars : ∀ c ∈ content, isChar c = true) (hd : isChar d = true) (hstop : stop (d :: more) = true)
    (hon : ∀ s, s ≠ [] → s <:+ content → stop (s ++ d :: more) = false) :
    charsFrom stop sofar (content ++ d :: more) = .ok (sofar.reverse ++ content, d :: more) := by
  induction content generalizing sofar with
  | nil => simp [charsFrom, hd, hstop]
  | cons c content ih =>
    have hc : isChar c = true := hchars c (by simp)
    have hnext : stop (c :: (content ++ d :: more)) = false := hon (c :: content) (by simp) (List.suffix_refl _)
    rw [List.cons_append, charsFrom, hc, hnext]
    simp only [Bool.true_eq_false, if_false, Bool.false_eq_true]
    rw [ih (fun c hc => hchars c (List.mem_cons_of_mem _ hc))
      (fun s hs hsuffix => hon s hs (hsuffix.trans (List.suffix_cons _ _)))]
    simp

theorem charsUntil_append (stop : List Char → Bool) {content more : List Char} {d : Char}
    (hchars : ∀ c ∈ content, isChar c = true) (hd : isChar d = true) (hstop : stop (d :: more) = true)
    (hon : ∀ s, s ≠ [] → s <:+ content → stop (s ++ d :: more) = false) :
    charsUntil stop (content ++ d :: more) = .ok (content, d :: more) :=
  charsFrom_append hchars hd hstop hon

theorem charsUntil_mark {x : Char} {n : Nat} {content : List Char} (hx : x ≠ '>') (hchar : isChar x = true)
    (hchars : ∀ c ∈ content, isChar c = true) (hnone : ¬ mark x n <:+: content) :
    charsUntil (begins (mark x n)) (content ++ (mark x n ++ rest)) = .ok (content, mark x n ++ rest) := by
  have hcons : mark x n ++ rest = x :: (List.replicate n x ++ '>' :: rest) := by
    simp [mark, List.replicate_succ]
  have hstop : begins (mark x n) (mark x n ++ rest) = true :=
    List.isPrefixOf_iff_prefix.2 (List.prefix_append _ _)
  have hon : ∀ s, s ≠ [] → s <:+ content → begins (mark x n) (s ++ (mark x n ++ rest)) = false := by
    intro s hsome hsuffix
    apply begins_mark_append hx hsome
    exact fun hwithin => hnone (hwithin.trans hsuffix.isInfix)
  rw [hcons] at hstop hon ⊢
  exact charsUntil_append _ hchars hchar hstop hon

theorem expectText_append {wanted : String} (h : wanted.toList = cs) :
    expectText wanted (cs ++ rest) = .ok rest := by
  have hbegins : cs.isPrefixOf (cs ++ rest) = true := List.isPrefixOf_iff_prefix.2 (List.prefix_append _ _)
  simp only [expectText, h, hbegins, if_true, List.drop_left]

theorem occurs_iff_within {piece : List Char} : Text.occurs piece cs = true ↔ piece <:+: cs := by
  induction cs with
  | nil => simp [Text.occurs]
  | cons c cs ih =>
    rw [Text.occurs, Bool.or_eq_true, List.isPrefixOf_iff_prefix, ih, List.infix_cons_iff]

theorem occurs_eq_false {piece : List Char} (h : ¬ piece <:+: cs) : Text.occurs piece cs = false := by
  rw [Bool.eq_false_iff]
  exact fun hoccurs => h (occurs_iff_within.1 hoccurs)

/-! ## Comments, instructions and sections -/

theorem RendersComment.exists_cons {n : Node} (h : RendersComment n cs) :
    ∃ more, cs = '<' :: '!' :: '-' :: '-' :: more := by
  cases h
  exact ⟨_, rfl⟩

theorem RendersInstruction.exists_cons {n : Node} (h : RendersInstruction n cs) :
    ∃ more, cs = '<' :: '?' :: more := by
  cases h <;> exact ⟨_, rfl⟩

theorem RendersSection.exists_cons {written : List Char} (h : RendersSection written cs) :
    ∃ more, cs = '<' :: '!' :: '[' :: 'C' :: 'D' :: 'A' :: 'T' :: 'A' :: '[' :: more := by
  cases h
  exact ⟨_, rfl⟩

theorem readComment_written {n : Node} (h : RendersComment n cs) (rest : List Char) :
    ∃ m, m.joined = n ∧ readComment (cs ++ rest) = .ok (m, rest) := by
  cases h with
  | @comment written hchars hdashes hlast =>
    -- a mark in the content would hold two dashes
    have hmark : ¬ mark '-' 1 <:+: written := fun hwithin =>
      hdashes (List.IsInfix.trans ⟨[], ['>'], rfl⟩ hwithin)
    have huntil : charsUntil (begins ['-', '-', '>']) (written ++ (['-', '-', '>'] ++ rest)) =
        .ok (written, ['-', '-', '>'] ++ rest) :=
      charsUntil_mark (x := '-') (n := 1) (by decide) (by decide) hchars hmark
    have hexpect : expectText "-->" (['-', '-', '>'] ++ rest) = .ok rest := expectText_append (by decide)
    have hlast' : (written.getLast? == some '-') = false := by simpa using hlast
    have htext : ['<', '!', '-', '-'] ++ written ++ ['-', '-', '>'] ++ rest =
        '<' :: '!' :: '-' :: '-' :: (written ++ (['-', '-', '>'] ++ rest)) := by simp
    refine ⟨.comment written, rfl, ?_⟩
    rw [htext]
    simp only [readComment, List.drop_succ_cons, List.drop_zero, huntil, hexpect,
      occurs_eq_false hdashes, hlast', Bool.or_false, Bool.false_eq_true, if_false]

/-- An instruction is read up to its mark, if its target does not look like the start of a declaration. -/
theorem readInstruction_body {target after written : List Char} (hname : IsName target)
    (hother : begins ['<', '?', 'x', 'm', 'l', ' '] ('<' :: '?' :: (target ++ after)) = false)
    (hstop : after.head?.any isNameChar = false) (hskip : skipSpaces after = written ++ (['?', '>'] ++ rest))
    (hchars : ∀ c ∈ written, isChar c = true) (hmark : ¬ ['?', '>'] <:+: written) :
    readInstruction ('<' :: '?' :: (target ++ after)) = .ok (.instruction target written, rest) := by
  have hread := readName_append hname hstop
  have huntil : charsUntil (begins ['?', '>']) (written ++ (['?', '>'] ++ rest)) =
      .ok (written, ['?', '>'] ++ rest) :=
    charsUntil_mark (x := '?') (n := 0) (by decide) (by decide) hchars hmark
  have hexpect : expectText "?>" (['?', '>'] ++ rest) = .ok rest := expectText_append (by decide)
  simp only [readInstruction, hother, List.drop_succ_cons, List.drop_zero, hread, hskip, huntil, hexpect,
    Bool.false_eq_true, if_false]

/-- No target is taken for the name of a declaration. -/
theorem begins_target {target after : List Char} (htarget : IsTarget target)
    (hstop : after.head?.any isNameChar = false) :
    begins ['<', '?', 'x', 'm', 'l', ' '] ('<' :: '?' :: (target ++ after)) = false := by
  rw [Bool.eq_false_iff]
  intro hbegins
  have hfront : xml ++ [' '] <+: target ++ after := by
    simpa [begins, xml, List.isPrefixOf_iff_prefix] using hbegins
  -- the target is what stands before the first blank, so it would be `xml`
  have hread := takeWhile_append_stop htarget.name.all hstop
  obtain ⟨more, hmore⟩ := hfront
  have hxml : (xml ++ ([' '] ++ more)).takeWhile isNameChar = xml :=
    takeWhile_append_stop (by decide) (by simp; decide)
  rw [← hmore, List.append_assoc, hxml] at hread
  exact htarget.notXml (by rw [← hread]; decide)

theorem readInstruction_written {n : Node} (h : RendersInstruction n cs) (rest : List Char) :
    ∃ m, m.joined = n ∧ readInstruction (cs ++ rest) = .ok (m, rest) := by
  cases h with
  | @bare target htarget =>
    have hstop : (['?', '>'] ++ rest).head?.any isNameChar = false := by simp; decide
    have hskip : skipSpaces (['?', '>'] ++ rest) = [] ++ (['?', '>'] ++ rest) :=
      skipSpaces_of_stop (by simp; decide)
    have hread := readInstruction_body htarget.name (begins_target htarget hstop) hstop hskip (by simp)
      (by decide)
    exact ⟨.instruction target [], rfl, by simpa using hread⟩
  | @full target gap written htarget hgap hchars hfirst hmark =>
    obtain ⟨c, more, rfl, hc⟩ := hgap.exists_cons
    have hstop : ((c :: more) ++ (written ++ (['?', '>'] ++ rest))).head?.any isNameChar = false := by
      simpa using isNameChar_of_isSpace hc
    have htext : (written ++ (['?', '>'] ++ rest)).head?.any isSpace = false := by
      cases written with
      | nil => simp; decide
      | cons d written => exact hfirst
    have hread := readInstruction_body htarget.name (begins_target htarget hstop) hstop
      (skipSpaces_append hgap.blank htext) hchars hmark
    exact ⟨.instruction target written, rfl, by simpa using hread⟩

theorem readCData_written {written : List Char} (h : RendersSection written cs) :
    readCData (cs ++ rest) = .ok (written, rest) := by
  obtain ⟨hchars, hmark⟩ := h
  have huntil : charsUntil (begins [']', ']', '>']) (written ++ ([']', ']', '>'] ++ rest)) =
      .ok (written, [']', ']', '>'] ++ rest) :=
    charsUntil_mark (x := ']') (n := 1) (by decide) (by decide) hchars hmark
  have hexpect : expectText "]]>" ([']', ']', '>'] ++ rest) = .ok rest := expectText_append (by decide)
  have htext : ['<', '!', '[', 'C', 'D', 'A', 'T', 'A', '['] ++ written ++ [']', ']', '>'] ++ rest =
      '<' :: '!' :: '[' :: 'C' :: 'D' :: 'A' :: 'T' :: 'A' :: '[' :: (written ++ ([']', ']', '>'] ++ rest)) := by
    simp
  rw [htext]
  simp only [readCData, List.drop_succ_cons, List.drop_zero, huntil, hexpect]

end ReleaseBundle.Xml
