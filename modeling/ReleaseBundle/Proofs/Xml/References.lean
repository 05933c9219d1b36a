import ReleaseBundle.Proofs.Xml.Scanning

/-!
# Reading references and line ends

A run that is written from pieces is taken apart into these pieces again. What the pieces stand for is
then read as `Rendering` says: the value of an attribute by the rule of the standard, the text of an
element by the rule in which a carriage return beside a reference is kept.
-/

namespace ReleaseBundle.Xml

variable {c : Char} {cs rest : List Char} {ps : List Piece}

/-! ## References -/

theorem charOfNumber?_toNat (hchar : isChar c = true) : charOfNumber? c.toNat = some c := by
  have hsize : ¬ 0x100000000 ≤ c.toNat := by
    rcases c.valid with h | ⟨-, h⟩
    · exact Nat.not_le.2 (Nat.lt_trans h (by decide))
    · exact Nat.not_le.2 (Nat.lt_trans h (by decide))
  have hvalid : c.toNat.isValidChar := c.valid
  simp only [charOfNumber?, if_neg hsize, if_pos hvalid, Char.ofNat_toNat, hchar, if_true]

theorem readNumber?_append {base : Nat} {isDigit : Char → Bool} {digits : List Char}
    (hsome : digits ≠ []) (hdigits : ∀ d ∈ digits, isDigit d = true) (hmark : isDigit ';' = false)
    (hnumber : numberOf base digits = c.toNat) (hchar : isChar c = true) (rest : List Char) :
    readNumber? base isDigit (digits ++ ';' :: rest) = some (.char c, rest) := by
  have hstop : (';' :: rest).head?.any isDigit = false := by simpa using hmark
  simp only [readNumber?, dropWhile_append_stop hdigits hstop, takeWhile_append_stop hdigits hstop,
    if_neg hsome, hnumber, charOfNumber?_toNat hchar]
  rfl

theorem isName_of_predefined {name : List Char} (h : (name, c) ∈ predefined) : IsName name := by
  simp only [predefined, List.mem_cons, Prod.mk.injEq, List.not_mem_nil, or_false] at h
  rcases h with ⟨rfl, -⟩ | ⟨rfl, -⟩ | ⟨rfl, -⟩ | ⟨rfl, -⟩ | ⟨rfl, -⟩
  all_goals constructor <;> decide

theorem lookup_predefined {name : List Char} (h : (name, c) ∈ predefined) :
    predefined.lookup name = some c := by
  simp only [predefined, List.mem_cons, Prod.mk.injEq, List.not_mem_nil, or_false] at h
  rcases h with ⟨rfl, rfl⟩ | ⟨rfl, rfl⟩ | ⟨rfl, rfl⟩ | ⟨rfl, rfl⟩ | ⟨rfl, rfl⟩
  all_goals rfl

/-- A reference is read as the character that it was written for, whatever follows. -/
theorem Refers.exists_read (h : Refers c cs) :
    ∃ body, cs = '&' :: body ∧ ∀ rest, readReference? (body ++ rest) = some (.char c, rest) := by
  cases h with
  | @decimal digits hsome hdigits hnumber hchar =>
    refine ⟨'#' :: digits ++ [';'], rfl, fun rest => ?_⟩
    have hread := readNumber?_append hsome hdigits (by decide) hnumber hchar rest
    obtain ⟨d, digits, rfl⟩ := List.exists_cons_of_ne_nil hsome
    have hdigit : d ≠ 'x' := by
      rintro rfl
      exact absurd (hdigits 'x' (by simp)) (by decide)
    have htext : '#' :: (d :: digits) ++ [';'] ++ rest = '#' :: d :: (digits ++ ';' :: rest) := by simp
    rw [htext, readReference?]
    · simpa using hread
    · intro more heq
      simp only [List.cons.injEq] at heq
      exact hdigit heq.1
  | @hexadecimal digits hsome hdigits hnumber hchar =>
    refine ⟨'#' :: 'x' :: digits ++ [';'], rfl, fun rest => ?_⟩
    have htext : '#' :: 'x' :: digits ++ [';'] ++ rest = '#' :: 'x' :: (digits ++ ';' :: rest) := by simp
    rw [htext, readReference?]
    exact readNumber?_append hsome hdigits (by decide) hnumber hchar rest
  | @named name hname =>
    refine ⟨name ++ [';'], rfl, fun rest => ?_⟩
    have hread : readName (name ++ ';' :: rest) = .ok (name, ';' :: rest) :=
      readName_append (isName_of_predefined hname) (by simp; decide)
    have hnumber : name.head? ≠ some '#' := by
      obtain ⟨d, more, rfl, hstart⟩ := (isName_of_predefined hname).exists_cons
      rintro heq
      have hd : d = '#' := by simpa using heq
      exact absurd (hd ▸ hstart) (by decide)
    obtain ⟨d, more, rfl⟩ := List.exists_cons_of_ne_nil (isName_of_predefined hname).ne_nil
    have htext : d :: more ++ [';'] ++ rest = d :: more ++ ';' :: rest := by simp
    rw [htext, readReference?]
    · simp only [hread, lookup_predefined hname]
    · intro after heq
      simp only [List.cons_append, List.cons.injEq] at heq
      exact hnumber (by simp [heq.1])
    · intro after heq
      simp only [List.cons_append, List.cons.injEq] at heq
      exact hnumber (by simp [heq.1])

/-! ## Runs -/

theorem piecesFrom_rendered {behind : List Char} {sofar : List Piece} (h : RendersRun ps cs) :
    piecesFrom behind sofar cs = .ok (sofar.reverse ++ ps) := by
  induction h generalizing sofar with
  | nil => simp [piecesFrom]
  | literal hchar htag hreference hmore ih =>
    rw [piecesFrom, if_neg hreference, ih]
    simp
  | @reference c ps cs ds hrefers hmore ih =>
    obtain ⟨body, rfl, hread⟩ := hrefers.exists_read
    rw [List.cons_append, piecesFrom, if_pos rfl]
    split
    · next hnone => simp [hread ds] at hnone
    · next hnone => simp [hread ds] at hnone
    · next r after hsome =>
      rw [hread ds] at hsome
      cases hsome
      rw [ih]
      simp

/-- A run is taken apart into the pieces that it was written from. -/
theorem pieces_rendered {behind : List Char} (h : RendersRun ps cs) : pieces behind cs = .ok ps :=
  piecesFrom_rendered h

/-- The characters of text: those of a document but the one that begins a tag. -/
def isRunChar (c : Char) : Bool := isChar c && c != '<'

theorem isRunChar_of_isDigit (h : c.isDigit = true) : isRunChar c = true := by
  simp only [Char.isDigit, Bool.and_eq_true, decide_eq_true_eq] at h
  have hlow : 48 ≤ c.toNat := h.1
  have hhigh : c.toNat ≤ 57 := h.2
  have htag : c ≠ '<' := by
    rintro rfl
    exact absurd hhigh (by decide)
  refine Bool.and_eq_true_iff.2 ⟨?_, bne_iff_ne.2 htag⟩
  simp only [isChar, Bool.and_eq_true, Bool.or_eq_true, bne_iff_ne, beq_iff_eq, decide_eq_true_eq]
  omega

theorem isRunChar_of_isHexDigit (h : isHexDigit c = true) : isRunChar c = true := by
  have hrange : 48 ≤ c.toNat ∧ c.toNat ≤ 57 ∨ 65 ≤ c.toNat ∧ c.toNat ≤ 102 := by
    simp only [isHexDigit, Bytes.hexValue?] at h
    split at h
    · next hc => exact .inl hc
    · split at h
      · next hc => exact .inr ⟨Nat.le_trans (by decide) hc.1, hc.2⟩
      · split at h
        · next hc => exact .inr ⟨hc.1, Nat.le_trans hc.2 (by decide)⟩
        · cases h
  have htag : c ≠ '<' := by
    rintro rfl
    exact absurd hrange (by decide)
  refine Bool.and_eq_true_iff.2 ⟨?_, bne_iff_ne.2 htag⟩
  simp only [isChar, Bool.and_eq_true, Bool.or_eq_true, bne_iff_ne, beq_iff_eq, decide_eq_true_eq]
  omega

theorem Refers.all_isRunChar (h : Refers c cs) : ∀ d ∈ cs, isRunChar d = true := by
  intro d hd
  cases h with
  | decimal hsome hdigits =>
    simp only [List.mem_append, List.mem_cons, List.not_mem_nil, or_false] at hd
    rcases hd with (rfl | rfl | hd) | rfl
    · decide
    · decide
    · exact isRunChar_of_isDigit (hdigits d hd)
    · decide
  | hexadecimal hsome hdigits =>
    simp only [List.mem_append, List.mem_cons, List.not_mem_nil, or_false] at hd
    rcases hd with (rfl | rfl | rfl | hd) | rfl
    · decide
    · decide
    · decide
    · exact isRunChar_of_isHexDigit (hdigits d hd)
    · decide
  | @named name hname =>
    have hletters : ∀ entry ∈ predefined, ∀ e ∈ entry.1, isRunChar e = true := by decide
    simp only [List.mem_append, List.mem_cons, List.not_mem_nil, or_false] at hd
    rcases hd with (rfl | hd) | rfl
    · decide
    · exact hletters _ hname d hd
    · decide

theorem RendersRun.all_isRunChar (h : RendersRun ps cs) : ∀ d ∈ cs, isRunChar d = true := by
  induction h with
  | nil => simp
  | literal hchar htag hreference hmore ih =>
    intro d hd
    rcases List.mem_cons.1 hd with rfl | hd
    · simp [isRunChar, hchar, htag]
    · exact ih d hd
  | reference hrefers hmore ih =>
    intro d hd
    rcases List.mem_append.1 hd with hd | hd
    · exact hrefers.all_isRunChar d hd
    · exact ih d hd

/-! ## Line ends -/

@[simp] theorem keptEnds_referred (afterReference : Bool) (c : Char) (ps : List Piece) :
    keptEnds afterReference (.referred c :: ps) = .referred c :: keptEnds true ps := by
  rw [keptEnds]

theorem keptEnds_literal (afterReference : Bool) (hc : c ≠ '\r') (ps : List Piece) :
    keptEnds afterReference (.literal c :: ps) = .literal c :: keptEnds false ps := by
  rw [keptEnds] <;> simp [hc]

theorem keptEnds_return_literal (afterReference : Bool) (hc : c ≠ '\n') (ps : List Piece) :
    keptEnds afterReference (.literal '\r' :: .literal c :: ps) =
      .literal '\n' :: keptEnds false (.literal c :: ps) := by
  rw [keptEnds] <;> simp [hc]

theorem runTextFrom_behind_reference (sofar : List Char) (c : Char) (ps : List Piece) :
    runTextFrom true sofar (.literal c :: ps) = runTextFrom false (c :: sofar) ps := rfl

theorem runTextFrom_settled {sofar : List Char} (hsofar : sofar.head? ≠ some '\r') (c : Char)
    (ps : List Piece) : runTextFrom false sofar (.literal c :: ps) =
      if c = '\r' ∧ ps = [] then runTextFrom false ('\n' :: sofar) ps
      else runTextFrom false (c :: sofar) ps := by
  have hbefore : ¬ (c = '\n' ∧ sofar.head? = some '\r') := fun h => hsofar h.2
  cases sofar with
  | nil => rw [runTextFrom.eq_def]; simp
  | cons d sofar =>
    have hd : d ≠ '\r' := by simpa using hsofar
    rw [runTextFrom.eq_def]
    simp [hd]

theorem runTextFrom_waiting (sofar : List Char) (c : Char) (ps : List Piece) :
    runTextFrom false ('\r' :: sofar) (.literal c :: ps) =
      if c = '\r' ∧ ps = [] then runTextFrom false ('\n' :: '\n' :: sofar) ps
      else if c = '\n' then runTextFrom false ('\n' :: sofar) ps
      else runTextFrom false (c :: '\n' :: sofar) ps := by
  rw [runTextFrom.eq_def]
  simp

/-- How the reader goes on with text, by what it has read before: a reference, anything that needs no
further thought, or a carriage return that waits for what follows it. -/
structure JoinsAs (ps : List Piece) : Prop where
  afterReference : ∀ sofar, runTextFrom true sofar ps = sofar.reverse ++ (keptEnds true ps).map Piece.char
  settled : ∀ sofar, sofar.head? ≠ some '\r' →
    runTextFrom false sofar ps = sofar.reverse ++ (keptEnds false ps).map Piece.char
  waiting : ∀ sofar behind, (ps = [] → behind = true) →
    runTextFrom false ('\r' :: sofar) ps =
      sofar.reverse ++ (keptEnds behind (.literal '\r' :: ps)).map Piece.char

theorem joinsAs_nil : JoinsAs [] := by
  constructor
  · intro sofar
    simp [runTextFrom, keptEnds]
  · intro sofar _
    simp [runTextFrom, keptEnds]
  · intro sofar behind hbehind
    simp [runTextFrom, keptEnds, hbehind rfl, Piece.char]

theorem JoinsAs.referred (h : JoinsAs ps) (c : Char) : JoinsAs (.referred c :: ps) := by
  constructor
  · intro sofar
    simp [runTextFrom, h.afterReference, Piece.char]
  · intro sofar _
    simp [runTextFrom, h.afterReference, Piece.char]
  · intro sofar behind _
    simp [runTextFrom, h.afterReference, keptEnds, Piece.char]

theorem JoinsAs.literal (h : JoinsAs ps) (c : Char) : JoinsAs (.literal c :: ps) := by
  constructor
  · intro sofar
    rw [runTextFrom_behind_reference]
    by_cases hc : c = '\r'
    · subst hc
      exact h.waiting sofar true (fun _ => rfl)
    · rw [h.settled (c :: sofar) (by simpa using hc), keptEnds_literal true hc]
      simp [Piece.char]
  · intro sofar hsofar
    rw [runTextFrom_settled hsofar]
    by_cases hc : c = '\r'
    · subst hc
      by_cases hend : ps = []
      · subst hend
        simp [runTextFrom, keptEnds, Piece.char]
      · rw [if_neg (by simp [hend])]
        exact h.waiting sofar false (fun hempty => absurd hempty hend)
    · rw [if_neg (by simp [hc]), h.settled (c :: sofar) (by simpa using hc), keptEnds_literal false hc]
      simp [Piece.char]
  · intro sofar behind _
    rw [runTextFrom_waiting]
    by_cases hfeed : c = '\n'
    · subst hfeed
      rw [if_neg (by simp), if_pos rfl, h.settled ('\n' :: sofar) (by simp)]
      simp [keptEnds, Piece.char]
    · rw [keptEnds_return_literal behind hfeed]
      by_cases hc : c = '\r'
      · subst hc
        by_cases hend : ps = []
        · subst hend
          simp [runTextFrom, keptEnds, Piece.char]
        · rw [if_neg (by simp [hend]), if_neg hfeed,
            h.waiting ('\n' :: sofar) false (fun hempty => absurd hempty hend)]
          simp [Piece.char]
      · rw [if_neg (by simp [hc]), if_neg hfeed, h.settled (c :: '\n' :: sofar) (by simpa using hc),
          keptEnds_literal false hc]
        simp [Piece.char]

theorem joinsAs (ps : List Piece) : JoinsAs ps := by
  induction ps with
  | nil => exact joinsAs_nil
  | cons p ps ih =>
    cases p with
    | literal c => exact ih.literal c
    | referred c => exact ih.referred c

/-- The reader joins a run to the text that its own rule gives. -/
theorem runText_eq_keptText (ps : List Piece) : runText ps = keptText ps := by
  simpa [runText, keptText] using (joinsAs ps).settled [] (by simp)

theorem lineEnds_literal (hc : c ≠ '\r') (ps : List Piece) :
    lineEnds (.literal c :: ps) = .literal c :: lineEnds ps := by
  rw [lineEnds] <;> simp [hc]

/-- The reader takes the value of an attribute as the standard does. -/
theorem valueText_eq_standardValue (ps : List Piece) : valueText ps = standardValue ps := by
  unfold standardValue
  fun_induction valueText ps with
  | case1 ps ih => simp [lineEnds, ih, Piece.valueChar, isSpace]
  | case2 c ps hfeed ih =>
    by_cases hc : c = '\r'
    · subst hc
      rw [ih, lineEnds]
      · simp [Piece.valueChar, isSpace]
      · exact fun more hmore => hfeed more hmore rfl
    · rw [ih, lineEnds_literal hc]
      by_cases hspace : c = ' '
      · simp [hspace, Piece.valueChar, isSpace]
      · simp [Piece.valueChar, isSpace, hc, hspace, or_comm]
  | case3 c ps ih => simp [lineEnds, ih, Piece.valueChar]
  | case4 => simp [lineEnds]

end ReleaseBundle.Xml
