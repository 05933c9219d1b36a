import ReleaseBundle.Proofs.Path.Parts

/-!
# What the spelling of a path does not change

A path is kept as it was written, but much of what is written says nothing: slashes may be doubled, one
may stand at the end, and a `.` may be put in anywhere. `Path.meaning` is what is left, and what a relative
path adds to the components of any path that is not empty. (Joined to the empty path it comes first, where
a `.` counts.) `Path.Respelled` relates the spellings of one path to each other, and what a path means is
the same in all of them.
-/

namespace ReleaseBundle.Path

variable {p q base : Path}

/-- Which of two relative paths begins with the other does not depend on what they are joined to. -/
theorem startsWith_join (hp : p.isAbsolute = false) (hq : q.isAbsolute = false) (hbase : base.bytes ≠ []) :
    (base.join q).startsWith (base.join p) = true ↔ p.meaning <+: q.meaning := by
  rw [startsWith, List.isPrefixOf_iff_prefix, components_join hp hbase, components_join hq hbase,
    List.prefix_append_right_inj]

/-- Two spellings of one path. -/
inductive Respelled : Path → Path → Prop where
  /-- A slash is doubled. -/
  | doubled (front rest : Bytes) :
      Respelled ⟨front ++ slash :: rest⟩ ⟨front ++ slash :: slash :: rest⟩
  /-- A slash is put at the end. -/
  | trailing (front : Bytes) (h : front ≠ []) : Respelled ⟨front⟩ ⟨front ++ [slash]⟩
  /-- A `.` is put in behind a slash. -/
  | inserted (front rest : Bytes) :
      Respelled ⟨front ++ slash :: rest⟩ ⟨front ++ slash :: dot :: slash :: rest⟩
  /-- A `.` is put in front. -/
  | leading (rest : Bytes) (h : (⟨rest⟩ : Path).isAbsolute = false) :
      Respelled ⟨rest⟩ ⟨dot :: slash :: rest⟩
  | refl (p : Path) : Respelled p p
  | symm {p q : Path} : Respelled p q → Respelled q p
  | trans {p q r : Path} : Respelled p q → Respelled q r → Respelled p r

theorem meaning_append_slash (front rest : Bytes) :
    (⟨front ++ slash :: rest⟩ : Path).meaning = (⟨front⟩ : Path).meaning ++ (⟨rest⟩ : Path).meaning := by
  simp only [meaning, segments, splitSlash_append_slash, List.filterMap_append]

namespace Respelled

theorem meaning_eq (h : Respelled p q) : p.meaning = q.meaning := by
  have hnothing : (⟨[]⟩ : Path).meaning = [] := by decide
  have hdot : (⟨[dot]⟩ : Path).meaning = [] := by decide
  induction h with
  | doubled front rest =>
    rw [meaning_append_slash, meaning_append_slash, ← List.nil_append (slash :: rest),
      meaning_append_slash, hnothing, List.nil_append]
  | trailing front _ => rw [meaning_append_slash, hnothing, List.append_nil]
  | inserted front rest =>
    rw [meaning_append_slash, meaning_append_slash, ← List.singleton_append (l := slash :: rest),
      meaning_append_slash, hdot, List.nil_append]
  | leading rest _ =>
    rw [← List.singleton_append (l := slash :: rest), meaning_append_slash, hdot, List.nil_append]
  | refl p => rfl
  | symm _ ih => exact ih.symm
  | trans _ _ ih ih' => exact ih.trans ih'

/-- A relative path has no absolute spelling. -/
theorem isAbsolute_eq (h : Respelled p q) : p.isAbsolute = q.isAbsolute := by
  have hfirst (front rest rest' : Bytes) :
      (⟨front ++ slash :: rest⟩ : Path).isAbsolute = (⟨front ++ slash :: rest'⟩ : Path).isAbsolute := by
    cases front <;> rfl
  induction h with
  | doubled front rest => exact hfirst _ _ _
  | trailing front hnil =>
    obtain ⟨b, bs, rfl⟩ := List.exists_cons_of_ne_nil hnil
    rfl
  | inserted front rest => exact hfirst _ _ _
  | leading rest hrelative =>
    rw [hrelative]
    rfl
  | refl p => rfl
  | symm _ ih => exact ih.symm
  | trans _ _ ih ih' => exact ih.trans ih'

/-- A `.` at the end is one that was put in before a slash at the end. -/
theorem dotted (front : Bytes) (h : front ≠ []) : Respelled ⟨front⟩ ⟨front ++ [slash, dot]⟩ := by
  have hend : Respelled ⟨front ++ [slash, dot]⟩ ⟨front ++ [slash, dot, slash]⟩ := by
    have htrailing := trailing (front ++ [slash, dot]) (by simp)
    rwa [List.append_assoc] at htrailing
  exact ((trailing front h).trans (inserted front [])).trans hend.symm

end Respelled

/-! ## The plainest spelling -/

/-- Parts behind a path, with a slash before each of them. -/
def trail (ss : List Bytes) : Bytes := ss.flatMap (slash :: ·)

theorem glue_eq_trail (s : Bytes) (ss : List Bytes) : glue (s :: ss) = s ++ trail ss := by
  induction ss generalizing s with
  | nil => rw [glue_singleton, trail, List.flatMap_nil, List.append_nil]
  | cons t ts ih =>
    rw [glue_cons_cons, ih, trail, trail, List.flatMap_cons, List.cons_append]

/-- The parts that mean something. -/
def significant (ss : List Bytes) : List Bytes := ss.filter (!isIdle ·)

theorem bytes_of_component? {s : Bytes} {c : Component} (h : component? s = some c) : c.bytes = s := by
  unfold component? at h
  split at h
  · cases h
  · split at h
    · next hdots =>
      cases h
      exact hdots.symm
    · cases h
      rfl

theorem significant_eq (ss : List Bytes) :
    significant ss = (ss.filterMap component?).map Component.bytes := by
  induction ss with
  | nil => rfl
  | cons s ss ih =>
    cases hidle : isIdle s with
    | true =>
      have hnone : component? s = none := by rw [component?, if_pos hidle]
      rw [List.filterMap_cons_none hnone, ← ih, significant, List.filter_cons_of_neg (by simp [hidle])]
      rfl
    | false =>
      have hisSome : (component? s).isSome := by
        rw [component?, if_neg (by simp [hidle])]
        split <;> rfl
      obtain ⟨c, hsome⟩ := Option.isSome_iff_exists.1 hisSome
      rw [List.filterMap_cons_some hsome, List.map_cons, bytes_of_component? hsome, ← ih, significant,
        List.filter_cons_of_pos (by simp [hidle])]
      rfl

namespace Respelled

/-- Behind something, idle parts can be taken out one by one. -/
theorem significant_trail {front : Bytes} (h : front ≠ []) (ss : List Bytes) :
    Respelled ⟨front ++ trail ss⟩ ⟨front ++ trail (significant ss)⟩ := by
  induction ss generalizing front with
  | nil => exact refl _
  | cons s ss ih =>
    cases hidle : isIdle s with
    | false =>
      have hkept : significant (s :: ss) = s :: significant ss :=
        List.filter_cons_of_pos (by simp [hidle])
      have hrest := ih (show front ++ slash :: s ≠ [] by simp)
      rw [hkept, trail, trail, List.flatMap_cons, List.flatMap_cons]
      simpa [trail] using hrest
    | true =>
      have hdropped : significant (s :: ss) = significant ss := List.filter_cons_of_neg (by simp [hidle])
      rw [hdropped]
      refine trans ?_ (ih h)
      have hout : s = [] ∨ s = [dot] := by simpa [isIdle] using hidle
      rcases hout with rfl | rfl
      · cases ss with
        | nil => simpa [trail] using (trailing front h).symm
        | cons t ts => exact (doubled front (t ++ trail ts)).symm
      · cases ss with
        | nil => simpa [trail] using (dotted front h).symm
        | cons t ts => exact (inserted front (t ++ trail ts)).symm

/-- The plainest spelling of a relative path is its meaning written out. -/
theorem plainest (h : p.isAbsolute = false) : Respelled p ⟨glue (p.meaning.map Component.bytes)⟩ := by
  rw [meaning, ← significant_eq]
  have hbytes : p.bytes = glue p.segments := (glue_splitSlash p.bytes).symm
  cases hsegments : p.segments with
  | nil => exact absurd hsegments (splitSlash_ne_nil _)
  | cons s ss =>
    rw [hsegments, glue_eq_trail] at hbytes
    have hpath : p = ⟨s ++ trail ss⟩ := congrArg Path.mk hbytes
    cases hidle : isIdle s with
    | false =>
      have hkept : significant (s :: ss) = s :: significant ss :=
        List.filter_cons_of_pos (by simp [hidle])
      have hnil : s ≠ [] := by
        rintro rfl
        cases hidle
      rw [hkept, glue_eq_trail, hpath]
      exact significant_trail hnil ss
    | true =>
      have hdropped : significant (s :: ss) = significant ss := List.filter_cons_of_neg (by simp [hidle])
      rw [hdropped]
      have hout : s = [] ∨ s = [dot] := by simpa [isIdle] using hidle
      rcases hout with rfl | rfl
      · -- a relative path whose first part is empty is empty
        cases ss with
        | nil =>
          rw [hpath]
          exact refl _
        | cons t ts =>
          rw [hpath] at h
          cases h
      · rw [hpath]
        refine (significant_trail (by simp) ss).trans ?_
        cases hrest : significant ss with
        | nil => exact (trailing [dot] (by simp)).trans (leading [] rfl).symm
        | cons t ts =>
          have hnil : t ≠ [] := by
            rintro rfl
            have hmem : [] ∈ significant ss := hrest ▸ List.mem_cons_self
            exact absurd (List.mem_filter.1 hmem).2 (by decide)
          have hslash : slash ∉ t := by
            have hmem : t ∈ significant ss := hrest ▸ List.mem_cons_self
            have hpart : t ∈ p.segments := hsegments ▸ List.mem_cons_of_mem _ (List.mem_filter.1 hmem).1
            exact slash_not_mem_of_mem_splitSlash hpart
          have hrelative : (⟨glue (t :: ts)⟩ : Path).isAbsolute = false := by
            rw [glue_eq_trail]
            obtain ⟨b, bs, rfl⟩ := List.exists_cons_of_ne_nil hnil
            have hpart : (⟨b :: bs⟩ : Path).isAbsolute = false := isAbsolute_part hslash
            exact hpart
          have hleading := (leading _ hrelative).symm
          rwa [glue_eq_trail] at hleading ⊢

end Respelled

/-- Two relative paths mean the same exactly if they are spellings of one path. -/
theorem meaning_eq_iff_respelled (hp : p.isAbsolute = false) (hq : q.isAbsolute = false) :
    p.meaning = q.meaning ↔ Respelled p q := by
  refine ⟨fun hsame => ?_, fun hspelling => hspelling.meaning_eq⟩
  have hplainest := Respelled.plainest hp
  rw [hsame] at hplainest
  exact hplainest.trans (Respelled.plainest hq).symm

end ReleaseBundle.Path
