import ReleaseBundle.Disk.Change
import ReleaseBundle.Proofs.Disk.Route
import Mathlib.Algebra.GroupWithZero.Nat

/-!
# Parts of joined paths

A lookup goes through the parts of a path, and joining paths puts their parts one after the other,
however many slashes there are in between. `Path.base` is the list of parts without the mark that a
slash at the end leaves; with it the parts of `p.join q` are those of `p.base` followed by those of `q`,
and a lookup of `p.join q` is a lookup of `q` where `p` leads.
-/

namespace ReleaseBundle.Path

/-! ## Splitting -/

theorem splitSlash_append_slash (a b : Bytes) :
    splitSlash (a ++ slash :: b) = splitSlash a ++ splitSlash b := by
  induction a with
  | nil => simp [splitSlash]
  | cons c cs ih =>
    simp only [List.cons_append, splitSlash]
    split
    · rw [ih, List.cons_append]
    · rw [ih]
      cases h : splitSlash cs with
      | nil => exact absurd h (splitSlash_ne_nil cs)
      | cons s ss => simp

theorem splitSlash_of_not_mem {s : Bytes} (h : slash ∉ s) : splitSlash s = [s] := by
  induction s with
  | nil => rfl
  | cons c cs ih =>
    simp only [List.mem_cons, not_or] at h
    rw [splitSlash, if_neg (Ne.symm h.1), ih h.2]

theorem slash_not_mem_of_mem_splitSlash {s bs : Bytes} (h : s ∈ splitSlash bs) : slash ∉ s := by
  induction bs generalizing s with
  | nil =>
    simp only [splitSlash, List.mem_singleton] at h
    simp [h]
  | cons c cs ih =>
    simp only [splitSlash] at h
    split at h
    · rcases List.mem_cons.1 h with rfl | h
      · simp
      · exact ih h
    · next hc =>
      split at h
      · next hnil => exact absurd hnil (splitSlash_ne_nil cs)
      · next t ts hcons =>
        rcases List.mem_cons.1 h with rfl | h
        · have := ih (s := t) (by simp [hcons])
          simp only [List.mem_cons, not_or]
          exact ⟨Ne.symm hc, this⟩
        · exact ih (by simp [hcons, h])

/-! ## Gluing -/

/-- Gluing is undone by splitting at the slashes. -/
theorem splitSlash_glue {s : Bytes} {ss : List Bytes} (h : ∀ t ∈ s :: ss, slash ∉ t) :
    splitSlash (glue (s :: ss)) = s :: ss := by
  induction ss generalizing s with
  | nil => rw [glue_singleton, splitSlash_of_not_mem (h s List.mem_cons_self)]
  | cons t ts ih =>
    rw [glue_cons_cons, splitSlash_append_slash, splitSlash_of_not_mem (h s List.mem_cons_self),
      ih fun u hu => h u (List.mem_cons_of_mem _ hu)]
    rfl

theorem infix_glue {s : Bytes} {ss : List Bytes} (h : s ∈ ss) : s <:+: glue ss := by
  induction ss with
  | nil => cases h
  | cons t ts ih =>
    cases ts with
    | nil =>
      obtain rfl := List.mem_singleton.1 h
      exact (glue_singleton s).symm ▸ List.infix_refl s
    | cons u us =>
      rw [glue_cons_cons]
      rcases List.mem_cons.1 h with rfl | h
      · exact (List.prefix_append _ _).isInfix
      · exact (ih h).trans (((List.suffix_cons _ _).trans (List.suffix_append _ _)).isInfix)

theorem mem_glue {b : UInt8} {ss : List Bytes} (h : b ∈ glue ss) : b = slash ∨ ∃ s ∈ ss, b ∈ s := by
  induction ss with
  | nil => cases h
  | cons t ts ih =>
    cases ts with
    | nil => exact Or.inr ⟨t, List.mem_cons_self, by simpa using h⟩
    | cons u us =>
      rw [glue_cons_cons] at h
      rcases List.mem_append.1 h with h | h
      · exact Or.inr ⟨t, List.mem_cons_self, h⟩
      · rcases List.mem_cons.1 h with h | h
        · exact Or.inl h
        · rcases ih h with h | ⟨s, hs, hb⟩
          · exact Or.inl h
          · exact Or.inr ⟨s, List.mem_cons_of_mem _ hs, hb⟩

/-- Between glued parts there is one slash each, and none behind the last one. -/
theorem getLast?_glue {s : Bytes} {ss : List Bytes} (h : ∀ t ∈ s :: ss, t ≠ [] ∧ slash ∉ t) :
    glue (s :: ss) ≠ [] ∧ (glue (s :: ss)).getLast? ≠ some slash := by
  induction ss generalizing s with
  | nil =>
    obtain ⟨hnil, hslash⟩ := h s List.mem_cons_self
    rw [glue_singleton]
    exact ⟨hnil, fun hlast => hslash (List.mem_of_getLast? hlast)⟩
  | cons t ts ih =>
    obtain ⟨hnil, hlast⟩ := ih fun u hu => h u (List.mem_cons_of_mem _ hu)
    refine ⟨by simp [glue_cons_cons], ?_⟩
    obtain ⟨b, bs, hb⟩ := List.exists_cons_of_ne_nil hnil
    rw [glue_cons_cons, List.getLast?_append, hb, List.getLast?_cons_cons, ← hb]
    cases hend : (glue (t :: ts)).getLast? with
    | none => exact absurd (List.getLast?_eq_none_iff.1 hend) hnil
    | some last => simpa [hend] using hlast

theorem length_glue (ss : List Bytes) :
    (glue ss).length ≤ (ss.map fun s => s.length + 1).sum := by
  induction ss with
  | nil => simp
  | cons s ss ih =>
    cases ss with
    | nil => simp
    | cons t ts =>
      simp only [glue_cons_cons, List.length_append, List.length_cons, List.map_cons, List.sum_cons] at ih ⊢
      omega

/-- The parts between slashes, without a mark for a slash at the end. -/
def base (p : Path) : List Bytes := p.segments.filter (· != [])

theorem steps_eq (p : Path) : p.steps = p.base ++ if p.endsInSlash then [[dot]] else [] := rfl

variable {p q : Path}

theorem bytes_join (hq : q.isAbsolute = false) (hp : p.bytes ≠ []) :
    ∃ front, (p.bytes = front ∨ p.bytes = front ++ [slash]) ∧
      (p.join q).bytes = front ++ slash :: q.bytes := by
  by_cases hslash : p.bytes.getLast? = some slash
  · obtain ⟨front, hfront⟩ : ∃ front, p.bytes = front ++ [slash] := List.getLast?_eq_some_iff.1 hslash
    refine ⟨front, Or.inr hfront, ?_⟩
    simp [join, hq, hfront]
  · exact ⟨p.bytes, Or.inl rfl, by simp [join, hq, hslash, hp]⟩

theorem join_of_nil (hq : q.isAbsolute = false) (hp : p.bytes = []) : p.join q = q := by
  simp [join, hq, hp]

/-- Joining keeps the parts on both sides; at most an empty part between them goes. -/
theorem segments_join (hq : q.isAbsolute = false) (hp : p.bytes ≠ []) :
    ∃ front, front ≠ [] ∧ (p.segments = front ∨ p.segments = front ++ [[]]) ∧
      (p.join q).segments = front ++ q.segments := by
  obtain ⟨front, hfront, hjoin⟩ := bytes_join hq hp
  refine ⟨splitSlash front, splitSlash_ne_nil front, ?_, ?_⟩
  · rcases hfront with h | h
    · exact Or.inl (by rw [segments, h])
    · exact Or.inr (by rw [segments, h, splitSlash_append_slash]; rfl)
  · rw [segments, hjoin, splitSlash_append_slash]
    rfl

theorem base_join (hq : q.isAbsolute = false) : (p.join q).base = p.base ++ q.base := by
  by_cases hp : p.bytes = []
  · rw [join_of_nil hq hp]
    simp [base, segments, hp, splitSlash]
  · obtain ⟨front, _, hfront, hjoin⟩ := segments_join hq hp
    simp only [base, hjoin, List.filter_append]
    rcases hfront with h | h
    · rw [h]
    · simp [h, List.filter_append]

theorem isAbsolute_join (hq : q.isAbsolute = false) : (p.join q).isAbsolute = p.isAbsolute := by
  by_cases hp : p.bytes = []
  · rw [join_of_nil hq hp, hq]
    simp [isAbsolute, hp]
  · obtain ⟨b, bs, hb⟩ := List.exists_cons_of_ne_nil hp
    have hhead : ∀ rest, (⟨p.bytes ++ rest⟩ : Path).isAbsolute = p.isAbsolute := by
      intro rest
      simp [isAbsolute, hb]
    unfold join
    rw [if_neg (by simp [hq])]
    split
    · exact hhead _
    · exact hhead _

theorem endsInSlash_join (hq : q.isAbsolute = false) (hne : q.bytes ≠ []) :
    (p.join q).endsInSlash = q.endsInSlash := by
  by_cases hp : p.bytes = []
  · rw [join_of_nil hq hp]
  · obtain ⟨front, _, hjoin⟩ := bytes_join hq hp
    have : (slash :: q.bytes).getLast? = q.bytes.getLast? := by
      obtain ⟨b, bs, hb⟩ := List.exists_cons_of_ne_nil hne
      rw [hb, List.getLast?_cons_cons]
    simp only [endsInSlash, hjoin]
    rw [List.getLast?_append, this]
    obtain ⟨b, bs, hb⟩ := List.exists_cons_of_ne_nil hne
    simp [hb, List.getLast?_cons]

/-- A lookup of a joined path goes through the parts of the first path and then through those of the
second one. -/
theorem steps_join (hq : q.isAbsolute = false) (hne : q.bytes ≠ []) :
    (p.join q).steps = p.base ++ q.steps := by
  rw [steps_eq, steps_eq, base_join hq, endsInSlash_join hq hne, List.append_assoc]

theorem length_join (hq : q.isAbsolute = false) :
    p.bytes.length ≤ (p.join q).bytes.length ∧ q.bytes.length ≤ (p.join q).bytes.length := by
  simp only [join, hq]
  split
  · simp_all
  · split
    · simp
    · simp
      omega

theorem mem_join (hq : q.isAbsolute = false) {b : UInt8} (hb : b ≠ slash) :
    b ∈ (p.join q).bytes ↔ b ∈ p.bytes ∨ b ∈ q.bytes := by
  simp only [join, hq]
  split
  · simp_all
  · split <;> simp [hb]

/-- What is appended to a joined path is appended to the second path. -/
theorem append_join (hq : q.isAbsolute = false) (hne : q.bytes ≠ []) (suffix : String) :
    (p.join q).append suffix = p.join (q.append suffix) := by
  have hsuffix : (q.append suffix).isAbsolute = false := by
    obtain ⟨b, bs, hb⟩ := List.exists_cons_of_ne_nil hne
    simp only [isAbsolute, append, hb, List.cons_append, List.head?_cons] at hq ⊢
    exact hq
  have hrelative : ∀ r : Path, r.isAbsolute = false → p.join r =
      if p.bytes = [] ∨ p.bytes.getLast? = some slash then ⟨p.bytes ++ r.bytes⟩
      else ⟨p.bytes ++ slash :: r.bytes⟩ := by
    intro r hr
    simp [join, hr]
  rw [hrelative q hq, hrelative _ hsuffix]
  split <;> simp [append]

/-- The path `p` is the path `root` with some further parts. -/
structure Under (root p : Path) (parts : List Bytes) : Prop where
  isAbsolute : p.isAbsolute = root.isAbsolute
  base : p.base = root.base ++ parts
  steps : p.steps = root.base ++ parts

theorem under_join {parts : List Bytes} (hq : q.isAbsolute = false) (hne : q.bytes ≠ [])
    (hbase : q.base = parts) (hsteps : q.steps = parts) : Under p (p.join q) parts where
  isAbsolute := isAbsolute_join hq
  base := by rw [base_join hq, hbase]
  steps := by rw [steps_join hq hne, hsteps]

/-! ## One more part -/

section Part

variable {part : Bytes}

theorem isAbsolute_part (hslash : slash ∉ part) : (⟨part⟩ : Path).isAbsolute = false := by
  cases part with
  | nil => rfl
  | cons b bs =>
    simp only [List.mem_cons, not_or] at hslash
    simpa [isAbsolute] using Ne.symm hslash.1

theorem base_part (hslash : slash ∉ part) (hnil : part ≠ []) : (⟨part⟩ : Path).base = [part] := by
  simp [base, segments, splitSlash_of_not_mem hslash, hnil]

theorem steps_part (hslash : slash ∉ part) (hnil : part ≠ []) : (⟨part⟩ : Path).steps = [part] := by
  have hend : (⟨part⟩ : Path).endsInSlash = false := by
    simp only [endsInSlash, beq_eq_false_iff_ne]
    exact fun h => hslash (List.mem_of_getLast? h)
  simp [steps_eq, base_part hslash hnil, hend]

theorem isAbsolute_child (p : Path) (hslash : slash ∉ part) :
    (p.child part).isAbsolute = p.isAbsolute := isAbsolute_join (isAbsolute_part hslash)

theorem base_child (p : Path) (hslash : slash ∉ part) (hnil : part ≠ []) :
    (p.child part).base = p.base ++ [part] := by
  rw [child, base_join (isAbsolute_part hslash), base_part hslash hnil]

theorem steps_child (p : Path) (hslash : slash ∉ part) (hnil : part ≠ []) :
    (p.child part).steps = p.base ++ [part] := by
  rw [child, steps_join (isAbsolute_part hslash) hnil, steps_part hslash hnil]

theorem endsInSlash_child (p : Path) (hslash : slash ∉ part) (hnil : part ≠ []) :
    (p.child part).endsInSlash = false := by
  rw [child, endsInSlash_join (isAbsolute_part hslash) hnil]
  simp only [endsInSlash, beq_eq_false_iff_ne]
  exact fun h => hslash (List.mem_of_getLast? h)

theorem bytes_child_ne_nil (p : Path) (hslash : slash ∉ part) (hnil : part ≠ []) :
    (p.child part).bytes ≠ [] := by
  have hlength := (length_join (p := p) (isAbsolute_part hslash)).2
  exact List.length_pos_iff.1 (Nat.lt_of_lt_of_le (List.length_pos_iff.2 hnil) hlength)

theorem under_child (p : Path) (hslash : slash ∉ part) (hnil : part ≠ []) :
    Under p (p.child part) [part] :=
  under_join (isAbsolute_part hslash) hnil (base_part hslash hnil) (steps_part hslash hnil)

theorem Under.child {root : Path} {parts : List Bytes} (h : Under root p parts)
    (hslash : slash ∉ part) (hnil : part ≠ []) : Under root (p.child part) (parts ++ [part]) where
  isAbsolute := (isAbsolute_child p hslash).trans h.isAbsolute
  base := by rw [base_child p hslash hnil, h.base, List.append_assoc]
  steps := by rw [steps_child p hslash hnil, h.base, List.append_assoc]

end Part

theorem child_of_no_slash {p : Path} {part : Bytes} (hp : p.bytes ≠ []) (hend : p.endsInSlash = false)
    (hslash : slash ∉ part) : p.child part = ⟨p.bytes ++ slash :: part⟩ := by
  have hlast : p.bytes.getLast? ≠ some slash := by simpa [endsInSlash] using hend
  rw [child, join, if_neg (by simp [isAbsolute_part hslash]), if_neg (by simp [hp, hlast])]

/-- Two parts can be put behind a path at once or one after the other. -/
theorem join_child {last part : Bytes} (p : Path) (hlast : slash ∉ last) (hnil : last ≠ [])
    (hslash : slash ∉ part) : p.join ((⟨last⟩ : Path).child part) = (p.child last).child part := by
  have hone : (⟨last⟩ : Path).endsInSlash = false := by
    simp only [endsInSlash, beq_eq_false_iff_ne]
    exact fun h => hlast (List.mem_of_getLast? h)
  have hrelative : (⟨last ++ slash :: part⟩ : Path).isAbsolute = false := by
    rw [← isAbsolute_part hlast]
    obtain ⟨b, bs, rfl⟩ := List.exists_cons_of_ne_nil hnil
    rfl
  rw [child_of_no_slash (bytes_child_ne_nil p hlast hnil) (endsInSlash_child p hlast hnil) hslash,
    child_of_no_slash hnil hone hslash]
  simp only [child, join, hrelative, isAbsolute_part hlast]
  split
  · contradiction
  · split <;> simp

/-! ## Components -/

theorem component?_name (name : Name) : component? name.bytes = some (.name name.bytes) := by
  simp [component?, isIdle, name.bytes_ne_nil, name.bytes_ne_dot, name.bytes_ne_dots]

/-- The components that the parts between slashes make up. -/
def componentsOf (absolute : Bool) (ss : List Bytes) : List Component :=
  if absolute then .root :: ss.filterMap component?
  else
    match ss with
    | s :: ss => if s = [dot] then .here :: ss.filterMap component? else (s :: ss).filterMap component?
    | [] => []

theorem components_eq (p : Path) : p.components = componentsOf p.isAbsolute p.segments := rfl

/-- Only the first part is special. -/
theorem componentsOf_append {absolute : Bool} {front : List Bytes} (h : front ≠ []) (rest : List Bytes) :
    componentsOf absolute (front ++ rest) =
      componentsOf absolute front ++ rest.filterMap component? := by
  obtain ⟨s, ss, rfl⟩ := List.exists_cons_of_ne_nil h
  unfold componentsOf
  cases absolute with
  | true => rw [if_pos rfl, if_pos rfl, List.filterMap_append, List.cons_append]
  | false =>
    by_cases hdot : s = [dot]
    · simp [hdot]
    · simp only [List.cons_append, hdot, if_false, Bool.false_eq_true]
      rw [← List.cons_append, List.filterMap_append]

/-- What a relative path adds to the components of a path that it is joined to: empty parts and `.` are
dropped and `..` stays. -/
def meaning (p : Path) : List Component := p.segments.filterMap component?

/-- Behind a path that is not empty a relative path adds what it means. -/
theorem components_join (hq : q.isAbsolute = false) (hp : p.bytes ≠ []) :
    (p.join q).components = p.components ++ q.meaning := by
  obtain ⟨front, hnil, hfront, hjoin⟩ := segments_join hq hp
  have hidle : [([] : Bytes)].filterMap component? = [] := rfl
  have hbefore : p.components = componentsOf p.isAbsolute front := by
    rw [components_eq]
    rcases hfront with h | h
    · rw [h]
    · rw [h, componentsOf_append hnil, hidle, List.append_nil]
  rw [hbefore, components_eq, isAbsolute_join hq, hjoin, componentsOf_append hnil, meaning]

theorem components_child_part {part : Bytes} (hp : p.bytes ≠ []) (hslash : slash ∉ part) :
    (p.child part).components = p.components ++ (component? part).toList := by
  have hpart : (⟨part⟩ : Path).segments = [part] := splitSlash_of_not_mem hslash
  have hone : [part].filterMap component? = (component? part).toList := by
    cases h : component? part <;> simp [h]
  rw [child, components_join (isAbsolute_part hslash) hp, meaning, hpart, hone]

theorem components_child (hp : p.bytes ≠ []) (name : Name) :
    (p.child name.bytes).components = p.components ++ [.name name.bytes] := by
  rw [components_child_part hp name.slash_not_mem, component?_name]
  rfl

theorem components_name (name : Name) :
    (⟨name.bytes⟩ : Path).components = [.name name.bytes] := by
  have hsegments : (⟨name.bytes⟩ : Path).segments = [name.bytes] :=
    splitSlash_of_not_mem name.slash_not_mem
  simp [components, isAbsolute_part name.slash_not_mem, hsegments, name.bytes_ne_dot, component?_name]

theorem fileName?_child (p : Path) (name : Name) :
    (p.child name.bytes).fileName? = some name.bytes := by
  by_cases hp : p.bytes = []
  · rw [child, join_of_nil (isAbsolute_part name.slash_not_mem) hp, fileName?, components_name]
    rfl
  · rw [fileName?, components_child hp, List.getLast?_concat]

theorem trimIdle_concat {ss : List Bytes} {last : Bytes} (h : isIdle last = false) :
    trimIdle (ss ++ [last]) = ss ++ [last] := by
  induction ss with
  | nil => simp [trimIdle, h]
  | cons s ss ih =>
    rw [List.cons_append, trimIdle, ih]
    cases ss <;> rfl

theorem parentSegments?_concat {ss : List Bytes} {part : Bytes} (h : isIdle part = false) :
    parentSegments? (ss ++ [part]) = some (trimIdle ss) := by
  unfold parentSegments?
  rw [trimIdle_concat h]
  split
  · next hnil => simp at hnil
  · next t ts hcons => rw [← hcons, List.dropLast_concat]

theorem segments_child_eq {part : Bytes} (hp : p.bytes ≠ []) (hslash : slash ∉ part) {last : Bytes}
    (hlast : last ≠ []) (hend : p.segments.getLast? = some last) :
    (p.child part).segments = p.segments ++ [part] := by
  obtain ⟨front, _, hfront, hjoin⟩ := segments_join (isAbsolute_part hslash) hp
  have hpart : (⟨part⟩ : Path).segments = [part] := splitSlash_of_not_mem hslash
  rcases hfront with h | h
  · rw [child, hjoin, hpart, h]
  · rw [h, List.getLast?_concat, Option.some.injEq] at hend
    exact absurd hend.symm hlast

theorem getLast?_segments_child {last : Bytes} (p : Path) (hslash : slash ∉ last) :
    ∃ front, (p.child last).segments = front ++ [last] ∧ (p.isAbsolute = true → front ≠ []) := by
  have hpart : (⟨last⟩ : Path).segments = [last] := splitSlash_of_not_mem hslash
  by_cases hp : p.bytes = []
  · refine ⟨[], ?_, by simp [isAbsolute, hp]⟩
    rw [child, join_of_nil (isAbsolute_part hslash) hp, hpart, List.nil_append]
  · obtain ⟨front, hnil, _, hjoin⟩ := segments_join (isAbsolute_part hslash) hp
    exact ⟨front, by rw [child, hjoin, hpart], fun _ => hnil⟩

/-- An absolute path begins with an empty part. -/
theorem segments_head_of_isAbsolute {first : Bytes} {rest : List Bytes} (h : p.isAbsolute = true)
    (hsegments : p.segments = first :: rest) : first = [] := by
  obtain ⟨bytes⟩ := p
  cases bytes with
  | nil => simp [isAbsolute] at h
  | cons b bs =>
    obtain rfl : b = slash := by simpa [isAbsolute] using h
    rw [segments, splitSlash, if_pos rfl] at hsegments
    exact (List.cons.inj hsegments).1.symm

/-- Without its last part, a path is the one that the part was put behind. -/
theorem parent?_child {part last : Bytes} (hslash : slash ∉ part) (hpart : isIdle part = false)
    (hlast : slash ∉ last) (hidle : isIdle last = false) :
    ((p.child last).child part).parent? = some (p.child last) := by
  have hnil : last ≠ [] := by rintro rfl; simp [isIdle] at hidle
  obtain ⟨front, hfront, habsFront⟩ := getLast?_segments_child p hlast
  have hwhole := segments_child_eq (bytes_child_ne_nil p hlast hnil) hslash hnil
    (by rw [hfront, List.getLast?_concat])
  have hglue : glue (p.child last).segments = (p.child last).bytes := glue_splitSlash _
  have habs := isAbsolute_child (p.child last) hslash
  have habs' := isAbsolute_child p hlast
  rw [hfront] at hwhole hglue
  have hpath : (⟨glue (front ++ [last])⟩ : Path) = p.child last := by rw [hglue]
  unfold parent?
  rw [habs, hwhole]
  cases front with
  | nil =>
    -- the path is a single name, so it is relative
    have hrelative : (p.child last).isAbsolute = false := by
      rw [habs', Bool.eq_false_iff]
      exact fun h => habsFront h rfl
    have hnotDot : last ≠ [dot] := by rintro rfl; simp [isIdle] at hidle
    simp only [List.nil_append, List.cons_append, hrelative, Bool.false_eq_true, if_false, hnotDot]
    rw [show last :: [part] = [last] ++ [part] from rfl, parentSegments?_concat hpart]
    simpa [trimIdle, hidle] using hpath
  | cons first rest =>
    simp only [List.cons_append]
    rw [parentSegments?_concat hpart, trimIdle_concat hidle]
    split
    · next h =>
      have hsegments : (p.child last).segments = first :: (rest ++ [last]) := by
        rw [hfront]
        rfl
      have hempty := segments_head_of_isAbsolute h hsegments
      rw [hempty] at hglue
      obtain ⟨t, ts, hrest⟩ := List.exists_cons_of_ne_nil (show rest ++ [last] ≠ [] by simp)
      rw [List.cons_append, hrest, glue_cons_cons, List.nil_append] at hglue
      rw [hrest, Option.map_some, hglue]
    · split
      · next hdot =>
        subst hdot
        exact congrArg some hpath
      · rw [show first :: (rest ++ [last] ++ [part]) = (first :: rest ++ [last]) ++ [part] from rfl,
          parentSegments?_concat hpart, trimIdle_concat hidle, Option.map_some, hglue]

/-- A file name is one of the parts of its path. -/
theorem fileName?_spec {name : Bytes} (h : p.fileName? = some name) :
    name <:+: p.bytes ∧ slash ∉ name ∧ name ≠ [] ∧ name ≠ [dot] ∧ name ≠ [dot, dot] := by
  unfold fileName? at h
  split at h
  · next n hlast =>
    obtain rfl : n = name := Option.some.inj h
    have hmem : Component.name n ∈ p.components := List.mem_of_getLast? hlast
    have hpart : ∀ ss : List Bytes, Component.name n ∈ ss.filterMap component? →
        n ∈ ss ∧ n ≠ [] ∧ n ≠ [dot] ∧ n ≠ [dot, dot] := by
      intro ss hin
      obtain ⟨s, hs, hcomponent⟩ := List.mem_filterMap.1 hin
      unfold component? at hcomponent
      split at hcomponent
      · cases hcomponent
      · next hidle =>
        split at hcomponent
        · cases hcomponent
        · next hdots =>
          cases hcomponent
          refine ⟨hs, ?_, ?_, hdots⟩ <;> rintro rfl <;> simp [isIdle] at hidle
    have hsegment : n ∈ p.segments ∧ n ≠ [] ∧ n ≠ [dot] ∧ n ≠ [dot, dot] := by
      unfold components at hmem
      split at hmem
      · rcases List.mem_cons.1 hmem with h | h
        · cases h
        · exact hpart _ h
      · split at hmem
        · next s ss hsegments =>
          rw [hsegments]
          split at hmem
          · rcases List.mem_cons.1 hmem with h | h
            · cases h
            · obtain ⟨hin, hrest⟩ := hpart _ h
              exact ⟨List.mem_cons_of_mem _ hin, hrest⟩
          · exact hpart _ hmem
        · cases hmem
    refine ⟨?_, slash_not_mem_of_mem_splitSlash hsegment.1, hsegment.2⟩
    have := infix_glue hsegment.1
    rwa [segments, glue_splitSlash] at this
  · cases h

/-! ## Slashes at the end -/

theorem dropWhile_slash (bs : Bytes) :
    ∃ k, bs = (bs.reverse.dropWhile (· == slash)).reverse ++ List.replicate k slash := by
  refine ⟨(bs.reverse.takeWhile (· == slash)).length, ?_⟩
  have hslashes : bs.reverse.takeWhile (· == slash) =
      List.replicate (bs.reverse.takeWhile (· == slash)).length slash := by
    refine List.eq_replicate_iff.2 ⟨rfl, fun b hb => ?_⟩
    simpa using List.all_eq_true.1 List.all_takeWhile b hb
  have := congrArg List.reverse (List.takeWhile_append_dropWhile (p := (· == slash)) (l := bs.reverse))
  rw [List.reverse_append, List.reverse_reverse, hslashes, List.reverse_replicate] at this
  exact this.symm

theorem base_append_slashes (bs : Bytes) (k : Nat) :
    (⟨bs ++ List.replicate k slash⟩ : Path).base = (⟨bs⟩ : Path).base := by
  induction k with
  | zero => simp
  | succ k ih =>
    have hsplit : bs ++ List.replicate (k + 1) slash = (bs ++ List.replicate k slash) ++ slash :: [] := by
      rw [List.replicate_succ', List.append_assoc]
    rw [← ih, base, segments, hsplit, splitSlash_append_slash]
    simp [base, segments, splitSlash]

theorem withoutSlashes_base (p : Path) : p.withoutSlashes.base = p.base := by
  obtain ⟨k, hk⟩ := dropWhile_slash p.bytes
  have hbase := base_append_slashes (p.bytes.reverse.dropWhile (· == slash)).reverse k
  rw [← hk] at hbase
  unfold withoutSlashes
  simp only
  split
  · next h =>
    rw [h.1] at hbase
    exact (base_append_slashes [] 1).trans hbase.symm
  · exact hbase.symm

theorem withoutSlashes_isAbsolute (p : Path) : p.withoutSlashes.isAbsolute = p.isAbsolute := by
  obtain ⟨k, hk⟩ := dropWhile_slash p.bytes
  unfold withoutSlashes
  simp only
  split
  · next h =>
    rw [h.2]
    rfl
  · next h =>
    generalize (p.bytes.reverse.dropWhile (· == slash)).reverse = trimmed at h hk
    cases trimmed with
    | nil =>
      have : p.isAbsolute = false := by simpa using h
      rw [this]
      rfl
    | cons b bs => simp [isAbsolute, hk]

/-! ## Directories above a path -/

/-- The parent of a path, the parent of that, and so on. -/
def ancestors (p : Path) : List Path :=
  match _h : p.parent? with
  | none => []
  | some parent => parent :: ancestors parent
termination_by p.bytes.length
decreasing_by exact length_parent _h

theorem ancestors_of_parent (h : p.parent? = some q) : p.ancestors = q :: q.ancestors := by
  rw [ancestors]
  split
  · next hnone => rw [hnone] at h; cases h
  · next parent hsome =>
    rw [hsome, Option.some.injEq] at h
    rw [h]

end ReleaseBundle.Path
