import ReleaseBundle.Bytes.Text

/-!
# Paths

A path is the byte string that was written, never a normalised form of it: joining appends text, and
messages show the text as it is. What a path means is given by two views of that text. `segments` is
the raw split at the slashes. `components` drops what carries no meaning (doubled and trailing
slashes, `.` except at the very start) and keeps `..` as a component like any other.

Prefix tests, file names and parents are decided on components. `parent?` still answers with a part
of the text, so a path and its parent are shown in the same spelling.
-/

namespace ReleaseBundle

/-- A path as it was written. -/
structure Path where
  bytes : Bytes
  deriving DecidableEq, Inhabited

/-- What one significant part of a path says. -/
inductive Component where
  /-- The leading slash of an absolute path. -/
  | root
  /-- A leading `.`. -/
  | here
  /-- `..`, wherever it stands. -/
  | up
  /-- Any other name. -/
  | name (bytes : Bytes)
  deriving DecidableEq

namespace Path

def slash : UInt8 := 0x2F
def dot : UInt8 := 0x2E

end Path

/-- How a component is written. -/
def Component.bytes : Component → Bytes
  | root => [Path.slash]
  | here => [Path.dot]
  | up => [Path.dot, Path.dot]
  | name bytes => bytes

namespace Path

def ofString (s : String) : Path := ⟨Text.ofString s⟩

/-- The text of a path in a message, with U+FFFD for what is not UTF-8. -/
def display (p : Path) : String := Text.display p.bytes

/-- The text of a path, if it is UTF-8. -/
def text? (p : Path) : Option String := (Text.decode? p.bytes).map String.ofList

def isAbsolute (p : Path) : Bool := p.bytes.head? == some slash

/-- The parts between slashes; a text without slashes is one part. -/
def splitSlash : Bytes → List Bytes
  | [] => [[]]
  | b :: bs =>
    if b = slash then [] :: splitSlash bs
    else
      match splitSlash bs with
      | [] => [[b]]
      | s :: ss => (b :: s) :: ss

/-- Puts slashes between parts. -/
def glue (ss : List Bytes) : Bytes := [slash].intercalate ss

def segments (p : Path) : List Bytes := splitSlash p.bytes

/-- An empty part and a `.` do not move anywhere. -/
def isIdle (s : Bytes) : Bool := s == [] || s == [dot]

/-- The meaning of one part that is not the leading one. -/
def component? (s : Bytes) : Option Component :=
  if isIdle s then none else if s = [dot, dot] then some .up else some (.name s)

/-- The significant parts of a path, in order. -/
def components (p : Path) : List Component :=
  if p.isAbsolute then .root :: p.segments.filterMap component?
  else
    match p.segments with
    | s :: ss => if s = [dot] then .here :: ss.filterMap component? else (s :: ss).filterMap component?
    | [] => []

/-- Continues `p` with `q`: an absolute `q` replaces it, and a slash is added where `p` lacks one. -/
def join (p q : Path) : Path :=
  if q.isAbsolute then q
  else if p.bytes = [] ∨ p.bytes.getLast? = some slash then ⟨p.bytes ++ q.bytes⟩
  else ⟨p.bytes ++ slash :: q.bytes⟩

/-- The path of an entry of the directory `p`. -/
def child (p : Path) (name : Bytes) : Path := p.join ⟨name⟩

/-- Appends text to the last part; nothing is replaced. -/
def append (p : Path) (suffix : String) : Path := ⟨p.bytes ++ Text.ofString suffix⟩

/-- The last component, if it is an ordinary name. -/
def fileName? (p : Path) : Option Bytes :=
  match p.components.getLast? with
  | some (.name n) => some n
  | _ => none

/-- Whether the components of `base` are the first components of `p`. -/
def startsWith (p base : Path) : Bool := base.components.isPrefixOf p.components

/-- The components of `p` that follow those of `base`, if `p` starts with `base`. -/
def relativeTo? (p base : Path) : Option (List Component) :=
  if p.startsWith base then some (p.components.drop base.components.length) else none

/-- Drops the idle parts at the end. -/
def trimIdle : List Bytes → List Bytes
  | [] => []
  | s :: ss =>
    match trimIdle ss with
    | [] => if isIdle s then [] else [s]
    | t :: ts => s :: t :: ts

/-- The parts before the last significant one, or `none` if there is no significant part. -/
def parentSegments? (ss : List Bytes) : Option (List Bytes) :=
  match trimIdle ss with
  | [] => none
  | t :: ts => some (trimIdle (t :: ts).dropLast)

/-- The path without its last component, or `none` for a root and for the empty path. -/
def parent? (p : Path) : Option Path :=
  match p.segments with
  | [] => none
  | first :: rest =>
    if p.isAbsolute then (parentSegments? rest).map fun ss => ⟨slash :: glue ss⟩
    else if first = [dot] then
      match parentSegments? rest with
      | none => some ⟨[]⟩
      | some ss => some ⟨glue (first :: ss)⟩
    else (parentSegments? (first :: rest)).map fun ss => ⟨glue ss⟩

/-! ## Splitting and gluing -/

theorem splitSlash_ne_nil (bs : Bytes) : splitSlash bs ≠ [] := by
  cases bs with
  | nil => simp [splitSlash]
  | cons b bs =>
    simp only [splitSlash]
    split
    · simp
    · split <;> simp

@[simp] theorem glue_nil : glue [] = [] := rfl

@[simp] theorem glue_singleton (s : Bytes) : glue [s] = s := by
  simp [glue, List.intercalate]

theorem glue_cons_cons (s t : Bytes) (ts : List Bytes) :
    glue (s :: t :: ts) = s ++ slash :: glue (t :: ts) := by
  simp [glue, List.intercalate, List.intersperse]

theorem glue_splitSlash (bs : Bytes) : glue (splitSlash bs) = bs := by
  induction bs with
  | nil => rfl
  | cons b bs ih =>
    simp only [splitSlash]
    split
    case isTrue h =>
      cases hs : splitSlash bs with
      | nil => exact absurd hs (splitSlash_ne_nil bs)
      | cons s ss =>
        rw [glue_cons_cons, ← hs, ih, h]
        simp
    case isFalse h =>
      cases hs : splitSlash bs with
      | nil => exact absurd hs (splitSlash_ne_nil bs)
      | cons s ss =>
        rw [hs] at ih
        cases ss with
        | nil => simpa using ih
        | cons t ts =>
          rw [glue_cons_cons] at ih
          simp [glue_cons_cons, ih]

theorem length_glue_append (ss ts : List Bytes) :
    (glue ss).length ≤ (glue (ss ++ ts)).length := by
  induction ss with
  | nil => simp
  | cons s ss ih =>
    cases ss with
    | nil =>
      cases ts with
      | nil => simp
      | cons t ts => simp [glue_cons_cons]
    | cons t tail =>
      simp only [List.cons_append, glue_cons_cons, List.length_append, List.length_cons] at ih ⊢
      omega

theorem length_glue_snoc (ss : List Bytes) (s : Bytes) :
    (glue ss).length + s.length ≤ (glue (ss ++ [s])).length := by
  induction ss with
  | nil => simp
  | cons t ts ih =>
    cases ts with
    | nil => simp [glue_cons_cons]
    | cons u us =>
      simp only [List.cons_append, glue_cons_cons, List.length_append, List.length_cons] at ih ⊢
      omega

/-! ## A parent is shorter -/

theorem trimIdle_append (ss : List Bytes) : ∃ ts, ss = trimIdle ss ++ ts := by
  induction ss with
  | nil => exact ⟨[], rfl⟩
  | cons s ss ih =>
    obtain ⟨ts, h⟩ := ih
    simp only [trimIdle]
    split
    case h_1 hnil =>
      split
      · exact ⟨s :: ss, rfl⟩
      · exact ⟨ss, rfl⟩
    case h_2 t tail hcons =>
      refine ⟨ts, ?_⟩
      rw [hcons] at h
      simp [← h]

theorem getLast_trimIdle (ss : List Bytes) (h : trimIdle ss ≠ []) :
    isIdle ((trimIdle ss).getLast h) = false := by
  induction ss with
  | nil => exact absurd rfl h
  | cons s ss ih =>
    cases hs : trimIdle ss with
    | nil =>
      cases hi : isIdle s with
      | true => exact absurd (by simp [trimIdle, hs, hi]) h
      | false => simp [trimIdle, hs, hi]
    | cons t ts =>
      have := ih (by simp [hs])
      simpa [trimIdle, hs] using this

theorem length_glue_trimIdle (ss : List Bytes) : (glue (trimIdle ss)).length ≤ (glue ss).length := by
  obtain ⟨ts, h⟩ := trimIdle_append ss
  conv => rhs; rw [h]
  exact length_glue_append _ _

theorem length_parentSegments {ss ts : List Bytes} (h : parentSegments? ss = some ts) :
    (glue ts).length < (glue ss).length := by
  unfold parentSegments? at h
  split at h
  · cases h
  case h_2 t tail hne =>
    cases h
    have hlast := getLast_trimIdle ss (by simp [hne])
    have hpos : 0 < ((trimIdle ss).getLast (by simp [hne])).length := by
      cases hl : (trimIdle ss).getLast (by simp [hne]) with
      | nil => rw [hl] at hlast; simp [isIdle] at hlast
      | cons _ _ => simp
    have hsplit := List.dropLast_concat_getLast (show trimIdle ss ≠ [] by simp [hne])
    have h1 := length_glue_snoc (trimIdle ss).dropLast ((trimIdle ss).getLast (by simp [hne]))
    rw [hsplit] at h1
    have h2 := length_glue_trimIdle ss
    rw [← hne]
    have h3 := length_glue_trimIdle (trimIdle ss).dropLast
    omega

theorem length_parent {p q : Path} (h : p.parent? = some q) : q.bytes.length < p.bytes.length := by
  have hglue : glue p.segments = p.bytes := glue_splitSlash p.bytes
  unfold parent? at h
  split at h
  · cases h
  case h_2 first rest hseg =>
    rw [hseg] at hglue
    split at h
    case isTrue habs =>
      rw [Option.map_eq_some_iff] at h
      obtain ⟨ss, hss, rfl⟩ := h
      have hlt := length_parentSegments hss
      cases rest with
      | nil => simp [parentSegments?, trimIdle] at hss
      | cons t ts =>
        rw [← hglue, glue_cons_cons]
        simp only [List.length_append, List.length_cons]
        omega
    case isFalse habs =>
      split at h
      case isTrue hdot =>
        split at h
        case h_1 =>
          cases h
          rw [← hglue]
          have := length_glue_append [first] rest
          simp [hdot] at this ⊢
          omega
        case h_2 ss hss =>
          cases h
          have hlt := length_parentSegments hss
          rw [← hglue]
          cases rest with
          | nil => simp [parentSegments?, trimIdle] at hss
          | cons t ts =>
            cases ss with
            | nil => simp [glue_cons_cons]
            | cons u us => simp only [glue_cons_cons, List.length_append, List.length_cons] at hlt ⊢; omega
      case isFalse hdot =>
        rw [Option.map_eq_some_iff] at h
        obtain ⟨ss, hss, rfl⟩ := h
        have hlt := length_parentSegments hss
        rw [← hglue]
        exact hlt

end Path

end ReleaseBundle
