import ReleaseBundle.Disk.Lookup
import ReleaseBundle.Failure

/-!
# The contents of a bundle

A bundle is a directory with everything below it, where links stand for what they lead to. `collect`
lists it: a directory comes before its contents, and the entries of a directory come in the order of
their names, so the list depends on nothing but the tree. Entries are named from the last part of the
directory's path on.

A link to a directory that the walk is inside of would never end, so it is refused. Ordinary
subdirectories are not checked: below a link they may well be directories that are open already. The
walk ends all the same, because it goes down in an open directory only as far as the disk is deep, and
every other step opens one more directory.
-/

namespace ReleaseBundle.Bundle

/-- A file or a directory of a bundle. -/
structure Entry where
  /-- Where it was found. -/
  source : Path
  /-- What it is called in an archive. -/
  name : String
  isDirectory : Bool
  deriving DecidableEq

/-- A directory that the walk is inside of. -/
structure Ancestor where
  location : Location
  path : Path
  deriving DecidableEq

/-- The name of something below `source`, given the name of `source` itself. -/
def entryName (source : Path) (rootName : String) (path : Path) : Except ArchiveFailure String :=
  match path.relativeTo? source with
  | none => .error .outsideSource
  | some components =>
    match components.mapM fun c => Text.decode? c.bytes with
    | none => .error (.notUtf8 path)
    | some parts =>
      .ok (parts.foldl (fun name part => name ++ "/" ++ String.ofList part) rootName)

/-- What an entry of a directory is once its links are followed. -/
inductive Standing where
  | file
  | directory (location : Location)
  deriving DecidableEq

/-- What an entry is: a link counts as what it leads to, unless that is a directory the walk is inside
of. The innermost of those is named. -/
def standing (d : Disk) (stack : List Ancestor) (at_ : Location) (path : Path) :
    Node → Except WalkFailure Standing
  | .file _ => .ok .file
  | .directory => .ok (.directory at_)
  | .link _ =>
    match d.stat path with
    | .error fault => .error (.unreadable path fault)
    | .ok (location, .directory) =>
      match stack.find? fun a => a.location == location with
      | some ancestor => .error (.loop path ancestor.path)
      | none => .ok (.directory location)
    | .ok (_, _) => .ok .file

/-- The entries of a directory in the order of their names. -/
def sortedChildren (d : Disk) (at_ : Location) : List (Name × Node) :=
  (d.children at_).mergeSort fun a b => decide (a.1.bytes ≤ b.1.bytes)

theorem mem_sortedChildren {d : Disk} {at_ : Location} {c : Name × Node} :
    c ∈ sortedChildren d at_ ↔ d.node? (c.1 :: at_) = some c.2 := by
  unfold sortedChildren
  rw [List.mem_mergeSort, ← Disk.mem_children]

/-! ## Why the walk ends -/

/-- All directories that can be opened, and more. -/
def locations (d : Disk) : List Location := [] :: d.nodes.map Prod.fst

/-- How long a location can be. -/
def depth (d : Disk) : Nat := (locations d).foldr (fun at_ n => max at_.length n) 0

/-- How many locations are not open. -/
def room (d : Disk) (stack : List Ancestor) : Nat :=
  ((locations d).filter fun at_ => !(stack.map Ancestor.location).contains at_).length

theorem mem_locations {d : Disk} {at_ : Location} {node : Node} (h : d.node? at_ = some node) :
    at_ ∈ locations d := by
  cases at_ with
  | nil => exact List.mem_cons_self
  | cons name dir =>
    rw [Disk.node?_cons_eq_some_iff] at h
    exact List.mem_cons_of_mem _ (List.mem_map.2 ⟨_, h, rfl⟩)

theorem length_le_foldr {ls : List Location} {at_ : Location} (h : at_ ∈ ls) :
    at_.length ≤ ls.foldr (fun at_ n => max at_.length n) 0 := by
  induction ls with
  | nil => cases h
  | cons l ls ih =>
    simp only [List.foldr_cons]
    rcases List.mem_cons.1 h with rfl | h
    · exact Nat.le_max_left _ _
    · exact Nat.le_trans (ih h) (Nat.le_max_right _ _)

theorem length_le_depth {d : Disk} {at_ : Location} {node : Node} (h : d.node? at_ = some node) :
    at_.length ≤ depth d := length_le_foldr (mem_locations h)

theorem length_filter_le {α : Type} {l : List α} {p q : α → Bool} (h : ∀ a, q a = true → p a = true) :
    (l.filter q).length ≤ (l.filter p).length := by
  induction l with
  | nil => simp
  | cons a l ih =>
    simp only [List.filter_cons]
    split
    · next ha => simp [h a ha, ih]
    · split
      · simp only [List.length_cons]; omega
      · exact ih

theorem length_filter_lt {α : Type} {l : List α} {p q : α → Bool} {x : α}
    (h : ∀ a, q a = true → p a = true) (hx : x ∈ l) (hp : p x = true) (hq : q x = false) :
    (l.filter q).length < (l.filter p).length := by
  induction l with
  | nil => cases hx
  | cons a l ih =>
    rcases List.mem_cons.1 hx with rfl | hx
    · simp only [List.filter_cons, hp, hq]
      have := length_filter_le (l := l) h
      simp
      omega
    · have := ih hx
      simp only [List.filter_cons]
      split
      · next ha => simpa [h a ha] using this
      · split
        · simp only [List.length_cons]; omega
        · exact this

theorem room_le (d : Disk) (a : Ancestor) (stack : List Ancestor) :
    room d (a :: stack) ≤ room d stack := by
  refine length_filter_le fun l => ?_
  simp only [List.map_cons, List.contains_cons]
  cases (stack.map Ancestor.location).contains l <;> simp

theorem room_lt {d : Disk} {a : Ancestor} {stack : List Ancestor} {node : Node}
    (ha : d.node? a.location = some node) (h : a.location ∉ stack.map Ancestor.location) :
    room d (a :: stack) < room d stack := by
  refine length_filter_lt (x := a.location) (fun l => ?_) (mem_locations ha) ?_ ?_
  · simp only [List.map_cons, List.contains_cons]
    cases (stack.map Ancestor.location).contains l <;> simp
  · simpa using h
  · simp

/-- Where an entry goes down to: a link leaves the directories that are open, and anything else goes
one level deeper. -/
theorem standing_directory {d : Disk} {stack : List Ancestor} {at_ location : Location} {path : Path}
    {node : Node} (hnode : d.node? at_ = some node)
    (h : standing d stack at_ path node = .ok (.directory location)) :
    d.node? location = some .directory ∧
      (location = at_ ∨ location ∉ stack.map Ancestor.location) := by
  unfold standing at h
  split at h
  · cases h
  · cases h; exact ⟨hnode, Or.inl rfl⟩
  · split at h
    · cases h
    · next hs =>
      split at h
      · cases h
      · next hf =>
        cases h
        refine ⟨Disk.node?_of_stat hs, Or.inr fun hm => ?_⟩
        obtain ⟨a, ha, hl⟩ := List.mem_map.1 hm
        have := List.find?_eq_none.1 hf a ha
        simp [hl] at this
    · cases h

/-- Going down leaves less to open, or as much and less depth below. -/
theorem descent_decreases {d : Disk} {here : Ancestor} {above : List Ancestor} {name : Name}
    {location : Location} {n m : Nat} (path : Path)
    (h : d.node? location = some .directory ∧
      (location = name :: here.location ∨
        location ∉ (here :: above).map Ancestor.location)) :
    Prod.Lex (· < ·) (Prod.Lex (· < ·) (Prod.Lex (· < ·) (· < ·)))
      (room d (⟨location, path⟩ :: here :: above), depth d + 1 - location.length, 1, n)
      (room d (here :: above), depth d + 1 - here.location.length, 0, m) := by
  by_cases hopen : location ∈ (here :: above).map Ancestor.location
  · have hdeeper : location = name :: here.location := h.2.resolve_right fun hn => hn hopen
    have hlength := length_le_depth h.1
    have hroom := room_le d ⟨location, path⟩ (here :: above)
    rcases Nat.lt_or_eq_of_le hroom with hlt | heq
    · exact .left _ _ hlt
    · rw [heq]
      refine .right _ (.left _ _ ?_)
      rw [hdeeper] at hlength ⊢
      simp only [List.length_cons] at hlength ⊢
      omega
  · exact .left _ _ (room_lt h.1 hopen)

/-! ## The walk -/

/-- An entry of a directory, with the fact that it is there. -/
abbrev Child (d : Disk) (at_ : Location) := { c : Name × Node // d.node? (c.1 :: at_) = some c.2 }

/-- The entries of a directory in the order of their names. -/
def childrenOf (d : Disk) (at_ : Location) : List (Child d at_) :=
  (sortedChildren d at_).attachWith _ fun _ h => mem_sortedChildren.1 h

mutual

/-- Lists what the directory `here` holds; `above` are the directories around it, the innermost
first. -/
def walkDirectory (d : Disk) (source : Path) (rootName : String) (here : Ancestor)
    (above : List Ancestor) : Except ArchiveFailure (List Entry) :=
  match d.stat here.path with
  | .error fault => .error (.walk (.unreadable here.path fault))
  | .ok _ => walkChildren d source rootName here above (childrenOf d here.location)
termination_by (room d (here :: above), depth d + 1 - here.location.length, 1, 0)

/-- Lists some entries of the directory `here` with everything below them. -/
def walkChildren (d : Disk) (source : Path) (rootName : String) (here : Ancestor)
    (above : List Ancestor) : List (Child d here.location) → Except ArchiveFailure (List Entry)
  | [] => .ok []
  | ⟨(name, node), _hc⟩ :: rest =>
    let path := here.path.child name.bytes
    match _hs : standing d (here :: above) (name :: here.location) path node with
    | .error e => .error (.walk e)
    | .ok standing =>
      match entryName source rootName path with
      | .error e => .error e
      | .ok called =>
        match standing with
        | .file =>
          (walkChildren d source rootName here above rest).map (⟨path, called, false⟩ :: ·)
        | .directory location =>
          match walkDirectory d source rootName ⟨location, path⟩ (here :: above) with
          | .error e => .error e
          | .ok below =>
            (walkChildren d source rootName here above rest).map fun es =>
              ⟨path, called, true⟩ :: (below ++ es)
termination_by children => (room d (here :: above), depth d + 1 - here.location.length, 0, children.length)
decreasing_by
  · exact .right _ (.right _ (.right _ (by simp)))
  · exact descent_decreases path (standing_directory _hc _hs)
  · exact .right _ (.right _ (.right _ (by simp)))

end

/-- Lists a bundle. -/
def collect (d : Disk) (source : Path) : Except ArchiveFailure (List Entry) :=
  match source.fileName? with
  | none => .error (.sourceNotDirectory source)
  | some bytes =>
    match Text.decode? bytes with
    | none => .error (.notUtf8 source)
    | some rootName =>
      match d.stat source with
      | .error fault => .error (.walk (.unreadable source fault))
      | .ok (location, node) =>
        match entryName source (String.ofList rootName) source with
        | .error e => .error e
        | .ok called =>
          if node = .directory then
            (walkDirectory d source (String.ofList rootName) ⟨location, source⟩ []).map
              (⟨source, called, true⟩ :: ·)
          else .ok [⟨source, called, false⟩]

end ReleaseBundle.Bundle
