import ReleaseBundle.Proofs.Disk.Growth

/-!
# Paths below a directory

The entries of a directory are found by its path and their names: what a path finds behind a directory is
an entry of that directory, and an entry that is no link is found where it is.
-/

namespace ReleaseBundle

namespace Path

/-- The path of something below a directory. -/
def below (p : Path) (rel : List Name) : Path := rel.foldl (fun p name => p.child name.bytes) p

@[simp] theorem below_nil (p : Path) : p.below [] = p := rfl

@[simp] theorem below_cons (p : Path) (name : Name) (rel : List Name) :
    p.below (name :: rel) = (p.child name.bytes).below rel := rfl

theorem below_append (p : Path) (a b : List Name) : p.below (a ++ b) = (p.below a).below b := by
  simp [below, List.foldl_append]

theorem below_concat (p : Path) (rel : List Name) (name : Name) :
    p.below (rel ++ [name]) = (p.below rel).child name.bytes := by simp [below_append]

variable {p : Path}

theorem below_ne_nil (hp : p.bytes ≠ []) (rel : List Name) : (p.below rel).bytes ≠ [] := by
  induction rel generalizing p with
  | nil => exact hp
  | cons name rel ih => exact ih (bytes_child_ne_nil p name.slash_not_mem name.bytes_ne_nil)

theorem isAbsolute_below (p : Path) (rel : List Name) : (p.below rel).isAbsolute = p.isAbsolute := by
  induction rel generalizing p with
  | nil => rfl
  | cons name rel ih => exact (ih _).trans (isAbsolute_child p name.slash_not_mem)

theorem components_below (hp : p.bytes ≠ []) (rel : List Name) :
    (p.below rel).components = p.components ++ rel.map fun name => .name name.bytes := by
  induction rel generalizing p with
  | nil => simp
  | cons name rel ih =>
    rw [below_cons, ih (bytes_child_ne_nil p name.slash_not_mem name.bytes_ne_nil),
      components_child hp]
    simp

theorem relativeTo?_below (hp : p.bytes ≠ []) (rel : List Name) :
    (p.below rel).relativeTo? p = some (rel.map fun name => .name name.bytes) := by
  simp [relativeTo?, startsWith, components_below hp]

theorem length_child (p : Path) (name : Name) :
    p.bytes.length + name.bytes.length ≤ (p.child name.bytes).bytes.length := by
  unfold child join
  rw [if_neg (by simp [isAbsolute_part name.slash_not_mem])]
  split
  · simp
  · simp only [List.length_append, List.length_cons]
    omega

theorem length_below (p : Path) (rel : List Name) :
    p.bytes.length + (rel.map fun name => name.bytes.length).sum ≤ (p.below rel).bytes.length := by
  induction rel generalizing p with
  | nil => simp
  | cons name rel ih =>
    have hchild := length_child p name
    have hbelow := ih (p.child name.bytes)
    simp only [List.map_cons, List.sum_cons, below_cons]
    omega

end Path

namespace Disk

variable {d : Disk} {p : Path} {name : Name} {at_ l : Location} {node : Node}

theorem refusal?_of_child (hp : p.bytes ≠ []) (h : d.refusal? (p.child name.bytes) = none) :
    d.refusal? p = none := by
  rw [refusal?_eq_none_iff] at h ⊢
  obtain ⟨hnul, _, hlength, hcwd⟩ := h
  have hrelative := Path.isAbsolute_part name.slash_not_mem
  refine ⟨fun hmem => hnul ?_, hp, ?_, fun habs => hcwd ?_⟩
  · exact (Path.mem_join hrelative (by decide)).2 (Or.inl hmem)
  · exact Nat.lt_of_le_of_lt (Path.length_join hrelative).1 hlength
  · rw [Path.isAbsolute_child p name.slash_not_mem, habs]

theorem start_child : start d.cwd (p.child name.bytes) = start d.cwd p := by
  rw [start, start, Path.isAbsolute_child p name.slash_not_mem]

/-- What is found behind a path is found in the directory that the path leads to. -/
theorem stat_child_cases (hp : p.bytes ≠ []) (h : d.stat (p.child name.bytes) = .ok (l, node)) :
    ∃ at_, d.stat p = .ok (at_, .directory) ∧
      ((l = name :: at_ ∧ d.node? (name :: at_) = some node) ∨
        ∃ target, d.node? (name :: at_) = some (.link target)) := by
  obtain ⟨hnone, hroute⟩ := stat_eq_ok_iff.1 h
  rw [start_child, Path.steps_child p name.slash_not_mem name.bytes_ne_nil] at hroute
  obtain ⟨dir, more, hfront, hrest, _⟩ := hroute.cut (by simp)
  refine ⟨dir, stat_eq_directory_iff.2 ⟨refusal?_of_child hp hnone, hfront⟩, ?_⟩
  have hresolve := hrest.resolve
  rw [resolve_name] at hresolve
  split at hresolve
  · next hnode =>
    simp only [resolve_nil, Except.ok.injEq, Spot.found.injEq] at hresolve
    obtain ⟨rfl, rfl⟩ := hresolve
    exact Or.inl ⟨rfl, hnode⟩
  · next number hnode =>
    simp only [if_true, Except.ok.injEq, Spot.found.injEq] at hresolve
    obtain ⟨rfl, rfl⟩ := hresolve
    exact Or.inl ⟨rfl, hnode⟩
  · next target hnode => exact Or.inr ⟨target, hnode⟩
  · simp at hresolve

/-- An entry that is no link is found where it is. -/
theorem stat_child (hdir : d.stat p = .ok (at_, .directory)) (hnode : d.node? (name :: at_) = some node)
    (hnoLink : ∀ target, node ≠ .link target) (hnone : d.refusal? (p.child name.bytes) = none) :
    d.stat (p.child name.bytes) = .ok (name :: at_, node) := by
  refine stat_eq_ok_iff.2 ⟨hnone, ?_⟩
  rw [start_child, Path.steps_child p name.slash_not_mem name.bytes_ne_nil]
  have hlast : Route d true 0 at_ [name.bytes] (.found (name :: at_) node) := by
    cases node with
    | directory => exact .enter name hnode (.arrived _ _)
    | link target => exact absurd rfl (hnoLink target)
    | file n => exact .file name hnode
  exact (stat_eq_directory_iff.1 hdir).2.append (by simp) hlast

/-- A name that something is found under is a file name. -/
theorem name_of_stat {part : Bytes} (hslash : Path.slash ∉ part) (hnil : part ≠ [])
    (hdot : part ≠ [Path.dot]) (hdots : part ≠ [Path.dot, Path.dot])
    (h : d.stat (p.child part) = .ok (l, node)) : ∃ name : Name, name.bytes = part := by
  have hroute := (stat_eq_ok_iff.1 h).2
  rw [Path.steps_child p hslash hnil] at hroute
  obtain ⟨dir, more, _, hrest, _⟩ := hroute.cut (by simp)
  obtain hpart | hpart | ⟨name, hpart⟩ | ⟨hbad, _⟩ := part_cases part
  · exact absurd hpart hdot
  · exact absurd hpart hdots
  · exact ⟨name, hpart.symm⟩
  · have hresolve := hrest.resolve
    rw [resolve_badName hbad hdot hdots] at hresolve
    cases hresolve

/-- A path that leads to something leads through directories. -/
theorem stat_of_below (hp : p.bytes ≠ []) {rel : List Name} {x : Location × Node}
    (h : d.stat (p.below rel) = .ok x) :
    (rel = [] ∧ d.stat p = .ok x) ∨ ∃ at_, d.stat p = .ok (at_, .directory) := by
  induction rel generalizing p x with
  | nil => exact Or.inl ⟨rfl, h⟩
  | cons name rel ih =>
    have hchild := Path.bytes_child_ne_nil p name.slash_not_mem name.bytes_ne_nil
    rcases ih hchild h with ⟨_, hstat⟩ | ⟨l, hstat⟩
    · obtain ⟨at_, hdir, _⟩ := stat_child_cases hp hstat
      exact Or.inr ⟨at_, hdir⟩
    · obtain ⟨at_, hdir, _⟩ := stat_child_cases hp hstat
      exact Or.inr ⟨at_, hdir⟩

end Disk

end ReleaseBundle
