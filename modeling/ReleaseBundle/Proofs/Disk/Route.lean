import ReleaseBundle.Disk.Lookup
import ReleaseBundle.Proofs.Disk.Table

/-!
# Routes

A successful lookup leaves a `Route`: which directory is entered at which part of the path, and which
links are followed. `resolve_eq_ok_iff` says that routes and successful lookups are the same, so what is
true of lookups is proved by induction on the route: it needs no more links than it follows, it stays
when the disk grows, and it can be cut where a part of the path ends.
-/

namespace ReleaseBundle

namespace Name

theorem ofBytes?_eq_some_iff {bs : Bytes} {name : Name} : ofBytes? bs = some name ↔ name.bytes = bs := by
  constructor
  · intro h
    unfold ofBytes? at h
    split at h
    · cases h; rfl
    · cases h
  · rintro rfl
    exact ofBytes?_bytes name

variable (name : Name)

theorem bytes_ne_nil : name.bytes ≠ [] := by
  intro h
  have := name.valid
  simp [isFileName, h] at this

theorem bytes_ne_dot : name.bytes ≠ [Path.dot] := by
  intro h
  have := name.valid
  simp [isFileName, h] at this

theorem bytes_ne_dots : name.bytes ≠ [Path.dot, Path.dot] := by
  intro h
  have := name.valid
  simp [isFileName, h] at this

theorem slash_not_mem : Path.slash ∉ name.bytes := by
  intro h
  have := name.valid
  simp [isFileName, h] at this

theorem nul_not_mem : (0 : UInt8) ∉ name.bytes := by
  intro h
  have := name.valid
  simp [isFileName, h] at this

end Name

namespace Disk

/-- How the parts of a path lead from a directory to a spot when at most `links` links are followed.
A link at the very end is followed only if `follow` is set. -/
inductive Route (d : Disk) (follow : Bool) : Nat → Location → List Bytes → Spot → Prop where
  | arrived (links : Nat) (here : Location) : Route d follow links here [] (.found here .directory)
  | stay {links here rest spot} :
    Route d follow links here rest spot → Route d follow links here ([Path.dot] :: rest) spot
  | ascend {links here rest spot} :
    Route d follow links here.tail rest spot →
    Route d follow links here ([Path.dot, Path.dot] :: rest) spot
  | enter {links here rest spot} (name : Name) :
    d.node? (name :: here) = some .directory → Route d follow links (name :: here) rest spot →
    Route d follow links here (name.bytes :: rest) spot
  | file {links here number} (name : Name) :
    d.node? (name :: here) = some (.file number) →
    Route d follow links here [name.bytes] (.found (name :: here) (.file number))
  | link {links here target} (name : Name) : follow = false →
    d.node? (name :: here) = some (.link target) →
    Route d follow links here [name.bytes] (.found (name :: here) (.link target))
  | jump {links here target rest spot} (name : Name) :
    d.node? (name :: here) = some (.link target) → ¬(rest = [] ∧ follow = false) →
    target.bytes ≠ [] → Route d follow links (start here target) (target.steps ++ rest) spot →
    Route d follow (links + 1) here (name.bytes :: rest) spot
  | vacant {links here} (name : Name) : d.node? (name :: here) = none →
    Route d follow links here [name.bytes] (.vacant here name)

/-- What is done about a link with the given number of links left. -/
def through (d : Disk) (follow : Bool) :
    Nat → Location → Path → List Bytes → Except Fault Spot
  | 0, _, _, _ => .error (.os .tooManyLinks)
  | links + 1, here, target, rest =>
    if target.bytes = [] then .error (.os .notFound)
    else d.resolve follow links (start here target) (target.steps ++ rest)

theorem resolve_eq_stroll (d : Disk) (follow : Bool) (links : Nat) (here : Location)
    (parts : List Bytes) :
    d.resolve follow links here parts = d.stroll follow (d.through follow links) here parts := by
  cases links <;> rfl

@[simp] theorem resolve_nil (d : Disk) (follow : Bool) (links : Nat) (here : Location) :
    d.resolve follow links here [] = .ok (.found here .directory) := by
  rw [resolve_eq_stroll]
  rfl

variable {d e : Disk} {follow : Bool} {links : Nat} {here : Location} {rest parts : List Bytes}
  {spot : Spot}

@[simp] theorem resolve_dot :
    d.resolve follow links here ([Path.dot] :: rest) = d.resolve follow links here rest := by
  simp [resolve_eq_stroll, stroll]

@[simp] theorem resolve_dots :
    d.resolve follow links here ([Path.dot, Path.dot] :: rest) =
      d.resolve follow links here.tail rest := by
  simp [resolve_eq_stroll, stroll]

/-- What happens at an ordinary name. -/
theorem resolve_name (name : Name) :
    d.resolve follow links here (name.bytes :: rest) =
      match d.node? (name :: here) with
      | some .directory => d.resolve follow links (name :: here) rest
      | some (.file number) =>
        if rest = [] then .ok (.found (name :: here) (.file number)) else .error (.os .notDirectory)
      | some (.link target) =>
        if rest = [] ∧ follow = false then .ok (.found (name :: here) (.link target))
        else d.through follow links here target rest
      | none => if rest = [] then .ok (.vacant here name) else .error (.os .notFound) := by
  cases hnode : d.node? (name :: here) with
  | none =>
    simp only [resolve_eq_stroll, stroll, if_neg name.bytes_ne_dot, if_neg name.bytes_ne_dots,
      Name.ofBytes?_bytes, hnode]
  | some node =>
    cases node <;>
      simp only [resolve_eq_stroll, stroll, if_neg name.bytes_ne_dot, if_neg name.bytes_ne_dots,
        Name.ofBytes?_bytes, hnode]

theorem resolve_badName {part : Bytes} (h : Name.ofBytes? part = none) (hdot : part ≠ [Path.dot])
    (hdots : part ≠ [Path.dot, Path.dot]) :
    d.resolve follow links here (part :: rest) = .error (.os .nameTooLong) := by
  simp only [resolve_eq_stroll, stroll, if_neg hdot, if_neg hdots, h]

/-- The parts of a path, one at a time. -/
theorem part_cases (part : Bytes) :
    part = [Path.dot] ∨ part = [Path.dot, Path.dot] ∨ (∃ name : Name, part = name.bytes) ∨
      (Name.ofBytes? part = none ∧ part ≠ [Path.dot] ∧ part ≠ [Path.dot, Path.dot]) := by
  by_cases hdot : part = [Path.dot]
  · exact Or.inl hdot
  by_cases hdots : part = [Path.dot, Path.dot]
  · exact Or.inr (Or.inl hdots)
  cases h : Name.ofBytes? part with
  | none => exact Or.inr (Or.inr (Or.inr ⟨rfl, hdot, hdots⟩))
  | some name =>
    exact Or.inr (Or.inr (Or.inl ⟨name, (Name.ofBytes?_eq_some_iff.1 h).symm⟩))

theorem Route.resolve (h : Route d follow links here parts spot) :
    d.resolve follow links here parts = .ok spot := by
  induction h with
  | arrived links here => simp
  | stay _ ih => rw [resolve_dot, ih]
  | ascend _ ih => rw [resolve_dots, ih]
  | enter name hnode _ ih => simp only [resolve_name, hnode, ih]
  | file name hnode => simp only [resolve_name, hnode, if_true]
  | link name hfollow hnode => simp only [resolve_name, hnode, hfollow, and_self, if_true]
  | jump name hnode hend htarget _ ih =>
    simp only [resolve_name, hnode, if_neg hend, through, if_neg htarget, ih]
  | vacant name hnode => simp only [resolve_name, hnode, if_true]

/-- The walk between two links is an induction on the parts, and what follows a link is given. -/
theorem route_of_stroll
    (hlink : ∀ here target rest spot, d.through follow links here target rest = .ok spot →
      ∀ name : Name, d.node? (name :: here) = some (.link target) →
        ¬(rest = [] ∧ follow = false) → Route d follow links here (name.bytes :: rest) spot)
    (h : d.resolve follow links here parts = .ok spot) : Route d follow links here parts spot := by
  induction parts generalizing here with
  | nil =>
    rw [resolve_nil] at h
    cases h
    exact .arrived links here
  | cons part rest ih =>
    obtain rfl | rfl | ⟨name, rfl⟩ | ⟨hbad, hdot, hdots⟩ := part_cases part
    · rw [resolve_dot] at h
      exact .stay (ih h)
    · rw [resolve_dots] at h
      exact .ascend (ih h)
    · rw [resolve_name] at h
      split at h
      · next hnode => exact .enter name hnode (ih h)
      · next number hnode =>
        split at h
        · next hrest =>
          cases h
          subst hrest
          exact .file name hnode
        · cases h
      · next target hnode =>
        split at h
        · next hend =>
          cases h
          obtain ⟨rfl, hfollow⟩ := hend
          exact .link name hfollow hnode
        · next hend => exact hlink _ _ _ _ h name hnode hend
      · next hnode =>
        split at h
        · next hrest =>
          cases h
          subst hrest
          exact .vacant name hnode
        · cases h
    · rw [resolve_badName hbad hdot hdots] at h
      cases h

/-- Routes are exactly the successful lookups. -/
theorem resolve_eq_ok_iff :
    d.resolve follow links here parts = .ok spot ↔ Route d follow links here parts spot := by
  refine ⟨fun h => ?_, Route.resolve⟩
  induction links generalizing here parts spot with
  | zero =>
    refine route_of_stroll ?_ h
    intro _ _ _ _ h'
    cases h'
  | succ links ih =>
    refine route_of_stroll ?_ h
    intro here' target rest' spot' h' name hnode hend
    simp only [through] at h'
    split at h'
    · cases h'
    · next htarget => exact .jump name hnode hend htarget (ih h')

theorem Route.unique {spot' : Spot} (h : Route d follow links here parts spot)
    (h' : Route d follow links here parts spot') : spot = spot' := by
  have := h.resolve.symm.trans h'.resolve
  exact Except.ok.inj this

namespace Route

/-- More links may be allowed than are followed. -/
theorem mono {more : Nat} (h : Route d follow links here parts spot) (hmore : links ≤ more) :
    Route d follow more here parts spot := by
  induction h generalizing more with
  | arrived links here => exact .arrived more here
  | stay _ ih => exact .stay (ih hmore)
  | ascend _ ih => exact .ascend (ih hmore)
  | enter name hnode _ ih => exact .enter name hnode (ih hmore)
  | file name hnode => exact .file name hnode
  | link name hfollow hnode => exact .link name hfollow hnode
  | jump name hnode hend htarget _ ih =>
    cases more with
    | zero => exact absurd hmore (Nat.not_succ_le_zero _)
    | succ more => exact .jump name hnode hend htarget (ih (Nat.le_of_succ_le_succ hmore))
  | vacant name hnode => exact .vacant name hnode

/-- A way stays where all that it passes stays. It passes directories and links, and no file before the
end. -/
theorem along {at_ : Location} {node : Node}
    (hpass : ∀ l x, (∀ m, x = .file m → l = at_ ∧ x = node) → d.node? l = some x → e.node? l = some x)
    (h : Route d follow links here parts (.found at_ node)) :
    Route e follow links here parts (.found at_ node) := by
  generalize hspot : Spot.found at_ node = spot at h
  induction h with
  | arrived links here => exact .arrived links here
  | stay _ ih => exact .stay (ih hspot)
  | ascend _ ih => exact .ascend (ih hspot)
  | enter name hnode _ ih => exact .enter name (hpass _ _ (by simp) hnode) (ih hspot)
  | file name hnode =>
    cases hspot
    exact .file name (hpass _ _ (fun _ _ => ⟨rfl, rfl⟩) hnode)
  | link name hfollow hnode => exact .link name hfollow (hpass _ _ (by simp) hnode)
  | jump name hnode hend htarget _ ih =>
    exact .jump name (hpass _ _ (by simp) hnode) hend htarget (ih hspot)
  | vacant name hnode => cases hspot

/-- A way to something that is there stays when the disk grows. -/
theorem grow (hgrow : ∀ l node, d.node? l = some node → e.node? l = some node) {at_ : Location}
    {node : Node} (h : Route d follow links here parts (.found at_ node)) :
    Route e follow links here parts (.found at_ node) :=
  h.along fun l x _ hnode => hgrow l x hnode

/-- A way to a free name leads to what is put there. -/
theorem fill (hgrow : ∀ l node, d.node? l = some node → e.node? l = some node) {dir : Location}
    {name : Name} {node : Node} (hnode : e.node? (name :: dir) = some node)
    (hnoLink : ∀ target, node ≠ .link target)
    (h : Route d follow links here parts (.vacant dir name)) (follow' : Bool)
    (hfollow : follow = true → follow' = true) :
    Route e follow' links here parts (.found (name :: dir) node) := by
  generalize hspot : Spot.vacant dir name = spot at h
  induction h with
  | arrived links here => cases hspot
  | stay _ ih => exact .stay (ih hspot)
  | ascend _ ih => exact .ascend (ih hspot)
  | enter name hentered _ ih => exact .enter name (hgrow _ _ hentered) (ih hspot)
  | file name hfile => cases hspot
  | link name hnot hlink => cases hspot
  | jump name hlink hend htarget _ ih =>
    refine .jump name (hgrow _ _ hlink) (fun hnow => hend ⟨hnow.1, ?_⟩) htarget (ih hspot)
    exact Bool.eq_false_iff.2 fun htrue => by simp [hfollow htrue] at hnow
  | vacant name' hfree =>
    cases hspot
    cases node with
    | directory => exact .enter name hnode (.arrived _ _)
    | link target => exact absurd rfl (hnoLink target)
    | file number => exact .file name hnode

/-- A route that follows links to the end does not end at one. -/
theorem ne_link {at_ : Location} {target : Path} :
    ¬ Route d true links here parts (.found at_ (.link target)) := by
  intro h
  generalize hspot : Spot.found at_ (.link target) = spot at h
  induction h with
  | arrived links here => cases hspot
  | stay _ ih => exact ih hspot
  | ascend _ ih => exact ih hspot
  | enter name hnode _ ih => exact ih hspot
  | file name hnode => cases hspot
  | link name hnot hnode => cases hnot
  | jump name hnode hend htarget _ ih => exact ih hspot
  | vacant name hnode => cases hspot

/-- Where a link has to be followed, the way goes on through its target with one link less. -/
theorem of_link {name : Name} {target : Path} (hnode : d.node? (name :: here) = some (.link target))
    (hend : ¬(rest = [] ∧ follow = false)) (h : Route d follow links here (name.bytes :: rest) spot) :
    ∃ more, links = more + 1 ∧ target.bytes ≠ [] ∧
      Route d follow more (start here target) (target.steps ++ rest) spot := by
  have hresolve := h.resolve
  simp only [resolve_name, hnode, if_neg hend] at hresolve
  cases links with
  | zero => cases hresolve
  | succ more =>
    simp only [through] at hresolve
    split at hresolve
    · cases hresolve
    · next htarget => exact ⟨more, rfl, htarget, resolve_eq_ok_iff.1 hresolve⟩

/-- A way that stops at a link, when it is followed on, goes through the target of the link. -/
theorem past_link {links' : Nat} {at_ : Location} {target : Path}
    (h : Route d false links here parts (.found at_ (.link target)))
    (hon : Route d true links' here parts spot) :
    ∃ more, Route d true more (start at_.tail target) target.steps spot := by
  generalize hspot : Spot.found at_ (.link target) = stop at h
  induction h generalizing links' with
  | arrived _ _ => cases hspot
  | stay _ ih =>
    have hresolve := hon.resolve
    rw [resolve_dot] at hresolve
    exact ih (resolve_eq_ok_iff.1 hresolve) hspot
  | ascend _ ih =>
    have hresolve := hon.resolve
    rw [resolve_dots] at hresolve
    exact ih (resolve_eq_ok_iff.1 hresolve) hspot
  | enter name hnode _ ih =>
    have hresolve := hon.resolve
    simp only [resolve_name, hnode] at hresolve
    exact ih (resolve_eq_ok_iff.1 hresolve) hspot
  | file _ _ => cases hspot
  | link name _ hnode =>
    cases hspot
    obtain ⟨more, _, _, hthere⟩ := hon.of_link hnode (by simp)
    rw [List.append_nil] at hthere
    exact ⟨more, hthere⟩
  | jump name hnode _ _ _ ih =>
    obtain ⟨_, _, _, hthere⟩ := hon.of_link hnode (by simp)
    exact ih hthere hspot
  | vacant _ _ => cases hspot

/-- A route can be continued from the directory where it ends. -/
theorem append {more : Nat} {dir : Location} {front : List Bytes} (hrest : rest ≠ [])
    (h : Route d true links here front (.found dir .directory))
    (h' : Route d follow more dir rest spot) :
    Route d follow (links + more) here (front ++ rest) spot := by
  generalize hspot : Spot.found dir .directory = middle at h
  induction h with
  | arrived links here =>
    cases hspot
    exact h'.mono (Nat.le_add_left more links)
  | stay _ ih => exact .stay (ih hspot)
  | ascend _ ih => exact .ascend (ih hspot)
  | enter name hnode _ ih => exact .enter name hnode (ih hspot)
  | file name hnode => cases hspot
  | link name hfollow hnode => cases hspot
  | jump name hnode hend htarget _ ih =>
    rw [Nat.add_right_comm, List.cons_append]
    refine .jump name hnode (fun hnow => hrest (List.append_eq_nil_iff.1 hnow.1).2) htarget ?_
    rw [← List.append_assoc]
    exact ih hspot
  | vacant name hnode => cases hspot

/-- The front part of a longer path leads to a directory, whether a link is at its end or not, and the
rest of the path goes on from there. -/
theorem cut {front : List Bytes} (hrest : rest ≠ [])
    (h : Route d follow links here (front ++ rest) spot) :
    ∃ dir more, Route d true links here front (.found dir .directory) ∧
      Route d follow more dir rest spot ∧ more ≤ links := by
  generalize hparts : front ++ rest = parts at h
  induction h generalizing front with
  | arrived links here =>
    exact absurd (List.append_eq_nil_iff.1 hparts).2 hrest
  | @stay links here rest' spot hroute ih =>
    rcases List.append_eq_cons_iff.1 hparts with ⟨rfl, rfl⟩ | ⟨front', rfl, rfl⟩
    · exact ⟨here, links, .arrived _ _, .stay hroute, Nat.le_refl _⟩
    · obtain ⟨dir, more, hfront, hmore, hle⟩ := ih rfl
      exact ⟨dir, more, .stay hfront, hmore, hle⟩
  | @ascend links here rest' spot hroute ih =>
    rcases List.append_eq_cons_iff.1 hparts with ⟨rfl, rfl⟩ | ⟨front', rfl, rfl⟩
    · exact ⟨here, links, .arrived _ _, .ascend hroute, Nat.le_refl _⟩
    · obtain ⟨dir, more, hfront, hmore, hle⟩ := ih rfl
      exact ⟨dir, more, .ascend hfront, hmore, hle⟩
  | @enter links here rest' spot name hnode hroute ih =>
    rcases List.append_eq_cons_iff.1 hparts with ⟨rfl, rfl⟩ | ⟨front', rfl, rfl⟩
    · exact ⟨here, links, .arrived _ _, .enter name hnode hroute, Nat.le_refl _⟩
    · obtain ⟨dir, more, hfront, hmore, hle⟩ := ih rfl
      exact ⟨dir, more, .enter name hnode hfront, hmore, hle⟩
  | @file links here number name hnode =>
    obtain ⟨rfl, rfl⟩ | ⟨rfl, rfl⟩ := List.append_eq_singleton_iff.1 hparts
    · exact ⟨here, links, .arrived _ _, .file name hnode, Nat.le_refl _⟩
    · exact absurd rfl hrest
  | @link links here target name hfollow hnode =>
    obtain ⟨rfl, rfl⟩ | ⟨rfl, rfl⟩ := List.append_eq_singleton_iff.1 hparts
    · exact ⟨here, links, .arrived _ _, .link name hfollow hnode, Nat.le_refl _⟩
    · exact absurd rfl hrest
  | @jump links here target rest' spot name hnode hend htarget hroute ih =>
    rcases List.append_eq_cons_iff.1 hparts with ⟨rfl, rfl⟩ | ⟨front', rfl, rfl⟩
    · exact ⟨here, links + 1, .arrived _ _, .jump name hnode hend htarget hroute, Nat.le_refl _⟩
    · obtain ⟨dir, more, hfront, hmore, hle⟩ := ih (List.append_assoc _ _ _)
      exact ⟨dir, more, .jump name hnode (by simp) htarget hfront, hmore, Nat.le_succ_of_le hle⟩
  | @vacant links here name hnode =>
    obtain ⟨rfl, rfl⟩ | ⟨rfl, rfl⟩ := List.append_eq_singleton_iff.1 hparts
    · exact ⟨here, links, .arrived _ _, .vacant name hnode, Nat.le_refl _⟩
    · exact absurd rfl hrest

/-- What happens to a way when a file takes the place where it ends, on the disk `e`, or nothing, on the disk
`bare`. Either the way does not go through that place; then it leads to the file, with a link at the end
followed or not, and to the free name. Or it goes through a link that stood in that place; then it stops at
the file, and where nothing is. -/
theorem revisit {bare : Disk} {dir : Location} {name : Name} {n : Nat}
    (hkeep : ∀ l node, d.node? l = some node → (∀ m, node ≠ .file m) → l ≠ name :: dir →
      e.node? l = some node ∧ bare.node? l = some node)
    (hnew : e.node? (name :: dir) = some (.file n)) (hbare : bare.node? (name :: dir) = none)
    (hat : d.node? (name :: dir) ≠ some .directory)
    (h : Route d false links here parts spot) (hend : spot.location = name :: dir)
    (hnodir : ∀ l, spot ≠ .found l .directory) :
    (∀ follow, e.resolve follow links here parts = .ok (.found (name :: dir) (.file n))) ∧
        bare.resolve false links here parts = .ok (.vacant dir name) ∨
      (∀ follow, e.resolve follow links here parts = .error (.os .notDirectory)) ∧
        bare.resolve false links here parts = .error (.os .notFound) ∧
        ∃ target, d.node? (name :: dir) = some (.link target) := by
  induction h with
  | arrived links here => exact absurd rfl (hnodir here)
  | stay _ ih =>
    simp only [resolve_dot]
    exact ih hend hnodir
  | ascend _ ih =>
    simp only [resolve_dots]
    exact ih hend hnodir
  | @enter links here rest spot step hnode _ ih =>
    have helse : step :: here ≠ name :: dir := by
      intro hsame
      exact hat (hsame ▸ hnode)
    obtain ⟨hthere, hbarethere⟩ := hkeep _ _ hnode (by simp) helse
    simp only [resolve_name, hthere, hbarethere]
    exact ih hend hnodir
  | @file links here number step hnode =>
    obtain ⟨rfl, rfl⟩ := List.cons.inj hend
    exact Or.inl ⟨fun follow => by rw [resolve_name, hnew]; rfl, by rw [resolve_name, hbare]; rfl⟩
  | @link links here target step hfollow hnode =>
    obtain ⟨rfl, rfl⟩ := List.cons.inj hend
    exact Or.inl ⟨fun follow => by rw [resolve_name, hnew]; rfl, by rw [resolve_name, hbare]; rfl⟩
  | @jump links here target rest spot step hnode hmore htarget _ ih =>
    have hrest : rest ≠ [] := fun hnil => hmore ⟨hnil, rfl⟩
    by_cases helse : step :: here = name :: dir
    · obtain ⟨rfl, rfl⟩ := List.cons.inj helse
      refine Or.inr ⟨fun follow => ?_, ?_, target, hnode⟩
      · simp only [resolve_name, hnew, if_neg hrest]
      · simp only [resolve_name, hbare, if_neg hrest]
    · obtain ⟨hthere, hbarethere⟩ := hkeep _ _ hnode (by simp) helse
      simp only [resolve_name, hthere, hbarethere, hrest, false_and, if_false, through, if_neg htarget]
      exact ih hend hnodir
  | @vacant links here step hnode =>
    obtain ⟨rfl, rfl⟩ := List.cons.inj hend
    exact Or.inl ⟨fun follow => by rw [resolve_name, hnew]; rfl, by rw [resolve_name, hbare]; rfl⟩

end Route

/-! ## Paths -/

variable {p : Path} {at_ : Location} {node : Node}

theorem refusal?_eq_none_iff :
    d.refusal? p = none ↔ (0 : UInt8) ∉ p.bytes ∧ p.bytes ≠ [] ∧ p.bytes.length < maxPathLength ∧
      (p.isAbsolute = false → d.node? d.cwd = some .directory) := by
  unfold refusal?
  by_cases hnul : (0 : UInt8) ∈ p.bytes
  · simp [hnul]
  by_cases hnil : p.bytes = []
  · simp [hnil]
  by_cases hlong : maxPathLength ≤ p.bytes.length
  · simp [hnul, hnil, hlong, Nat.not_lt.2 hlong]
  by_cases habs : p.isAbsolute = true
  · simp [hnul, hnil, hlong, Nat.not_le.1 hlong, habs]
  · by_cases hcwd : d.node? d.cwd = some .directory
    · simp [hnul, hnil, hlong, Nat.not_le.1 hlong, habs, isDirectoryAt, hcwd]
    · simp [hnul, hnil, hlong, habs, isDirectoryAt, hcwd]

theorem locate_eq_ok_iff :
    d.locate p follow = .ok spot ↔
      d.refusal? p = none ∧ Route d follow maxLinks (start d.cwd p) p.steps spot := by
  unfold locate
  cases h : d.refusal? p with
  | none => simp [resolve_eq_ok_iff]
  | some fault => simp

theorem stat_eq_ok_iff_locate : d.stat p = .ok (at_, node) ↔ d.locate p = .ok (.found at_ node) := by
  unfold stat
  split
  · next h => simp [h]
  · next h => simp [h]
  · next h => simp [h]

theorem lstat_eq_ok_iff_locate :
    d.lstat p = .ok (at_, node) ↔ d.locate p false = .ok (.found at_ node) := by
  unfold lstat
  split
  · next h => simp [h]
  · next h => simp [h]
  · next h => simp [h]

theorem stat_eq_ok_iff :
    d.stat p = .ok (at_, node) ↔
      d.refusal? p = none ∧ Route d true maxLinks (start d.cwd p) p.steps (.found at_ node) := by
  rw [stat_eq_ok_iff_locate, locate_eq_ok_iff]

/-- The empty path leads nowhere. -/
theorem bytes_ne_nil_of_stat (h : d.stat p = .ok (at_, node)) : p.bytes ≠ [] :=
  (refusal?_eq_none_iff.1 (stat_eq_ok_iff.1 h).1).2.1

theorem stat_ne_link {target : Path} : d.stat p ≠ .ok (at_, .link target) :=
  fun h => (stat_eq_ok_iff.1 h).2.ne_link

theorem isDirectory_iff : d.isDirectory p = true ↔ ∃ at_, d.stat p = .ok (at_, .directory) := by
  unfold isDirectory
  split
  · next at_ h => simp [h]
  · next hnot =>
    simp only [Bool.false_eq_true, false_iff, not_exists]
    exact fun at_ h => hnot at_ h

theorem isFile_iff : d.isFile p = true ↔ ∃ at_ n, d.stat p = .ok (at_, .file n) := by
  unfold isFile
  split
  · next at_ n h => simp [h]
  · next hnot =>
    simp only [Bool.false_eq_true, false_iff, not_exists]
    exact fun at_ n h => hnot at_ n h

/-- What is refused depends on the disk only in whether the current directory is there. -/
theorem refusal?_congr (hcwd : e.cwd = d.cwd)
    (hdirectory : e.node? d.cwd = some .directory ↔ d.node? d.cwd = some .directory) :
    e.refusal? p = d.refusal? p := by
  have hsame : e.isDirectoryAt d.cwd = d.isDirectoryAt d.cwd := by
    rw [Bool.eq_iff_iff]
    simpa [isDirectoryAt] using hdirectory
  simp only [refusal?, hcwd, hsame]

theorem refusal?_grow (hcwd : e.cwd = d.cwd)
    (hgrow : ∀ l node, d.node? l = some node → e.node? l = some node) (h : d.refusal? p = none) :
    e.refusal? p = none := by
  rw [refusal?_eq_none_iff, hcwd] at *
  exact ⟨h.1, h.2.1, h.2.2.1, fun habs => hgrow _ _ (h.2.2.2 habs)⟩

/-- What a path leads to, it leads to on every larger disk. -/
theorem stat_grow (hcwd : e.cwd = d.cwd)
    (hgrow : ∀ l node, d.node? l = some node → e.node? l = some node)
    (h : d.stat p = .ok (at_, node)) : e.stat p = .ok (at_, node) := by
  rw [stat_eq_ok_iff] at h ⊢
  obtain ⟨hrefusal, hroute⟩ := h
  exact ⟨refusal?_grow hcwd hgrow hrefusal, by rw [hcwd]; exact hroute.grow hgrow⟩

theorem lstat_grow (hcwd : e.cwd = d.cwd)
    (hgrow : ∀ l node, d.node? l = some node → e.node? l = some node)
    (h : d.lstat p = .ok (at_, node)) : e.lstat p = .ok (at_, node) := by
  rw [lstat_eq_ok_iff_locate, locate_eq_ok_iff] at h ⊢
  obtain ⟨hrefusal, hroute⟩ := h
  exact ⟨refusal?_grow hcwd hgrow hrefusal, by rw [hcwd]; exact hroute.grow hgrow⟩

/-- What a path leads to, it leads to wherever all that it passes is the same. -/
theorem stat_along (hcwd : e.cwd = d.cwd)
    (hpass : ∀ l x, (∀ m, x = .file m → l = at_ ∧ x = node) → d.node? l = some x → e.node? l = some x)
    (h : d.stat p = .ok (at_, node)) : e.stat p = .ok (at_, node) := by
  rw [stat_eq_ok_iff] at h ⊢
  obtain ⟨hrefusal, hroute⟩ := h
  refine ⟨?_, by rw [hcwd]; exact hroute.along hpass⟩
  rw [refusal?_eq_none_iff, hcwd] at *
  exact ⟨hrefusal.1, hrefusal.2.1, hrefusal.2.2.1,
    fun habs => hpass _ _ (by simp) (hrefusal.2.2.2 habs)⟩

/-! ## Files -/

theorem openPath_eq_file_iff {n : Nat} {f : FileData} :
    d.openPath p = .ok (.file n f) ↔
      (∃ at_, d.stat p = .ok (at_, .file n)) ∧ d.data n = f ∧ f.ownerReads = true := by
  unfold openPath
  split
  · next h => simp [h]
  · next at_ number h =>
    split
    · next hreads =>
      simp only [Except.ok.injEq, Opened.file.injEq, h, Prod.mk.injEq, Node.file.injEq]
      constructor
      · rintro ⟨rfl, rfl⟩
        exact ⟨⟨at_, rfl, rfl⟩, rfl, hreads⟩
      · rintro ⟨⟨_, _, rfl⟩, rfl, _⟩
        exact ⟨rfl, rfl⟩
    · next hreads =>
      simp only [reduceCtorEq, h, Except.ok.injEq, Prod.mk.injEq, Node.file.injEq, false_iff]
      rintro ⟨⟨_, _, rfl⟩, rfl, htrue⟩
      exact hreads htrue
  · next at_ node hnoFile h =>
    simp only [Except.ok.injEq, reduceCtorEq, h, Prod.mk.injEq, false_iff]
    rintro ⟨⟨_, _, rfl⟩, _⟩
    exact hnoFile _ rfl

end Disk

namespace FileData

theorem read_eq_ok_iff {f : FileData} {bytes : Bytes} :
    f.read = .ok bytes ↔ f.readFault = none ∧ f.content = bytes := by
  unfold read
  split <;> simp_all

end FileData

end ReleaseBundle
