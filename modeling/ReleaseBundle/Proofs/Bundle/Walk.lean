import ReleaseBundle.Bundle.Walk
import ReleaseBundle.Proofs.Bytes.Utf8
import ReleaseBundle.Proofs.Disk.Below
import Mathlib.Data.List.Forall2

/-!
# What the walk lists

A walk that succeeds is a `Listing`: entry by entry, each with what it stands for, and below a directory
another listing. The directories that the walk is inside of are gone from it, since they only decide
whether a walk fails. By induction on the listing, the entries are exactly the paths below the bundle that
lead somewhere, each once.
-/

namespace ReleaseBundle.Bundle

theorem map_eq_ok_iff {ε α β : Type} {x : Except ε α} {f : α → β} {b : β} :
    x.map f = .ok b ↔ ∃ a, x = .ok a ∧ f a = b := by
  cases x <;> simp [Except.map]

variable {d : Disk} {source : Path} {rootName : String} {here : Ancestor} {above : List Ancestor}
  {at_ : Location} {path : Path} {node : Node} {name : Name} {es : List Entry}

/-- What an entry of a directory stands for, however the walk came to it. -/
inductive Stands (d : Disk) (at_ : Location) (path : Path) : Node → Standing → Prop where
  | file (n : Nat) : Stands d at_ path (.file n) .file
  | directory : Stands d at_ path .directory (.directory at_)
  | linkToFile {target : Path} {l : Location} {n : Nat} : d.stat path = .ok (l, .file n) →
    Stands d at_ path (.link target) .file
  | linkToDirectory {target : Path} {l : Location} : d.stat path = .ok (l, .directory) →
    Stands d at_ path (.link target) (.directory l)

theorem stands_of_standing {stack : List Ancestor} {what : Standing}
    (h : standing d stack at_ path node = .ok what) : Stands d at_ path node what := by
  unfold standing at h
  split at h
  · cases h
    exact .file _
  · cases h
    exact .directory
  · split at h
    · cases h
    · next hstat =>
      split at h
      · cases h
      · cases h
        exact .linkToDirectory hstat
    · next l node hnoDir hstat =>
      cases h
      cases node with
      | directory => exact absurd rfl hnoDir
      | link target => exact absurd hstat Disk.stat_ne_link
      | file n => exact .linkToFile hstat

/-- A successful walk over some entries of the directory `here`. -/
inductive Listing (d : Disk) (source : Path) (rootName : String) :
    Ancestor → List (Name × Node) → List Entry → Prop where
  | done (here : Ancestor) : Listing d source rootName here [] []
  | file {here : Ancestor} {name : Name} {node : Node} {rest : List (Name × Node)} {called : String}
    {es : List Entry} :
    Stands d (name :: here.location) (here.path.child name.bytes) node .file →
    entryName source rootName (here.path.child name.bytes) = .ok called →
    Listing d source rootName here rest es →
    Listing d source rootName here ((name, node) :: rest) (⟨here.path.child name.bytes, called, false⟩ :: es)
  | directory {here : Ancestor} {name : Name} {node : Node} {rest : List (Name × Node)}
    {called : String} {l : Location} {x : Location × Node} {below es : List Entry} :
    Stands d (name :: here.location) (here.path.child name.bytes) node (.directory l) →
    entryName source rootName (here.path.child name.bytes) = .ok called →
    d.stat (here.path.child name.bytes) = .ok x →
    Listing d source rootName ⟨l, here.path.child name.bytes⟩ (sortedChildren d l) below →
    Listing d source rootName here rest es →
    Listing d source rootName here ((name, node) :: rest)
      (⟨here.path.child name.bytes, called, true⟩ :: (below ++ es))

theorem map_childrenOf (d : Disk) (at_ : Location) :
    (childrenOf d at_).map Subtype.val = sortedChildren d at_ := by
  exact List.attachWith_map_subtype_val _

/-- One step of the walk, without the facts that only its termination needs. -/
theorem walkChildren_eq (hc : d.node? (name :: here.location) = some node)
    (rest : List (Child d here.location)) :
    walkChildren d source rootName here above (⟨(name, node), hc⟩ :: rest) =
      match standing d (here :: above) (name :: here.location) (here.path.child name.bytes) node with
      | .error e => .error (.walk e)
      | .ok what =>
        match entryName source rootName (here.path.child name.bytes) with
        | .error e => .error e
        | .ok called =>
          match what with
          | .file =>
            (walkChildren d source rootName here above rest).map
              (⟨here.path.child name.bytes, called, false⟩ :: ·)
          | .directory l =>
            match walkDirectory d source rootName ⟨l, here.path.child name.bytes⟩ (here :: above) with
            | .error e => .error e
            | .ok below =>
              (walkChildren d source rootName here above rest).map fun es =>
                ⟨here.path.child name.bytes, called, true⟩ :: (below ++ es) := by
  rw [walkChildren]
  split
  · next e he => rw [he]
  · next what he =>
    simp only [he]
    cases what <;> rfl

/-- What one step of a successful walk has found. -/
theorem walkChildren_cons {c : Child d here.location} {rest : List (Child d here.location)}
    (h : walkChildren d source rootName here above (c :: rest) = .ok es) :
    ∃ what called tail,
      standing d (here :: above) (c.1.1 :: here.location) (here.path.child c.1.1.bytes) c.1.2 = .ok what ∧
        entryName source rootName (here.path.child c.1.1.bytes) = .ok called ∧
        walkChildren d source rootName here above rest = .ok tail ∧
        ((what = .file ∧ es = ⟨here.path.child c.1.1.bytes, called, false⟩ :: tail) ∨
          ∃ l below, what = .directory l ∧
            walkDirectory d source rootName ⟨l, here.path.child c.1.1.bytes⟩ (here :: above) = .ok below ∧
            es = ⟨here.path.child c.1.1.bytes, called, true⟩ :: (below ++ tail)) := by
  obtain ⟨⟨name, node⟩, hc⟩ := c
  rw [walkChildren_eq] at h
  simp only at h ⊢
  split at h
  · cases h
  next what hstanding =>
  split at h
  · cases h
  next called hcalled =>
  split at h
  · obtain ⟨tail, htail, rfl⟩ := map_eq_ok_iff.1 h
    exact ⟨.file, called, tail, hstanding, hcalled, htail, Or.inl ⟨rfl, rfl⟩⟩
  · next l =>
    split at h
    · cases h
    next below hbelow =>
    obtain ⟨tail, htail, rfl⟩ := map_eq_ok_iff.1 h
    exact ⟨.directory l, called, tail, hstanding, hcalled, htail,
      Or.inr ⟨l, below, rfl, hbelow, rfl⟩⟩

/-- Every successful walk is a listing. -/
theorem listing_of_walk (d : Disk) (source : Path) (rootName : String) :
    (∀ here above, ∀ es, walkDirectory d source rootName here above = .ok es →
      (∃ x, d.stat here.path = .ok x) ∧
        Listing d source rootName here (sortedChildren d here.location) es) ∧
    (∀ here above (cs : List (Child d here.location)), ∀ es,
      walkChildren d source rootName here above cs = .ok es →
      Listing d source rootName here (cs.map Subtype.val) es) := by
  refine walkDirectory.mutual_induct d source rootName
    (fun here above => ∀ es, walkDirectory d source rootName here above = .ok es →
      (∃ x, d.stat here.path = .ok x) ∧
        Listing d source rootName here (sortedChildren d here.location) es)
    (fun here above cs => ∀ es, walkChildren d source rootName here above cs = .ok es →
      Listing d source rootName here (cs.map Subtype.val) es)
    ?unreadable ?opened ?nil ?refused ?unnamed ?file ?broken ?directory
  case unreadable =>
    intro here above fault hstat es h
    rw [walkDirectory, hstat] at h
    cases h
  case opened =>
    intro here above x hstat ih es h
    rw [walkDirectory, hstat] at h
    refine ⟨⟨x, hstat⟩, ?_⟩
    rw [← map_childrenOf]
    exact ih es h
  case nil =>
    intro here above es h
    rw [walkChildren] at h
    cases h
    exact .done here
  case refused =>
    intro here above name node hc rest path e hstanding es h
    obtain ⟨what, called, tail, hwhat, _⟩ := walkChildren_cons h
    rw [hstanding] at hwhat
    cases hwhat
  case unnamed =>
    intro here above name node hc rest path what hstanding e hname es h
    obtain ⟨what, called, tail, _, hcalled, _⟩ := walkChildren_cons h
    rw [hname] at hcalled
    cases hcalled
  case file =>
    intro here above name node hc rest path called hname hstanding _ ih es h
    obtain ⟨what, called, tail, hwhat, hcalled, htail, hentries⟩ := walkChildren_cons h
    rw [hstanding] at hwhat
    cases hwhat
    obtain ⟨_, rfl⟩ | ⟨_, _, hkind, _⟩ := hentries
    · exact .file (stands_of_standing hstanding) hcalled (ih tail htail)
    · cases hkind
  case broken =>
    intro here above name node hc rest path called hname l hstanding e hbelow _ _ es h
    obtain ⟨what, called, tail, hwhat, _, _, hentries⟩ := walkChildren_cons h
    rw [hstanding] at hwhat
    cases hwhat
    obtain ⟨hkind, _⟩ | ⟨_, _, hkind, hwalk, _⟩ := hentries
    · cases hkind
    · cases hkind
      rw [hbelow] at hwalk
      cases hwalk
  case directory =>
    intro here above name node hc rest path called hname l hstanding below hbelow _ ihBelow ih es h
    obtain ⟨what, called, tail, hwhat, hcalled, htail, hentries⟩ := walkChildren_cons h
    rw [hstanding] at hwhat
    cases hwhat
    obtain ⟨hkind, _⟩ | ⟨_, below, hkind, hwalk, rfl⟩ := hentries
    · cases hkind
    · cases hkind
      obtain ⟨⟨x, hstat⟩, hlisting⟩ := ihBelow below hwalk
      exact .directory (stands_of_standing hstanding) hcalled hstat hlisting (ih tail htail)

/-- What is collected is the directory itself and a listing of what it holds. -/
theorem listing_of_collect {l : Location} (hstat : d.stat source = .ok (l, .directory))
    (h : collect d source = .ok es) :
    ∃ bytes chars called below, source.fileName? = some bytes ∧ Text.decode? bytes = some chars ∧
      entryName source (String.ofList chars) source = .ok called ∧
      es = ⟨source, called, true⟩ :: below ∧
      walkDirectory d source (String.ofList chars) ⟨l, source⟩ [] = .ok below ∧
      Listing d source (String.ofList chars) ⟨l, source⟩ (sortedChildren d l) below := by
  unfold collect at h
  split at h
  · cases h
  next bytes hbytes =>
  split at h
  · cases h
  next chars hchars =>
  rw [hstat] at h
  simp only at h
  split at h
  · cases h
  next called hcalled =>
  rw [if_pos trivial, map_eq_ok_iff] at h
  obtain ⟨below, hwalk, rfl⟩ := h
  exact ⟨bytes, chars, called, below, hbytes, hchars, hcalled, rfl, hwalk,
    ((listing_of_walk d source (String.ofList chars)).1 ⟨l, source⟩ [] below hwalk).2⟩

end ReleaseBundle.Bundle
