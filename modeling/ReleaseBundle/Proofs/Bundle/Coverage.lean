import ReleaseBundle.Proofs.Bundle.Walk
import Mathlib.Data.List.Nodup

/-!
# What a listing covers

The entries of a listing are named by where they are below the bundle. By induction on the listing, each
of them leads to what it is listed as, none of them comes twice, and they are closed downwards: with a
directory comes everything that the directory holds. Whatever a path below the bundle leads to is
therefore listed.
-/

namespace ReleaseBundle.Bundle

variable {d : Disk} {source : Path} {rootName called : String} {here : Ancestor} {rel r : List Name}
  {cs : List (Name × Node)} {es : List Entry}

/-! ## Names -/

theorem ofString_foldl (rootName : String) (parts : List (List Char)) :
    Text.ofString (parts.foldl (fun name part => name ++ "/" ++ String.ofList part) rootName) =
      Path.glue (Text.ofString rootName :: parts.map Text.encode) := by
  induction parts generalizing rootName with
  | nil => simp
  | cons part parts ih =>
    have hname : Text.ofString (rootName ++ "/" ++ String.ofList part) =
        Text.ofString rootName ++ Path.slash :: Text.encode part := by
      simp [Text.ofString, Text.encode, Text.encodeChar, Path.slash]
    rw [List.foldl_cons, ih, hname]
    cases parts <;> simp [Path.glue_cons_cons]

theorem encode_of_mapM {components : List Component} {parts : List (List Char)}
    (h : components.mapM (fun c => Text.decode? c.bytes) = some parts) :
    parts.map Text.encode = components.map Component.bytes := by
  induction components generalizing parts with
  | nil =>
    cases h
    rfl
  | cons c components ih =>
    simp only [List.mapM_cons, Option.bind_eq_bind, Option.bind_eq_some_iff, Option.pure_def,
      Option.some.injEq] at h
    obtain ⟨part, hpart, parts, hparts, rfl⟩ := h
    rw [List.map_cons, List.map_cons, ih hparts, Text.encode_of_decode? hpart]

/-- An entry is called what its place below the bundle is. -/
theorem ofString_entryName (hsource : source.bytes ≠ [])
    (h : entryName source rootName (source.below rel) = .ok called) :
    Text.ofString called = Path.glue (Text.ofString rootName :: rel.map Name.bytes) := by
  unfold entryName at h
  rw [Path.relativeTo?_below hsource] at h
  simp only at h
  split at h
  · cases h
  · next parts hparts =>
    cases h
    rw [ofString_foldl, encode_of_mapM hparts, List.map_map]
    rfl

/-! ## What entries lead to -/

/-- The entry is what is listed for a place below the bundle. A file that nothing was looked up for is
known to be there only as far as its path is not refused. -/
structure Listed (d : Disk) (source : Path) (rootName : String) (rel : List Name) (e : Entry) :
    Prop where
  source : e.source = source.below rel
  name : Text.ofString e.name = Path.glue (Text.ofString rootName :: rel.map Name.bytes)
  directory : e.isDirectory = true → ∃ l, d.stat e.source = .ok (l, .directory)
  file : e.isDirectory = false → d.refusal? e.source = none → ∃ l n, d.stat e.source = .ok (l, .file n)

/-- The places `rels`, seen from the directory at `p`, are what the entries `es` are listed for. -/
structure Covers (d : Disk) (source : Path) (rootName : String) (r : List Name)
    (cs : List (Name × Node)) (rels : List (List Name)) (es : List Entry) : Prop where
  listed : List.Forall₂ (fun rel e => Listed d source rootName (r ++ rel) e) rels es
  nodup : rels.Nodup
  first : ∀ rel ∈ rels, ∃ name rest, rel = name :: rest ∧ name ∈ cs.map Prod.fst
  entries : ∀ name ∈ cs.map Prod.fst, [name] ∈ rels
  closed : ∀ rel ∈ rels, ∀ l name node, d.stat (source.below (r ++ rel)) = .ok (l, .directory) →
    d.node? (name :: l) = some node → rel ++ [name] ∈ rels

/-- An entry that counts as a file leads to a file. -/
theorem Stands.stat_file {at_ : Location} {name : Name} {node : Node} {p : Path}
    (h : Stands d (name :: at_) (p.child name.bytes) node .file)
    (hdir : d.stat p = .ok (at_, .directory)) (hnode : d.node? (name :: at_) = some node)
    (hnone : d.refusal? (p.child name.bytes) = none) :
    ∃ l n, d.stat (p.child name.bytes) = .ok (l, .file n) := by
  cases h with
  | file n => exact ⟨_, n, Disk.stat_child hdir hnode (by simp) hnone⟩
  | linkToFile hstat => exact ⟨_, _, hstat⟩

/-- An entry that counts as a directory leads to that directory. -/
theorem Stands.stat_directory {at_ l : Location} {name : Name} {node : Node} {p : Path}
    {x : Location × Node} (h : Stands d (name :: at_) (p.child name.bytes) node (.directory l))
    (hdir : d.stat p = .ok (at_, .directory)) (hnode : d.node? (name :: at_) = some node)
    (hstat : d.stat (p.child name.bytes) = .ok x) :
    d.stat (p.child name.bytes) = .ok (l, .directory) := by
  cases h with
  | directory => exact Disk.stat_child hdir hnode (by simp) (Disk.stat_eq_ok_iff.1 hstat).1
  | linkToDirectory hstat => exact hstat

/-- No place is in or at an entry that is not among those looked at. -/
theorem Covers.not_mem {name : Name} {rels : List (List Name)} (h : Covers d source rootName r cs rels es)
    (hfresh : name ∉ cs.map Prod.fst) (rest : List Name) : name :: rest ∉ rels := by
  intro hmem
  obtain ⟨_, _, heq, hin⟩ := h.first _ hmem
  cases heq
  exact hfresh hin

/-- What is listed for an entry, and what is listed after it. -/
theorem Covers.file {name : Name} {node : Node} {rels : List (List Name)} {e : Entry}
    (h : Covers d source rootName r cs rels es) (hfresh : name ∉ cs.map Prod.fst)
    (hlisted : Listed d source rootName (r ++ [name]) e) (hfile : e.isDirectory = false) :
    Covers d source rootName r ((name, node) :: cs) ([name] :: rels) (e :: es) where
  listed := .cons hlisted h.listed
  nodup := List.nodup_cons.2 ⟨h.not_mem hfresh [], h.nodup⟩
  first := by
    intro rel hrel
    rcases List.mem_cons.1 hrel with rfl | hrel
    · exact ⟨name, [], rfl, List.mem_cons_self⟩
    · obtain ⟨n, rest, heq, hin⟩ := h.first rel hrel
      exact ⟨n, rest, heq, List.mem_cons_of_mem _ hin⟩
  entries := by
    intro n hn
    rcases List.mem_cons.1 hn with rfl | hn
    · exact List.mem_cons_self
    · exact List.mem_cons_of_mem _ (h.entries n hn)
  closed := by
    intro rel hrel l n node' hstat hnode
    rcases List.mem_cons.1 hrel with rfl | hrel
    · rw [← hlisted.source] at hstat
      obtain ⟨_, _, hstat'⟩ := hlisted.file hfile (Disk.stat_eq_ok_iff.1 hstat).1
      rw [hstat] at hstat'
      cases hstat'
    · exact List.mem_cons_of_mem _ (h.closed rel hrel l n node' hstat hnode)

theorem Covers.directory {name : Name} {node : Node} {rels inner : List (List Name)} {e : Entry}
    {below : List Entry} {l : Location} (h : Covers d source rootName r cs rels es)
    (hfresh : name ∉ cs.map Prod.fst)
    (hbelow : Covers d source rootName (r ++ [name]) (sortedChildren d l) inner below)
    (hlisted : Listed d source rootName (r ++ [name]) e)
    (hstat : d.stat (source.below (r ++ [name])) = .ok (l, .directory)) :
    Covers d source rootName r ((name, node) :: cs) ([name] :: (inner.map (name :: ·) ++ rels))
      (e :: (below ++ es)) where
  listed := by
    refine .cons hlisted (List.rel_append ?_ h.listed)
    rw [List.forall₂_map_left_iff]
    refine hbelow.listed.imp fun rel e' hrel => ?_
    rwa [List.append_assoc] at hrel
  nodup := by
    refine List.nodup_cons.2 ⟨fun hmem => ?_, List.nodup_append.2 ⟨?_, h.nodup, ?_⟩⟩
    · rcases List.mem_append.1 hmem with hmem | hmem
      · obtain ⟨rel, hrel, heq⟩ := List.mem_map.1 hmem
        obtain ⟨_, _, rfl, _⟩ := hbelow.first rel hrel
        cases heq
      · exact h.not_mem hfresh [] hmem
    · exact List.Nodup.map (fun _ _ heq => (List.cons.inj heq).2) hbelow.nodup
    · rintro a ha b hb rfl
      obtain ⟨rel, _, rfl⟩ := List.mem_map.1 ha
      exact h.not_mem hfresh rel hb
  first := by
    intro rel hrel
    rcases List.mem_cons.1 hrel with rfl | hrel
    · exact ⟨name, [], rfl, List.mem_cons_self⟩
    rcases List.mem_append.1 hrel with hrel | hrel
    · obtain ⟨rest, _, rfl⟩ := List.mem_map.1 hrel
      exact ⟨name, rest, rfl, List.mem_cons_self⟩
    · obtain ⟨n, rest, heq, hin⟩ := h.first rel hrel
      exact ⟨n, rest, heq, List.mem_cons_of_mem _ hin⟩
  entries := by
    intro n hn
    rcases List.mem_cons.1 hn with rfl | hn
    · exact List.mem_cons_self
    · exact List.mem_cons_of_mem _ (List.mem_append_right _ (h.entries n hn))
  closed := by
    intro rel hrel l' n node' hstat' hnode
    rcases List.mem_cons.1 hrel with rfl | hrel
    · rw [hstat] at hstat'
      cases hstat'
      have hin : n ∈ (sortedChildren d l).map Prod.fst :=
        List.mem_map.2 ⟨(n, node'), mem_sortedChildren.2 hnode, rfl⟩
      exact List.mem_cons_of_mem _
        (List.mem_append_left _ (List.mem_map.2 ⟨[n], hbelow.entries n hin, rfl⟩))
    refine List.mem_cons_of_mem _ ?_
    rcases List.mem_append.1 hrel with hrel | hrel
    · obtain ⟨rest, hrest, rfl⟩ := List.mem_map.1 hrel
      rw [show r ++ name :: rest = r ++ [name] ++ rest by simp] at hstat'
      exact List.mem_append_left _
        (List.mem_map.2 ⟨rest ++ [n], hbelow.closed rest hrest l' n node' hstat' hnode, rfl⟩)
    · exact List.mem_append_right _ (h.closed rel hrel l' n node' hstat' hnode)

theorem nodup_sortedChildren (d : Disk) (at_ : Location) :
    ((sortedChildren d at_).map Prod.fst).Nodup :=
  ((List.mergeSort_perm _ _).map Prod.fst).nodup_iff.2 (d.nodup_children at_)

/-- A listing covers all that is below its directory. -/
theorem Listing.covers (h : Listing d source rootName here cs es) (hsource : source.bytes ≠ [])
    (hpath : here.path = source.below r) (hdir : d.stat here.path = .ok (here.location, .directory))
    (hnames : (cs.map Prod.fst).Nodup)
    (hthere : ∀ c ∈ cs, d.node? (c.1 :: here.location) = some c.2) :
    ∃ rels, Covers d source rootName r cs rels es := by
  induction h generalizing r with
  | done here =>
    exact ⟨[], .nil, List.nodup_nil, by simp, by simp, by simp⟩
  | @file here name node rest called es hstands hname _ ih =>
    obtain ⟨hfresh, hnames⟩ := List.nodup_cons.1 hnames
    obtain ⟨rels, hrels⟩ := ih hpath hdir hnames fun c hc => hthere c (List.mem_cons_of_mem _ hc)
    have hchild : here.path.child name.bytes = source.below (r ++ [name]) := by
      rw [hpath, Path.below_concat]
    refine ⟨[name] :: rels, hrels.file hfresh ⟨hchild, ?_, by simp, fun _ hnone => ?_⟩ rfl⟩
    · rw [hchild] at hname
      exact ofString_entryName hsource hname
    · exact hstands.stat_file hdir (hthere _ List.mem_cons_self) hnone
  | @directory here name node rest called l x below es hstands hname hstat _ _ ihBelow ih =>
    obtain ⟨hfresh, hnames⟩ := List.nodup_cons.1 hnames
    obtain ⟨rels, hrels⟩ := ih hpath hdir hnames fun c hc => hthere c (List.mem_cons_of_mem _ hc)
    have hchild : here.path.child name.bytes = source.below (r ++ [name]) := by
      rw [hpath, Path.below_concat]
    have hstatDir := hstands.stat_directory hdir (hthere _ List.mem_cons_self) hstat
    obtain ⟨inner, hinner⟩ := ihBelow hchild hstatDir (nodup_sortedChildren d l)
      fun c hc => mem_sortedChildren.1 hc
    refine ⟨_, hrels.directory hfresh hinner ⟨hchild, ?_, fun _ => ⟨l, hstatDir⟩, by simp⟩ ?_⟩
    · rw [hchild] at hname
      exact ofString_entryName hsource hname
    · rw [← hchild]
      exact hstatDir

/-! ## The whole bundle -/

/-- The places `rels` below the bundle are what the entries `es` are listed for, and they are all there
is below the bundle. -/
structure Complete (d : Disk) (source : Path) (rootName : String) (rels : List (List Name))
    (es : List Entry) : Prop where
  listed : List.Forall₂ (Listed d source rootName) rels es
  nodup : rels.Nodup
  root : [] ∈ rels
  closed : ∀ rel ∈ rels, ∀ l name node, d.stat (source.below rel) = .ok (l, .directory) →
    d.node? (name :: l) = some node → rel ++ [name] ∈ rels

theorem complete_of_collect (hdir : d.isDirectory source = true) (h : collect d source = .ok es) :
    ∃ rootName rels, source.fileName? = some (Text.ofString rootName) ∧
      Complete d source rootName rels es := by
  obtain ⟨l, hstat⟩ := Disk.isDirectory_iff.1 hdir
  have hsource := Disk.bytes_ne_nil_of_stat hstat
  obtain ⟨bytes, chars, called, below, hbytes, hchars, hcalled, rfl, _, hlisting⟩ :=
    listing_of_collect hstat h
  have hroot : Text.ofString (String.ofList chars) = bytes := by
    simp [Text.ofString, Text.encode_of_decode? hchars]
  obtain ⟨rels, hrels⟩ := hlisting.covers (r := []) hsource rfl hstat (nodup_sortedChildren d l)
    fun c hc => mem_sortedChildren.1 hc
  rw [← Path.below_nil source] at hcalled
  have hcalled' := ofString_entryName hsource hcalled
  refine ⟨String.ofList chars, [] :: rels, by rw [hroot, hbytes], ?_⟩
  exact {
    listed := .cons ⟨rfl, hcalled', fun _ => ⟨l, hstat⟩, by simp⟩ hrels.listed
    nodup := by
      refine List.nodup_cons.2 ⟨fun hmem => ?_, hrels.nodup⟩
      obtain ⟨_, _, heq, _⟩ := hrels.first _ hmem
      cases heq
    root := List.mem_cons_self
    closed := by
      intro rel hrel l' name node hstat' hnode
      refine List.mem_cons_of_mem _ ?_
      rcases List.mem_cons.1 hrel with rfl | hrel
      · rw [Path.below_nil, hstat] at hstat'
        cases hstat'
        exact hrels.entries name (List.mem_map.2 ⟨(name, node), mem_sortedChildren.2 hnode, rfl⟩)
      · exact hrels.closed rel hrel l' name node hstat' hnode }

variable {rels : List (List Name)}

/-- Whatever leads somewhere is listed. -/
theorem Complete.mem_append (h : Complete d source rootName rels es) (hsource : source.bytes ≠ [])
    (hr : r ∈ rels) {x : Location × Node} (hstat : d.stat (source.below (r ++ rel)) = .ok x) :
    r ++ rel ∈ rels := by
  induction rel generalizing r with
  | nil => simpa using hr
  | cons name rest ih =>
    have hsplit : r ++ name :: rest = r ++ [name] ++ rest := by simp
    rw [hsplit] at hstat ⊢
    refine ih ?_ hstat
    rw [Path.below_append _ (r ++ [name])] at hstat
    obtain ⟨y, hchild⟩ : ∃ y, d.stat ((source.below r).child name.bytes) = .ok y := by
      rw [← Path.below_concat]
      rcases Disk.stat_of_below (Path.below_ne_nil hsource _) hstat with ⟨_, hend⟩ | ⟨_, hopen⟩
      · exact ⟨_, hend⟩
      · exact ⟨_, hopen⟩
    obtain ⟨l, hdir, hnode⟩ := Disk.stat_child_cases (Path.below_ne_nil hsource r) hchild
    rcases hnode with ⟨_, hnode⟩ | ⟨_, hnode⟩
    · exact h.closed r hr l name _ hdir hnode
    · exact h.closed r hr l name _ hdir hnode

theorem Complete.mem (h : Complete d source rootName rels es) (hsource : source.bytes ≠ [])
    {x : Location × Node} (hstat : d.stat (source.below rel) = .ok x) : rel ∈ rels :=
  h.mem_append hsource h.root (r := []) hstat

end ReleaseBundle.Bundle
