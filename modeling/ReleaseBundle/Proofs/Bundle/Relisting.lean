import ReleaseBundle.Proofs.Bundle.Order
import ReleaseBundle.Proofs.Disk.Plain

/-!
# Listing a tree again

Without links no walk goes round in circles, so every listing is the result of a walk. A listing depends
on nothing but the tree below its directory: on a disk that has the same tree there, the same walk gives
the same entries.
-/

namespace ReleaseBundle.Bundle

variable {d e : Disk} {source : Path} {rootName : String} {here : Ancestor} {top l : Location}
  {cs : List (Name × Node)} {es : List Entry}

/-! ## From listings to walks -/

theorem standing_plain {stack : List Ancestor} {at_ : Location} {path : Path} {node : Node}
    {what : Standing} (hplain : d.Plain) (hnode : d.node? at_ = some node) (h : Stands d at_ path node what) :
    standing d stack at_ path node = .ok what := by
  cases h with
  | file n => rfl
  | directory => rfl
  | linkToFile _ => exact absurd hnode (hplain _ _)
  | linkToDirectory _ => exact absurd hnode (hplain _ _)

/-- On a disk without links every listing is walked. -/
theorem walk_of_listing (hplain : d.Plain) (h : Listing d source rootName here cs es)
    (above : List Ancestor) (children : List (Child d here.location))
    (hchildren : children.map Subtype.val = cs) :
    walkChildren d source rootName here above children = .ok es := by
  induction h generalizing above with
  | done here =>
    rw [List.map_eq_nil_iff.1 hchildren, walkChildren]
  | @file here name node rest called es hstands hname _ ih =>
    obtain ⟨c, children, rfl, hfirst, hrest⟩ := List.map_eq_cons_iff.1 hchildren
    obtain ⟨_, hc⟩ := c
    subst hfirst
    have hstanding : standing d (here :: above) _ _ node = .ok _ := standing_plain hplain hc hstands
    simp only [walkChildren_eq, hstanding, hname, ih above children hrest]
    rfl
  | @directory here name node rest called l x below es hstands hname hstat _ _ ihBelow ih =>
    obtain ⟨c, children, rfl, hfirst, hrest⟩ := List.map_eq_cons_iff.1 hchildren
    obtain ⟨_, hc⟩ := c
    subst hfirst
    have hstanding : standing d (here :: above) _ _ node = .ok _ := standing_plain hplain hc hstands
    have hwalk : walkDirectory d source rootName ⟨l, here.path.child name.bytes⟩ (here :: above) =
        .ok below := by
      rw [walkDirectory, hstat]
      exact ihBelow (here :: above) _ (map_childrenOf d l)
    simp only [walkChildren_eq, hstanding, hname, hwalk, ih above children hrest]
    rfl

/-- On a disk without links a bundle is collected as the listing of its directory. -/
theorem collect_of_listing {bytes : Bytes} {chars : List Char} {called : String} {below : List Entry}
    (hplain : d.Plain) (hbytes : source.fileName? = some bytes) (hchars : Text.decode? bytes = some chars)
    (hstat : d.stat source = .ok (top, .directory))
    (hcalled : entryName source (String.ofList chars) source = .ok called)
    (hlisting : Listing d source (String.ofList chars) ⟨top, source⟩ (sortedChildren d top) below) :
    collect d source = .ok (⟨source, called, true⟩ :: below) := by
  have hwalk : walkDirectory d source (String.ofList chars) ⟨top, source⟩ [] = .ok below := by
    rw [walkDirectory, hstat]
    exact walk_of_listing hplain hlisting [] _ (map_childrenOf d top)
  simp only [collect, hbytes, hchars, hstat, hcalled, hwalk, if_true]
  rfl

/-- Nothing but the bundle itself is listed of an empty one, whatever else is on the disk. -/
theorem collect_of_empty {bytes : Bytes} {chars : List Char} {called : String}
    (hbytes : source.fileName? = some bytes) (hchars : Text.decode? bytes = some chars)
    (hstat : d.stat source = .ok (top, .directory))
    (hcalled : entryName source (String.ofList chars) source = .ok called)
    (hempty : sortedChildren d top = []) : collect d source = .ok [⟨source, called, true⟩] := by
  have hchildren : childrenOf d top = [] := by
    rw [← List.map_eq_nil_iff, map_childrenOf, hempty]
  have hwalk : walkDirectory d source (String.ofList chars) ⟨top, source⟩ [] = .ok [] := by
    rw [walkDirectory, hstat]
    simp only [hchildren, walkChildren]
  simp only [collect, hbytes, hchars, hstat, hcalled, hwalk, if_true]
  rfl

/-! ## On another disk -/

theorem sortedChildren_congr (h : ∀ name, e.node? (name :: l) = d.node? (name :: l)) :
    sortedChildren e l = sortedChildren d l :=
  sortedChildren_eq (sortedChildren_ordered d l) fun c => by rw [mem_sortedChildren, h]

/-- The disk `e` has the tree of `d` below `top`, and the paths that lead into it lead there as before. -/
structure SameTree (d e : Disk) (top : Location) : Prop where
  node? : ∀ l name, top <:+ l → e.node? (name :: l) = d.node? (name :: l)
  stat : ∀ p l node, top <:+ l → d.stat p = .ok (l, node) → e.stat p = .ok (l, node)

theorem Listing.again (h : Listing d source rootName here cs es) (hplain : d.Plain) (hsame : SameTree d e top)
    (htop : top <:+ here.location) (hdir : d.stat here.path = .ok (here.location, .directory))
    (hthere : ∀ c ∈ cs, d.node? (c.1 :: here.location) = some c.2) :
    Listing e source rootName here cs es := by
  induction h with
  | done here => exact .done here
  | @file here name node rest called es hstands hname _ ih =>
    have hrest := ih htop hdir fun c hc => hthere c (List.mem_cons_of_mem _ hc)
    have hnode := hthere (name, node) List.mem_cons_self
    cases hstands with
    | file n => exact .file (.file n) hname hrest
    | linkToFile _ => exact absurd hnode (hplain _ _)
  | @directory here name node rest called l x below es hstands hname hstat hbelow _ ihBelow ih =>
    have hrest := ih htop hdir fun c hc => hthere c (List.mem_cons_of_mem _ hc)
    have hnode := hthere (name, node) List.mem_cons_self
    have hstatDir := hstands.stat_directory hdir hnode hstat
    cases hstands with
    | directory =>
      have hinside : top <:+ name :: here.location := htop.trans (List.suffix_cons _ _)
      have hinner := ihBelow hinside hstatDir fun c hc => mem_sortedChildren.1 hc
      rw [← sortedChildren_congr fun n => hsame.node? _ n hinside] at hinner
      exact .directory .directory hname (hsame.stat _ _ _ hinside hstatDir) hinner hrest
    | linkToDirectory _ => exact absurd hnode (hplain _ _)

/-- The same tree is listed in the same way. -/
theorem collect_again (hplain : d.Plain) (hplain' : e.Plain) (hsame : SameTree d e top)
    (hstat : d.stat source = .ok (top, .directory)) (h : collect d source = .ok es) :
    collect e source = .ok es := by
  have hstat' := hsame.stat _ _ _ (List.suffix_refl top) hstat
  obtain ⟨bytes, chars, called, below, hbytes, hchars, hcalled, rfl, hwalk, hlisting⟩ :=
    listing_of_collect hstat h
  have hagain := hlisting.again hplain hsame (List.suffix_refl top) hstat fun c hc => mem_sortedChildren.1 hc
  rw [← sortedChildren_congr fun n => hsame.node? _ n (List.suffix_refl top)] at hagain
  exact collect_of_listing hplain' hbytes hchars hstat' hcalled hagain

end ReleaseBundle.Bundle
