import ReleaseBundle.Proofs.Bundle.Coverage
import Mathlib.Data.List.Sort

/-!
# The order of a listing

The places below a bundle are ordered like words, name by name, each name by its bytes. A directory comes
before what it holds, and what it holds comes before its next sibling, so a walk that takes the entries of
every directory in the order of their names lists places in increasing order. Hence no place is listed
twice, and a listing is determined by the set of its places: in which order the system lists directories
cannot be seen in it.
-/

namespace ReleaseBundle.Bundle

variable {d : Disk} {source : Path} {rootName : String} {here : Ancestor} {r : List Name}
  {cs : List (Name × Node)} {es : List Entry}

/-- The order of places below a bundle. -/
def Before (a b : List Name) : Prop := a.map Name.bytes < b.map Name.bytes

namespace Before

variable {a b : List Name} {name other : Name}

theorem nil_cons (name : Name) (rest : List Name) : Before [] (name :: rest) :=
  List.nil_lt_cons _ _

theorem cons (h : Before a b) (name : Name) : Before (name :: a) (name :: b) :=
  List.cons_lt_cons_self.2 h

theorem of_name (h : name.bytes < other.bytes) (a b : List Name) : Before (name :: a) (other :: b) :=
  List.Lex.rel h

instance : Std.Asymm Before := ⟨fun _ _ => List.lt_asymm⟩

end Before

/-! ## Siblings -/

/-- The entries of a directory come in the order of their names. -/
theorem sortedChildren_ordered (d : Disk) (at_ : Location) :
    (sortedChildren d at_).Pairwise fun a b => a.1.bytes < b.1.bytes := by
  have hsorted : (sortedChildren d at_).Pairwise fun a b => a.1.bytes ≤ b.1.bytes := by
    refine (List.pairwise_mergeSort (fun a b c hab hbc => ?_) (fun a b => ?_) _).imp of_decide_eq_true
    · simp only [decide_eq_true_eq] at hab hbc ⊢
      exact List.le_trans hab hbc
    · simp only [Bool.or_eq_true, decide_eq_true_eq]
      exact List.le_total _ _
  have hnames := List.pairwise_map.1 (nodup_sortedChildren d at_)
  refine (hsorted.and hnames).imp ?_
  rintro ⟨⟨a, _⟩, _⟩ ⟨⟨b, _⟩, _⟩ ⟨hle, hne⟩
  by_contra hnot
  obtain rfl : a = b := List.le_antisymm hle (List.not_lt.1 hnot)
  exact hne rfl

/-- Entries in the order of their names are the entries of a directory in only one way. -/
theorem sortedChildren_eq {at_ : Location} (hordered : cs.Pairwise fun a b => a.1.bytes < b.1.bytes)
    (hmem : ∀ c, c ∈ cs ↔ d.node? (c.1 :: at_) = some c.2) : sortedChildren d at_ = cs := by
  have : Std.Asymm fun a b : Name × Node => a.1.bytes < b.1.bytes := ⟨fun _ _ => List.lt_asymm⟩
  apply (sortedChildren_ordered d at_).eq_of_mem_iff hordered
  intro c
  rw [mem_sortedChildren, hmem]

/-! ## Walks -/

/-- The places of the entries `es`, seen from the directory at `r`, come in order, and they start with
entries of the directory. -/
structure Ordered (source : Path) (r : List Name) (cs : List (Name × Node)) (rels : List (List Name))
    (es : List Entry) : Prop where
  places : List.Forall₂ (fun rel e => e.source = source.below (r ++ rel)) rels es
  ordered : rels.Pairwise Before
  first : ∀ rel ∈ rels, ∃ c ∈ cs, ∃ rest, rel = c.1 :: rest

/-- A listing lists places in order. -/
theorem Listing.ordered (h : Listing d source rootName here cs es) (hpath : here.path = source.below r)
    (hnames : cs.Pairwise fun a b => a.1.bytes < b.1.bytes) : ∃ rels, Ordered source r cs rels es := by
  induction h generalizing r with
  | done here => exact ⟨[], .nil, .nil, by simp⟩
  | @file here name node rest called es _ _ _ ih =>
    obtain ⟨hbefore, hnames⟩ := List.pairwise_cons.1 hnames
    obtain ⟨rels, hrels⟩ := ih hpath hnames
    have hchild : here.path.child name.bytes = source.below (r ++ [name]) := by
      rw [hpath, Path.below_concat]
    refine ⟨[name] :: rels, .cons hchild hrels.places, ?_, ?_⟩
    · refine .cons (fun rel hrel => ?_) hrels.ordered
      obtain ⟨c, hc, tail, rfl⟩ := hrels.first rel hrel
      exact .of_name (hbefore c hc) _ _
    · intro rel hrel
      rcases List.mem_cons.1 hrel with rfl | hrel
      · exact ⟨_, List.mem_cons_self, [], rfl⟩
      · obtain ⟨c, hc, tail, rfl⟩ := hrels.first rel hrel
        exact ⟨c, List.mem_cons_of_mem _ hc, tail, rfl⟩
  | @directory here name node rest called l x below es _ _ _ _ _ ihBelow ih =>
    obtain ⟨hbefore, hnames⟩ := List.pairwise_cons.1 hnames
    obtain ⟨rels, hrels⟩ := ih hpath hnames
    have hchild : here.path.child name.bytes = source.below (r ++ [name]) := by
      rw [hpath, Path.below_concat]
    obtain ⟨inner, hinner⟩ := ihBelow hchild (sortedChildren_ordered d l)
    have hlater : ∀ rest, ∀ rel ∈ rels, Before (name :: rest) rel := by
      intro rest rel hrel
      obtain ⟨c, hc, tail, rfl⟩ := hrels.first rel hrel
      exact .of_name (hbefore c hc) _ _
    refine ⟨[name] :: (inner.map (name :: ·) ++ rels), ?_, ?_, ?_⟩
    · refine .cons hchild (List.rel_append ?_ hrels.places)
      rw [List.forall₂_map_left_iff]
      refine hinner.places.imp fun rel e he => ?_
      rwa [List.append_assoc] at he
    · refine .cons (fun rel hrel => ?_) (List.pairwise_append.2 ⟨?_, hrels.ordered, ?_⟩)
      · rcases List.mem_append.1 hrel with hrel | hrel
        · obtain ⟨tail, htail, rfl⟩ := List.mem_map.1 hrel
          obtain ⟨c, _, more, rfl⟩ := hinner.first tail htail
          exact (Before.nil_cons _ _).cons name
        · exact hlater [] rel hrel
      · rw [List.pairwise_map]
        exact hinner.ordered.imp fun hab => hab.cons name
      · intro a ha b hb
        obtain ⟨tail, _, rfl⟩ := List.mem_map.1 ha
        exact hlater tail b hb
    · intro rel hrel
      rcases List.mem_cons.1 hrel with rfl | hrel
      · exact ⟨_, List.mem_cons_self, [], rfl⟩
      rcases List.mem_append.1 hrel with hrel | hrel
      · obtain ⟨tail, _, rfl⟩ := List.mem_map.1 hrel
        exact ⟨_, List.mem_cons_self, tail, rfl⟩
      · obtain ⟨c, hc, tail, rfl⟩ := hrels.first rel hrel
        exact ⟨c, List.mem_cons_of_mem _ hc, tail, rfl⟩

/-! ## The whole bundle -/

theorem below_injective (hsource : source.bytes ≠ []) {a b : List Name}
    (h : source.below a = source.below b) : a = b := by
  have hcomponents := congrArg Path.components h
  rw [Path.components_below hsource, Path.components_below hsource, List.append_cancel_left_eq] at hcomponents
  refine List.map_injective_iff.2 ?_ hcomponents
  rintro ⟨x, _⟩ ⟨y, _⟩ hxy
  cases hxy
  rfl

/-- Entries tell their places. -/
theorem places_unique (hsource : source.bytes ≠ []) {as bs : List (List Name)}
    (has : List.Forall₂ (fun rel e => e.source = source.below rel) as es)
    (hbs : List.Forall₂ (fun rel e => e.source = source.below rel) bs es) : as = bs := by
  induction has generalizing bs with
  | nil =>
    cases hbs
    rfl
  | cons hfirst _ ih =>
    cases hbs with
    | cons hother hrest => rw [below_injective hsource (hfirst.symm.trans hother), ih hrest]

variable {rels : List (List Name)}

/-- All that is below a bundle is listed in order. -/
theorem Complete.ordered (h : Complete d source rootName rels es) (hdir : d.isDirectory source = true)
    (hcollected : collect d source = .ok es) : rels.Pairwise Before := by
  obtain ⟨l, hstat⟩ := Disk.isDirectory_iff.1 hdir
  have hsource := Disk.bytes_ne_nil_of_stat hstat
  obtain ⟨_, chars, called, below, _, _, _, rfl, _, hlisting⟩ := listing_of_collect hstat hcollected
  obtain ⟨inner, hinner⟩ := hlisting.ordered (r := []) rfl (sortedChildren_ordered d l)
  have hsame : rels = [] :: inner := by
    apply places_unique hsource
    · exact h.listed.imp fun _ _ hlisted => hlisted.source
    · exact .cons rfl hinner.places
  rw [hsame]
  refine .cons (fun rel hrel => ?_) hinner.ordered
  obtain ⟨c, _, rest, rfl⟩ := hinner.first rel hrel
  exact .nil_cons _ _

end ReleaseBundle.Bundle
