import ReleaseBundle.Proofs.Bundle.Contents
import ReleaseBundle.Proofs.Bundle.Relisting
import ReleaseBundle.Proofs.Bundle.Writable
import ReleaseBundle.Proofs.Disk.Agreement
import Mathlib.Data.List.Perm.Subperm

/-!
# Packing the same tree again

An archive that was written lies outside of the tree that was packed. So the tree can be packed again, with
the same items, and the archive can take the place of the first one: what stands there now is a file, and
the name of the first staging file is free as it was.
-/

namespace ReleaseBundle.Bundle

open Disk (Agrees Extends Replaced)

variable {d e g : Disk} {source archive archive' parent : Path} {rootName : String}
  {dir dir' at_ l top : Location}
  {name name' : Name} {f : Format} {entry : Entry} {entries : List Entry} {items : List Item}
  {node : Node} {rels : List (List Name)} {medium : Medium}

/-- What an entry is read as depends on no more than what it leads to. -/
theorem item_congr {x y : Disk} (hx : x.stat entry.source = .ok (l, node))
    (hy : y.stat entry.source = .ok (l, node)) (hdata : ∀ n, node = .file n → y.data n = x.data n) :
    item f entry y = item f entry x := by
  have hopen : y.openPath entry.source = x.openPath entry.source := by
    simp only [Disk.openPath, hx, hy]
    cases node with
    | directory => rfl
    | link target => rfl
    | file n => simp only [hdata n rfl]
  simp only [item, directoryItem, fileItem, hopen, hx, hy]

/-- A staging name that was chosen is chosen again, or a smaller one, if it is still free and nothing has
gone from the directory. -/
theorem freeName?_again (h : freeName? d dir = some name) (hfree : e.node? (name :: dir) = none)
    (hmore : ∀ k, d.node? (k :: dir) ≠ none → e.node? (k :: dir) ≠ none) :
    ∃ k, freeName? e dir = some k := by
  have hlength : (d.children dir).length ≤ (e.children dir).length := by
    have hsub : (d.children dir).map Prod.fst ⊆ (e.children dir).map Prod.fst := by
      intro k hk
      obtain ⟨c, hc, rfl⟩ := List.mem_map.1 hk
      have hthere := hmore c.1 (by rw [Disk.mem_children.1 (show (c.1, c.2) ∈ _ from hc)]; simp)
      obtain ⟨node, hnode⟩ := Option.ne_none_iff_exists'.1 hthere
      exact List.mem_map.2 ⟨(c.1, node), Disk.mem_children.2 hnode, rfl⟩
    simpa using (List.Nodup.subperm (d.nodup_children dir) hsub).length_le
  obtain ⟨i, hrange, hi⟩ := List.exists_of_findSome?_eq_some h
  have hsome : (freeName? e dir).isSome = true := by
    unfold freeName?
    rw [List.findSome?_isSome_iff]
    refine ⟨i, List.mem_range.2 (by have := List.mem_range.1 hrange; omega), ?_⟩
    split at hi
    · next k hname =>
      split at hi
      · cases hi
        simp only [if_pos hfree, Option.isSome_some]
      · cases hi
    · cases hi
  exact Option.isSome_iff_exists.1 hsome

/-- Entries that were read are read again on a disk with the same tree. -/
theorem read_again (hlisted : List.Forall₂ (Listed d source rootName) rels entries)
    (hitems : Items d dir name f entries items) (hplace : StagingPlace d archive dir name)
    (hplain : d.Plain) (hstat : d.stat source = .ok (top, .directory)) (hsame : SameTree d g top)
    (hdata : ∀ l n, top <:+ l → d.node? l = some (.file n) →
      g.node? l = some (.file n) ∧ g.data n = d.data n)
    (hplace' : StagingPlace g archive' dir' name') :
    List.Forall₂ (fun e i => ∀ part, item f e (g.staged dir' name' (stagingFile part)) = .ok i)
      entries items := by
  have hnone := (Disk.stat_eq_ok_iff.1 hstat).1
  unfold Items at hitems
  induction hlisted generalizing items with
  | nil =>
    cases hitems
    exact .nil
  | @cons rel entry rels entries hfirst _ ih =>
    cases hitems with
    | cons hitem hrest =>
      refine .cons (fun part => ?_) (ih hrest)
      obtain ⟨written, hitem⟩ := hitem
      obtain ⟨_, hfollowed, _⟩ := item_followed hfirst (Extends.refl d) hplace hnone hitem
      obtain ⟨l, node, hfound⟩ : ∃ l node, d.stat entry.source = .ok (l, node) := by
        unfold Disk.followed at hfollowed
        split at hfollowed
        · next h => exact ⟨_, _, h⟩
        · next h => exact ⟨_, _, h⟩
        · cases hfollowed
      have hinside : top <:+ l := Disk.suffix_of_stat_below hplain hstat rel (hfirst.source ▸ hfound)
      rw [← hitem]
      refine item_congr (stat_staged (Extends.refl d) hplace hfound)
        (stat_staged (Extends.refl g) hplace' (hsame.stat _ _ _ hinside hfound)) fun n hn => ?_
      subst hn
      have hnode := Disk.node?_of_stat hfound
      obtain ⟨hnode', hsameData⟩ := hdata l n hinside hnode
      rw [Disk.data_staged, Disk.data_staged, if_neg (Disk.ne_freshNumber hnode),
        if_neg (Disk.ne_freshNumber hnode'), hsameData]

/-- What an archive needs is there again after it was written, on any disk that agrees with the one that it
left. The directory for archives must have been there before, and the archive must lie outside of what was
packed and be called like no staging file. -/
theorem Packed.packable_again (h : Packed medium d source archive f entries items d at_ e) (hplain : d.Plain)
    (hagrees : Agrees e g) (hstat : d.stat source = .ok (top, .directory))
    (houtside : ∀ l, top <:+ l → l ≠ at_ ∧ ∀ k, k :: l ≠ at_)
    (hparent : archive.parent? = some parent) (hend : parent.endsInSlash = false)
    (hdir : d.stat parent = .ok (dir, .directory))
    (hnamed : ∀ k, at_ = k :: dir → ∀ i, k.bytes ≠ stagingName i) :
    Packable g source archive f entries items := by
  have hnoDir := h.not_directory
  have hplainE : e.Plain := h.replaced.plain hplain
  have hplainG := hagrees.plain hplainE
  have hstatG : ∀ p l node, l ≠ at_ → d.stat p = .ok (l, node) → g.stat p = .ok (l, node) :=
    fun p l node hl hp => hagrees.stat (h.replaced.stat_elsewhere hplain hnoDir hl hp)
  have hnodeG : ∀ l, l ≠ at_ → g.node? l = d.node? l := by
    intro l hl
    rw [hagrees.node?, h.replaced.node?, if_neg hl]
  have hsame : SameTree d g top :=
    ⟨fun l k hl => hnodeG _ ((houtside l hl).2 k), fun p l node hl => hstatG p l node (houtside l hl).1⟩
  have hdirElse : dir ≠ at_ := fun hat => hnoDir (hat ▸ Disk.node?_of_stat hdir)
  have hdirG := hstatG _ _ _ hdirElse hdir
  obtain ⟨hidle, hstaging⟩ := makeParent_idle hplainG hparent hend (Disk.isDirectory_iff.2 ⟨_, hdirG⟩)
  obtain ⟨dir', name, spot, hplace, hitems, hlocate, _, hspot⟩ := h.staged
  rw [hstaging] at hplace
  obtain rfl : dir' = dir := by
    have := hplace.directory.symm.trans hdir
    cases this
    rfl
  obtain ⟨k, hk⟩ : ∃ k, freeName? g dir' = some k := by
    refine freeName?_again hplace.chosen ?_ fun k hk => ?_
    · obtain ⟨i, hi⟩ := hplace.hidden
      rw [hnodeG _ fun hat => hnamed name hat.symm i hi]
      exact hplace.free
    · by_cases hat : k :: dir' = at_
      · rw [hagrees.node?, hat, h.replaced.node?_self]
        simp
      · rwa [hnodeG _ hat]
  obtain ⟨rootName, rels, _, hcomplete⟩ := complete_of_collect h.directory h.collected
  obtain ⟨_, harchive, _⟩ := h.stat.resolve_right fun ⟨_, _, hlink⟩ => hplain _ _ hlink
  refine ⟨Disk.isDirectory_iff.2 ⟨_, hstatG _ _ _ (houtside top (List.suffix_refl _)).1 hstat⟩,
    collect_again hplain hplainG hsame hstat h.collected, hidle, ⟨dir', k, ?_⟩, ?_, ?_⟩
  · rw [hstaging]
    exact ⟨hdirG, hk⟩
  · intro l m hplace'
    refine read_again hcomplete.listed hitems hplace hplain hstat hsame (fun l n hl hnode => ?_) hplace'
    have helse := (houtside l hl).1
    exact ⟨(hnodeG l helse).trans hnode, (hagrees.data n).trans (h.replaced.data l n helse hnode)⟩
  · intro l m hplace' content
    have hlocated : (g.staged l m (stagingFile content)).locate archive false =
        .ok (.found at_ (.file d.freshNumber)) := by
      obtain ⟨hnone, hroute⟩ := Disk.stat_eq_ok_iff.1
        (stat_staged (Extends.refl g) hplace' (hagrees.stat harchive))
      have hplainStaged := Disk.plain_staged (f := stagingFile content) hplainG hplace'.node? hplace'.free
      exact Disk.locate_eq_ok_iff.2 ⟨hnone, hroute.plain hplainStaged false _⟩
    exact rename_succeeds (hplace'.node?_self _) hlocated (by simp)

end ReleaseBundle.Bundle
