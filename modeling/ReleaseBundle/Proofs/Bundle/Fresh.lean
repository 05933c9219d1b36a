import ReleaseBundle.Proofs.Bundle.Repacking

/-!
# Archives with a free name

The plainest way for an archive to come about: its directory is there, its name is free and every entry
can be read. The staging file that is put beside it meanwhile makes no difference to any of this, because
it takes a name that nothing else has. It is the same with a file or a link that the archive replaces.
-/

namespace ReleaseBundle

namespace Disk

variable {d e : Disk} {follow : Bool} {links : Nat} {here dir : Location} {parts : List Bytes} {k : Name}

/-- A way to a free name passes directories and links only. It stays while these do and the name is
free. -/
theorem Route.still_vacant
    (hpass : ∀ l x, (∀ m, x ≠ .file m) → d.node? l = some x → e.node? l = some x)
    (hfree : e.node? (k :: dir) = none) (h : Route d follow links here parts (.vacant dir k)) :
    Route e follow links here parts (.vacant dir k) := by
  generalize hspot : Spot.vacant dir k = spot at h
  induction h with
  | arrived _ _ => cases hspot
  | stay _ ih => exact .stay (ih hspot)
  | ascend _ ih => exact .ascend (ih hspot)
  | enter name hnode _ ih => exact .enter name (hpass _ _ (by simp) hnode) (ih hspot)
  | file _ _ => cases hspot
  | link _ _ _ => cases hspot
  | jump name hnode hend htarget _ ih => exact .jump name (hpass _ _ (by simp) hnode) hend htarget (ih hspot)
  | vacant name _ =>
    cases hspot
    exact .vacant k hfree

end Disk

namespace Bundle

open Disk (Extends)

variable {d : Disk} {source archive parent : Path} {dir : Location} {name k : Name} {f : Format}
  {e : Entry} {i : Item} {entries : List Entry} {items : List Item} {part : Bytes}

/-- An item that was read is the same beside a staging file. -/
theorem item_staged (hplace : StagingPlace d archive dir name) (h : item f e d = .ok i) :
    item f e (d.staged dir name (stagingFile part)) = .ok i := by
  cases hstat : d.stat e.source with
  | ok found =>
    obtain ⟨l, node⟩ := found
    rw [← h]
    refine item_congr hstat (stat_staged (Extends.refl d) hplace hstat) fun n hn => ?_
    rw [Disk.data_staged, if_neg (Disk.ne_freshNumber (Disk.node?_of_stat (hn ▸ hstat)))]
  | error fault =>
    -- only the directories of a zip file are not looked at
    unfold item at h ⊢
    split at h
    · next hdirectory =>
      rw [if_pos hdirectory]
      cases f with
      | zip => exact h
      | tarGz =>
        simp only [directoryItem, hstat] at h
        cases h
    · simp only [fileItem, Disk.openPath, hstat] at h
      cases h

/-- An archive whose path leads to something other than a directory can be written over it, also through
links. -/
theorem packable_over {l : Location} {node : Node} (hsource : d.isDirectory source = true)
    (hcollected : collect d source = .ok entries)
    (hparent : (makeParent .reliable archive).Ends d (fun _ e => e = d) fun _ _ => False)
    (hstaging : StagingPlace d (stagingDirectory archive) dir name)
    (hfound : d.locate archive false = .ok (.found l node)) (hnodir : node ≠ .directory)
    (hitems : List.Forall₂ (fun e i => item f e d = .ok i) entries items) :
    Packable d source archive f entries items := by
  refine ⟨hsource, hcollected, hparent, ⟨dir, name, hstaging⟩, ?_, ?_⟩
  · intro l m hplace
    exact hitems.imp fun e i hitem part => item_staged hplace hitem
  · intro dir' name' hplace content
    have hthere := Disk.lstat_grow (by simp) (fun l' x => hplace.keep (stagingFile content))
      (Disk.lstat_eq_ok_iff_locate.2 hfound)
    refine rename_succeeds (hplace.node?_self _) (Disk.lstat_eq_ok_iff_locate.1 hthere) fun l' hspot => ?_
    cases hspot
    exact hnodir rfl

/-- An archive with a free name in a directory that is there can be written if its entries can be read. -/
theorem packable_of_free (hplain : d.Plain) (hsource : d.isDirectory source = true)
    (hcollected : collect d source = .ok entries) (hparent : archive.parent? = some parent)
    (hend : parent.endsInSlash = false) (hdir : d.stat parent = .ok (dir, .directory))
    (hstaging : freeName? d dir = some name) (hfree : d.locate archive false = .ok (.vacant dir k))
    (helse : k ≠ name) (hitems : List.Forall₂ (fun e i => item f e d = .ok i) entries items) :
    Packable d source archive f entries items := by
  obtain ⟨hidle, hstagingDir⟩ := makeParent_idle hplain hparent hend (Disk.isDirectory_iff.2 ⟨_, hdir⟩)
  have honly : ∀ l m, StagingPlace d parent l m → l = dir ∧ m = name := by
    intro l m hplace
    have hthere := hplace.directory
    rw [hdir] at hthere
    cases hthere
    have hchosen := hplace.chosen
    rw [hstaging] at hchosen
    cases hchosen
    exact ⟨rfl, rfl⟩
  refine ⟨hsource, hcollected, hidle, ⟨dir, name, hstagingDir ▸ ⟨hdir, hstaging⟩⟩, ?_, ?_⟩
  · intro l m hplace
    exact hitems.imp fun e i hitem part => item_staged hplace hitem
  · intro l m hplace content
    obtain ⟨rfl, rfl⟩ := honly l m (hstagingDir ▸ hplace)
    have hgrow : ∀ l' node, d.node? l' = some node →
        (d.staged l m (stagingFile content)).node? l' = some node := fun l' node => hplace.keep _
    obtain ⟨hnone, hroute⟩ := Disk.locate_eq_ok_iff.1 hfree
    have hfree' : (d.staged l m (stagingFile content)).node? (k :: l) = none := by
      rw [Disk.node?_staged _ hplace.node? hplace.free, if_neg (by simp [helse])]
      exact (Disk.locate_holds hfree).2
    have hlocate : (d.staged l m (stagingFile content)).locate archive false = .ok (.vacant l k) := by
      refine Disk.locate_eq_ok_iff.2 ⟨Disk.refusal?_grow (by simp) hgrow hnone, ?_⟩
      have hstart : (d.staged l m (stagingFile content)).cwd = d.cwd := by simp
      rw [hstart]
      exact hroute.still_vacant (fun l' x _ => hgrow l' x) hfree'
    exact rename_succeeds (hplace.node?_self _) hlocate fun l' hspot => by cases hspot

end Bundle

end ReleaseBundle
