import ReleaseBundle.Proofs.Bundle.Description
import ReleaseBundle.Proofs.Disk.Plain

/-!
# Archives that can be written

Nothing stops an archive whose directory is there, whose entries can be read, and whose path leads to a
file or to a free name. On a disk without links it can then be described, too.
-/

namespace ReleaseBundle

namespace Path

theorem withoutSlashes_eq {p : Path} (h : p.endsInSlash = false) : p.withoutSlashes = p := by
  obtain ⟨bytes⟩ := p
  have htrim : (bytes.reverse.dropWhile (· == slash)).reverse = bytes := by
    cases hlast : bytes.reverse with
    | nil => rw [List.reverse_eq_nil_iff.1 hlast]; rfl
    | cons b bs =>
      have hend : bytes.getLast? = some b := by rw [List.getLast?_eq_head?_reverse, hlast]; rfl
      have hnot : (b == slash) = false := by simpa [endsInSlash, hend] using h
      rw [List.dropWhile_cons, hnot, ← hlast]
      simp
  unfold withoutSlashes
  simp only [htrim]
  split
  · next hnil => simp [hnil.1, isAbsolute] at hnil
  · rfl

end Path

namespace Bundle

variable {d e : Disk} {source destination archive p : Path} {dir at_ : Location} {name : Name} {f : Format}
  {entries : List Entry} {items : List Item} {node : Node}

/-! ## Directories that are there -/

/-- A directory that is there is not created. -/
theorem makeDirectories_there (hmade : d.makeDirectory p = .error (.os .alreadyExists))
    (hdir : d.isDirectory p = true) :
    (makeDirectories .reliable p).Ends d (fun _ e => e = d) fun _ _ => False := by
  obtain ⟨_, hstat⟩ := Disk.isDirectory_iff.1 hdir
  rw [makeDirectories, if_neg (Disk.bytes_ne_nil_of_stat hstat), Job.ends_bindJob, Job.ends_outcome]
  refine Medium.ends_grant_reliable.2 ⟨fun e a h => ?_, fun x h => ?_⟩
  · rw [hmade] at h
    cases h
  · rw [hmade] at h
    cases h
    refine Job.ends_inspect.2 ⟨fun _ _ => rfl, fun _ h => ?_⟩
    rw [if_pos hdir] at h
    cases h

theorem makeDirectories_idle (hplain : d.Plain) (hend : p.endsInSlash = false)
    (hdir : d.isDirectory p = true) :
    (makeDirectories .reliable p).Ends d (fun _ e => e = d) fun _ _ => False := by
  obtain ⟨l, hstat⟩ := Disk.isDirectory_iff.1 hdir
  obtain ⟨hnone, hroute⟩ := Disk.stat_eq_ok_iff.1 hstat
  have hfound : d.locate p false = .ok (.found l .directory) :=
    Disk.locate_eq_ok_iff.2 ⟨hnone, hroute.plain hplain false _⟩
  have hmade : d.makeDirectory p = .error (.os .alreadyExists) := by
    simp only [Disk.makeDirectory, hnone, Path.withoutSlashes_eq hend, hfound]
  exact makeDirectories_there hmade hdir

theorem makeParent_there (hparent : parentOf? archive = some p)
    (hmade : d.makeDirectory p = .error (.os .alreadyExists)) (hdir : d.isDirectory p = true) :
    (makeParent .reliable archive).Ends d (fun _ e => e = d) fun _ _ => False := by
  unfold makeParent
  rw [hparent]
  exact makeDirectories_there hmade hdir

theorem makeParent_idle (hplain : d.Plain) (hparent : archive.parent? = some p)
    (hend : p.endsInSlash = false) (hdir : d.isDirectory p = true) :
    (makeParent .reliable archive).Ends d (fun _ e => e = d) (fun _ _ => False) ∧
      stagingDirectory archive = p := by
  obtain ⟨l, hstat⟩ := Disk.isDirectory_iff.1 hdir
  have hnil := Disk.bytes_ne_nil_of_stat hstat
  have hparent' : parentOf? archive = some p := by simp only [parentOf?, hparent, if_neg hnil]
  refine ⟨?_, by rw [stagingDirectory, hparent']; rfl⟩
  unfold makeParent
  rw [hparent']
  exact makeDirectories_idle hplain hend hdir

/-! ## Entries that can be read -/

section Reliable

variable {written : Bytes}

theorem write_succeeds (r : Request) (bytes : Bytes) :
    (Staging.write ⟨name :: dir, d.freshNumber⟩ .reliable r bytes).Ends
      (d.staged dir name (stagingFile written))
      (fun _ e => e = d.staged dir name (stagingFile (written ++ bytes))) fun _ _ => False :=
  Disk.appendTo_staged d dir name (stagingFile written) bytes

/-- A request that nothing is written for. -/
theorem write_nothing_succeeds (r : Request) :
    (Staging.write ⟨name :: dir, d.freshNumber⟩ .reliable r []).Ends
      (d.staged dir name (stagingFile written))
      (fun _ e => e = d.staged dir name (stagingFile written)) fun _ _ => False := by
  refine (write_succeeds r []).mono (fun _ e h => ?_) fun _ _ h => h
  rwa [List.append_nil] at h

theorem writeHead_succeeds {entry : Entry} :
    (writeHead .reliable f ⟨name :: dir, d.freshNumber⟩ entry).Ends
      (d.staged dir name (stagingFile written))
      (fun _ e => e = d.staged dir name (stagingFile written)) fun _ _ => False := by
  unfold writeHead
  split
  · exact Job.ends_mapError.2 (write_nothing_succeeds _)
  · rfl

theorem writeEnd_succeeds (w : Archive.Writer) :
    (writeEnd .reliable f ⟨name :: dir, d.freshNumber⟩ w).Ends
      (d.staged dir name (stagingFile written))
      (fun _ e => e = d.staged dir name (stagingFile (written ++ w.finish))) fun _ _ => False := by
  cases f with
  | zip => exact Job.ends_mapError.2 (write_succeeds _ _)
  | tarGz =>
    simp only [writeEnd, Job.ends_bind, Job.ends_mapError]
    refine (write_nothing_succeeds _).mono (fun _ e h => ?_) fun _ _ h => h
    subst h
    exact write_succeeds _ _

theorem flush_succeeds (p : Path) :
    (flush .reliable ⟨name :: dir, d.freshNumber⟩ p).Ends (d.staged dir name (stagingFile written))
      (fun _ e => e = d.staged dir name (stagingFile written)) fun _ _ => False := by
  simp only [flush, Job.ends_bind, Job.ends_mapError]
  exact Job.ends_look.2 (write_nothing_succeeds _)

end Reliable

/-- Writing entries that can be read succeeds. -/
theorem writeEntries_succeeds {w : Archive.Writer} {written : Bytes}
    (h : List.Forall₂ (fun e i => ∀ part, item f e (d.staged dir name (stagingFile part)) = .ok i)
      entries items) :
    (writeEntries .reliable f ⟨name :: dir, d.freshNumber⟩ w entries).Ends
      (d.staged dir name (stagingFile written))
      (fun _ e => e = d.staged dir name (stagingFile (written ++ w.output items))) fun _ _ => False := by
  induction h generalizing w written with
  | nil => exact writeEnd_succeeds w
  | cons hitem _ ih =>
    simp only [writeEntries, Job.ends_bind]
    refine writeHead_succeeds.mono (fun _ e he => ?_) fun _ _ h => h
    subst he
    refine Job.ends_inspect.2 ⟨fun i' hi => ?_, fun x hx => ?_⟩
    · rw [hitem written] at hi
      cases hi
      rw [Job.ends_mapError]
      refine (write_succeeds _ _).mono (fun _ e he => ?_) fun _ _ h => h
      subst he
      refine ih.mono (fun _ e he => ?_) fun _ _ h => h
      rw [he, Archive.Writer.output, List.append_assoc]
    · rw [hitem written] at hx
      cases hx

/-- What an archive needs: a directory for it and for its staging file, a free name, entries that can be
read whatever the staging file is called, and a place that it can be moved to. -/
structure Packable (d : Disk) (source archive : Path) (f : Format) (entries : List Entry)
    (items : List Item) : Prop where
  directory : d.isDirectory source = true
  collected : collect d source = .ok entries
  parent : (makeParent .reliable archive).Ends d (fun _ e => e = d) fun _ _ => False
  free : ∃ dir name, StagingPlace d (stagingDirectory archive) dir name
  read : ∀ dir name, StagingPlace d (stagingDirectory archive) dir name →
    List.Forall₂ (fun e i => ∀ part, item f e (d.staged dir name (stagingFile part)) = .ok i) entries items
  target : ∀ dir name, StagingPlace d (stagingDirectory archive) dir name → ∀ content,
    ∃ out, (d.staged dir name (stagingFile content)).rename (name :: dir) archive = .ok out

theorem Packable.succeeds (h : Packable d source (f.archivePath destination) f entries items) :
    (writeArchive source destination f).Ends d (fun _ _ => True) fun _ _ => False := by
  obtain ⟨dir, name, hplace⟩ := h.free
  obtain ⟨out, hmoved⟩ := h.target dir name hplace (Archive.encode f items)
  simp only [writeArchive, writeArchiveOn, Job.ends_bind]
  refine Job.ends_inspect.2 ⟨fun entries' hentries => ?_, fun x hx => ?_⟩
  · rw [if_pos h.directory, h.collected, Except.ok.injEq] at hentries
    subst hentries
    rw [Job.ends_mapError]
    refine h.parent.mono (fun _ e he => ?_) fun _ _ h => h
    subst he
    rw [Job.ends_mapError]
    refine Medium.ends_grant_reliable.2 ⟨fun e' s hstaged => ?_, fun x hx => ?_⟩
    · simp only [hplace.directory, hplace.chosen, Except.ok.injEq, Prod.mk.injEq] at hstaged
      obtain ⟨rfl, rfl⟩ := hstaged
      rw [Job.ends_orUndo]
      simp only [Job.ends_bind]
      refine (writeEntries_succeeds (h.read dir name hplace)).mono (fun _ e he => ?_) fun _ _ h => h
      rw [List.nil_append, Archive.Writer.output_start] at he
      subst he
      refine (flush_succeeds _).mono (fun _ e he => ?_) fun _ _ h => h
      subst he
      rw [persist, Job.ends_mapError]
      refine Medium.ends_grant_reliable.2 ⟨fun _ _ _ => trivial, fun x hx => ?_⟩
      simp only [hmoved] at hx
      cases hx
    · simp only [hplace.directory, hplace.chosen] at hx
      cases hx
  · rw [if_pos h.directory, h.collected] at hx
    cases hx

/-- Reads that succeed have one result. -/
theorem items_unique {items' : List Item}
    (h : List.Forall₂ (fun e i => ∀ part, item f e (d.staged dir name (stagingFile part)) = .ok i)
      entries items) (h' : Items d dir name f entries items') : items' = items := by
  unfold Items at h'
  induction h generalizing items' with
  | nil => cases h'; rfl
  | cons hitem _ ih =>
    cases h' with
    | cons hitem' hrest =>
      obtain ⟨part, hitem'⟩ := hitem'
      rw [hitem part] at hitem'
      cases hitem'
      rw [ih hrest]

/-- A file can be moved to wherever no directory stands. -/
theorem rename_succeeds {source : Location} {n : Nat} {spot : Spot}
    (hsource : d.node? source = some (.file n))
    (hlocate : d.locate p false = .ok spot) (hnoDir : ∀ l, spot ≠ .found l .directory) :
    ∃ out, d.rename source p = .ok out := by
  have hnul : p.bytes.contains 0 = false := by
    simpa using (Disk.refusal?_eq_none_iff.1 (Disk.locate_eq_ok_iff.1 hlocate).1).1
  have hholds := Disk.locate_holds hlocate
  simp only [Disk.rename, hsource, hnul, Bool.false_eq_true, if_false, hlocate]
  cases spot with
  | vacant dir name => exact ⟨_, rfl⟩
  | found l node =>
    have hnotDir : node ≠ .directory := fun h => hnoDir l (by rw [h])
    have hnotRoot : l ≠ [] := by
      rintro rfl
      exact hnotDir (Option.some.inj hholds).symm
    cases node with
    | directory => exact absurd rfl hnotDir
    | link target =>
      simp only
      split
      · exact ⟨_, rfl⟩
      · split
        · exact absurd rfl hnotRoot
        · exact ⟨_, rfl⟩
    | file m =>
      simp only
      split
      · exact ⟨_, rfl⟩
      · split
        · exact absurd rfl hnotRoot
        · exact ⟨_, rfl⟩

end Bundle

namespace Pipeline

open ReleaseBundle.Bundle (Packable Packed artifactOf)

variable {d : Disk} {s : Settings} {version : String} {entries : List Bundle.Entry} {items : List Item}

/-- An archive that can be written on a disk without links is written and described. -/
theorem archive_succeeds (hplain : d.Plain)
    (h : Packable d s.output (archivePath s version) s.format entries items) :
    (archive s version d).result =
        .ok (artifactOf (archivePath s version) version s.format (Archive.encode s.format items)) ∧
      ∃ at_, Packed .reliable d s.output (archivePath s version) s.format entries items d at_
        (archive s version d).disk := by
  obtain ⟨path, hpath, _⟩ := h.succeeds.succeeds
  obtain ⟨rfl, entries', items', ground, at_, hpacked⟩ :=
    (Bundle.writeArchive_ends s.output (s.archiveBase version) s.format d).of_ok hpath
  obtain rfl : entries' = entries := by
    have hcollected := hpacked.collected.symm.trans h.collected
    exact Except.ok.inj hcollected
  obtain rfl : d = ground := by
    obtain ⟨_, _, hsame⟩ := h.parent.succeeds
    exact hsame.symm.trans hpacked.made
  obtain ⟨dir, name, _, hplace, hitems, _⟩ := hpacked.staged
  obtain rfl := Bundle.items_unique (h.read dir name hplace) hitems
  have hstat := (hpacked.stat.resolve_right fun ⟨_, _, hlink⟩ => hplain _ _ hlink).2.1
  have hdescribe := Bundle.describe_of_stat (f := s.format) version hstat hpacked.replaced.content
  have hdisk : (archive s version d).disk =
      (Bundle.writeArchive s.output (s.archiveBase version) s.format d).disk := by
    simp [archive, bind, Job.bind, Job.inspect, hpath]
  refine ⟨?_, at_, hdisk ▸ hpacked⟩
  simp only [archive, bind, Job.bind, Job.inspect, hpath]
  exact hdescribe

end Pipeline

end ReleaseBundle
