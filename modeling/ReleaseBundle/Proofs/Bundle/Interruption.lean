import ReleaseBundle.Disk.Difference
import ReleaseBundle.Proofs.Bundle.AllOrNothing
import ReleaseBundle.Proofs.Bundle.Relisting

/-!
# Writing an archive that is cut off

Until the last step of writing an archive the disk is `Pending`: there may be new directories above the
archive and a staging file beside it that holds anything. None of that changes where the path of the
archive leads, if it leads anywhere; the staging file is never what it leads to, because no archive is
called like one. The last step is one move, and from then on the archive is in its place, complete.

A path that leads nowhere, because a directory on it is missing, can lead somewhere when the directory was
created. What it leads to then is one of the new directories or something that was there all along.
-/

namespace ReleaseBundle

namespace Bundle

open Archive (Stored)
open Disk (Extends Moment)

variable {d e m ground : Disk} {source archive destination : Path} {dir at_ l : Location} {name : Name}
  {f : Format} {entries : List Entry} {items : List Item} {node : Node} {n : Nat} {medium : Medium}

/-! ## Before the last step -/

/-- The disk before the last step: it has grown by directories for the archive, and perhaps there is a
staging file that holds anything. -/
inductive Pending (d : Disk) (archive : Path) : Disk → Prop where
  | bare {m : Disk} : Extends d m [] archive.ancestors → Pending d archive m
  | staging {ground : Disk} {dir : Location} {name : Name} (content : Bytes) :
    Extends d ground [] archive.ancestors →
    StagingPlace ground (stagingDirectory archive) dir name →
    Pending d archive (ground.staged dir name (stagingFile content))

/-- Everything on the disk `d` is still there, and the path of an archive leads where it led. If it led
nowhere, it leads somewhere only if a directory above it was missing and has been created, and then to
something that was on the disk `d` in the same place or to one of the new directories. -/
structure Undisturbed (d : Disk) (archive : Path) (m : Disk) : Prop where
  intact : ∀ l node, d.node? l = some node → m.node? l = some node ∧
    ∀ n, node = .file n → m.data n = d.data n
  kept : ∀ l node, d.lstat archive = .ok (l, node) → m.lstat archive = .ok (l, node)
  found : ∀ l node, m.lstat archive = .ok (l, node) → d.lstat archive = .ok (l, node) ∨
    (∃ p ∈ archive.ancestors, d.isDirectory p = false ∧ m.isDirectory p = true) ∧
      (d.node? l = some node ∨
        node = .directory ∧ ∃ p ∈ archive.ancestors, m.stat p = .ok (l, .directory))

theorem undisturbed_of_extends (h : Extends d m [] archive.ancestors) : Undisturbed d archive m where
  intact l node hnode := by
    refine ⟨h.kept l node hnode, ?_⟩
    rintro n rfl
    exact h.data_eq hnode
  kept _ _ hbefore := h.lstat hbefore
  found l node hafter := by
    have hthere : m.node? l = some node :=
      Disk.locate_holds (Disk.lstat_eq_ok_iff_locate.1 hafter)
    by_cases hcreated : ∃ p ∈ archive.ancestors, d.isDirectory p = false ∧ m.isDirectory p = true
    · refine Or.inr ⟨hcreated, ?_⟩
      rcases h.added l node hthere with hold | ⟨rfl, p, hp, hstat⟩ | ⟨_, _, _, hnone, _⟩
      · exact Or.inl hold
      · exact Or.inr ⟨rfl, p, hp, hstat⟩
      · cases hnone
    · -- every new directory is one that was missing before, so there is none
      refine Or.inl (Disk.lstat_grow h.cwd.symm (fun l' node' hnode => ?_) hafter)
      rcases h.added l' node' hnode with hold | ⟨rfl, p, hp, hstat⟩ | ⟨_, _, _, hnone, _⟩
      · exact hold
      · cases hbefore : d.isDirectory p with
        | true =>
          obtain ⟨at_, hdir⟩ := Disk.isDirectory_iff.1 hbefore
          have hsame := h.stat hdir
          rw [hstat] at hsame
          cases hsame
          exact Disk.node?_of_stat hdir
        | false => exact absurd ⟨p, hp, hbefore, Disk.isDirectory_iff.2 ⟨_, hstat⟩⟩ hcreated
      · cases hnone

/-- A staging file makes no difference to the path of an archive. -/
theorem Undisturbed.staged {content : Bytes} {p : Path}
    (h : Undisturbed d (f.archivePath destination) ground) (hplace : StagingPlace ground p dir name) :
    Undisturbed d (f.archivePath destination) (ground.staged dir name (stagingFile content)) := by
  have hback : ∀ l node, (ground.staged dir name (stagingFile content)).lstat (f.archivePath destination) =
      .ok (l, node) → ground.lstat (f.archivePath destination) = .ok (l, node) := by
    intro l node hafter
    rw [Disk.lstat_eq_ok_iff_locate] at hafter ⊢
    exact locate_of_staged hplace hafter
  have hstat : ∀ q l, ground.stat q = .ok (l, .directory) →
      (ground.staged dir name (stagingFile content)).stat q = .ok (l, .directory) :=
    fun q l hdir => stat_staged (Extends.refl ground) hplace hdir
  have hgrow : ∀ l node, ground.node? l = some node →
      (ground.staged dir name (stagingFile content)).node? l = some node :=
    fun l node => hplace.keep _
  refine ⟨fun l node hnode => ?_, fun l node hbefore => ?_, fun l node hafter => ?_⟩
  · obtain ⟨hground, hdata⟩ := h.intact l node hnode
    refine ⟨hgrow l node hground, ?_⟩
    rintro n rfl
    rw [Disk.data_staged, if_neg (Disk.ne_freshNumber hground)]
    exact hdata n rfl
  · exact Disk.lstat_grow (by simp) hgrow (h.kept l node hbefore)
  · refine (h.found l node (hback l node hafter)).imp_right ?_
    rintro ⟨⟨q, hq, hmissing, hmade⟩, hwhere⟩
    obtain ⟨at_, hdir⟩ := Disk.isDirectory_iff.1 hmade
    refine ⟨⟨q, hq, hmissing, Disk.isDirectory_iff.2 ⟨at_, hstat q at_ hdir⟩⟩, ?_⟩
    refine hwhere.imp_right ?_
    rintro ⟨hnode, q', hq', hthere⟩
    exact ⟨hnode, q', hq', hstat q' l hthere⟩

theorem Pending.undisturbed (h : Pending d (f.archivePath destination) m) :
    Undisturbed d (f.archivePath destination) m := by
  cases h with
  | bare hgrown => exact undisturbed_of_extends hgrown
  | staging content hgrown hplace => exact (undisturbed_of_extends hgrown).staged hplace

/-! ## The steps -/

theorem createStaging_throughout (medium : Medium) (hgrown : Extends d ground [] archive.ancestors) :
    (createStaging medium (stagingDirectory archive)).Throughout ground (Pending d archive) := by
  refine Job.throughout_attempt (.bare hgrown)
    ((createStaging_ends medium _ ground).mono ?_ fun _ _ _ => trivial)
  rintro s e ⟨dir, name, hplace, rfl, rfl⟩ m hm
  rcases hm.of_node?_ne (hplace.node?_ne _).symm with rfl | rfl
  · exact .bare hgrown
  · exact .staging [] hgrown hplace

/-- The disk `ground` with a staging file that holds anything. -/
def Filling (ground : Disk) (dir : Location) (name : Name) (m : Disk) : Prop :=
  ∃ part, m = ground.staged dir name (stagingFile part)

/-- Whether a write fails or not, it is the staging file that changes. -/
theorem write_throughout (r : Request) (bytes : Bytes) (h : Filling ground dir name e) :
    (Staging.write ⟨name :: dir, ground.freshNumber⟩ medium r bytes).Throughout e
      (Filling ground dir name) := by
  obtain ⟨part, rfl⟩ := h
  refine Job.throughout_bind (Job.throughout_look ⟨part, rfl⟩) (Job.ends_look.2 ?_)
  split
  · refine Job.throughout_change fun m hm => ?_
    rw [Disk.appendTo_staged] at hm
    exact hm.of_staged
  · refine Job.throughout_seq (Job.throughout_change fun m hm => ?_) fun _ _ h => Job.throughout_fail h
    rw [Disk.overwrite_staged] at hm
    exact hm.of_staged

theorem writeHead_throughout (entry : Entry) (h : Filling ground dir name e) :
    (writeHead medium f ⟨name :: dir, ground.freshNumber⟩ entry).Throughout e
      (Filling ground dir name) := by
  unfold writeHead
  split
  · exact Job.throughout_mapError (write_throughout _ _ h)
  · exact Job.throughout_pure h

theorem writeEnd_throughout (w : Archive.Writer) (h : Filling ground dir name e) :
    (writeEnd medium f ⟨name :: dir, ground.freshNumber⟩ w).Throughout e (Filling ground dir name) := by
  cases f with
  | zip => exact Job.throughout_mapError (write_throughout _ _ h)
  | tarGz =>
    exact Job.throughout_seq (Job.throughout_mapError (write_throughout _ _ h)) fun _ _ h =>
      Job.throughout_mapError (write_throughout _ _ h)

theorem flush_throughout (p : Path) (h : Filling ground dir name e) :
    (flush medium ⟨name :: dir, ground.freshNumber⟩ p).Throughout e (Filling ground dir name) :=
  Job.throughout_seq (Job.throughout_look h) fun _ _ h => Job.throughout_mapError (write_throughout _ _ h)

theorem writeEntries_throughout (w : Archive.Writer) (entries : List Entry)
    (h : Filling ground dir name e) :
    (writeEntries medium f ⟨name :: dir, ground.freshNumber⟩ w entries).Throughout e
      (Filling ground dir name) := by
  induction entries generalizing w e with
  | nil => exact writeEnd_throughout w h
  | cons entry entries ih =>
    refine Job.throughout_seq (writeHead_throughout entry h) fun _ _ h => ?_
    refine Job.throughout_seq (Job.throughout_inspect h) fun i _ h => ?_
    exact Job.throughout_seq (Job.throughout_mapError (write_throughout _ _ h)) fun _ _ h => ih _ h

/-- A staging file is not moved to where it is: no archive is called like it. -/
theorem location_ne_staging {p : Path} {file : FileData} {spot : Spot}
    (hplace : StagingPlace ground p dir name)
    (hlocate : (ground.staged dir name file).locate (f.archivePath destination) false = .ok spot) :
    spot.location ≠ name :: dir := by
  rintro hsame
  cases spot with
  | found l node =>
    obtain rfl : l = name :: dir := hsame
    have hbefore : ground.node? (name :: dir) = some node :=
      Disk.locate_holds (locate_of_staged hplace hlocate)
    rw [hplace.free] at hbefore
    cases hbefore
  | vacant dir' name' =>
    obtain ⟨rfl, rfl⟩ : name' = name ∧ dir' = dir := List.cons.inj hsame
    have hfree := (Disk.locate_holds hlocate).2
    rw [hplace.node?_self] at hfree
    cases hfree

theorem persist_throughout (medium : Medium) {p : Path} {file : FileData} {P : Disk → Prop}
    (hplace : StagingPlace ground p dir name) (hbefore : P (ground.staged dir name file))
    (hafter : (persist medium ⟨name :: dir, ground.freshNumber⟩ (f.archivePath destination)).Ends
      (ground.staged dir name file) (fun _ e => P e) (fun _ _ => True)) :
    (persist medium ⟨name :: dir, ground.freshNumber⟩ (f.archivePath destination)).Throughout
      (ground.staged dir name file) P := by
  have hboth := Job.ends_mapError.1 ((persist_ends medium hplace.node? hplace.free).and hafter)
  refine Job.throughout_mapError (Job.throughout_attempt hbefore (hboth.mono ?_ fun _ _ _ => trivial))
  rintro _ e ⟨⟨spot, hlocate, _, hreplaced⟩, hdone⟩ m hm
  have helse := location_ne_staging hplace hlocate
  have hgone : e.node? (name :: dir) ≠ (ground.staged dir name file).node? (name :: dir) := by
    rw [hreplaced.node?, if_neg helse.symm]
    exact hplace.node?_ne file
  rcases hm.of_node?_ne hgone with rfl | rfl
  · exact hbefore
  · exact hdone

/-- A moment of writing an archive: the last step is still to come, or the archive is written. -/
def Underway (medium : Medium) (d : Disk) (source archive : Path) (f : Format) (m : Disk) : Prop :=
  Pending d archive m ∨ ∃ entries items ground at_, Packed medium d source archive f entries items ground at_ m

theorem unlink_moment {part : Bytes} (hgrown : Extends d ground [] archive.ancestors)
    (hplace : StagingPlace ground (stagingDirectory archive) dir name)
    (h : Moment (ground.staged dir name (stagingFile part))
      ((ground.staged dir name (stagingFile part)).unlink (name :: dir)) m) :
    Pending d archive m := by
  rw [Disk.unlink_staged _ hplace.node? hplace.free] at h
  rcases h.of_node?_ne (hplace.node?_ne _) with rfl | rfl
  · exact .staging part hgrown hplace
  · exact .bare hgrown

/-- Filling the staging file and moving it, with the staging file taken away if that fails. -/
theorem fill_throughout (hsource : d.isDirectory source = true) (hcollected : collect d source = .ok entries)
    (hmade : (makeParent medium (f.archivePath destination) d).disk = ground)
    (hgrown : Extends d ground [] (f.archivePath destination).ancestors)
    (hplace : StagingPlace ground (stagingDirectory (f.archivePath destination)) dir name) :
    (Job.orUndo
      (do
        writeEntries medium f ⟨name :: dir, ground.freshNumber⟩ (.start f) entries
        flush medium ⟨name :: dir, ground.freshNumber⟩ (stagingDirectory (f.archivePath destination))
        persist medium ⟨name :: dir, ground.freshNumber⟩ (f.archivePath destination))
      fun d => d.unlink (name :: dir)).Throughout (ground.staged dir name (stagingFile []))
        (Underway medium d source (f.archivePath destination) f) := by
  have hstaging : ∀ m, Filling ground dir name m → Underway medium d source (f.archivePath destination) f m := by
    rintro m ⟨part, rfl⟩
    exact Or.inl (.staging part hgrown hplace)
  have hunlinked : ∀ e m : Disk, Filling ground dir name e → Moment e (e.unlink (name :: dir)) m →
      Underway medium d source (f.archivePath destination) f m := by
    rintro _ m ⟨part, rfl⟩ hm
    exact Or.inl (unlink_moment hgrown hplace hm)
  have hfilled : (writeEntries medium f ⟨name :: dir, ground.freshNumber⟩ (.start f) entries).Ends
      (ground.staged dir name (stagingFile [])) _ _ := writeEntries_ends medium _ entries []
  refine Job.throughout_orUndo ?_ ?_
  · refine Job.throughout_bind ((writeEntries_throughout _ entries ⟨[], rfl⟩).mono hstaging) ?_
    refine hfilled.mono ?_ fun _ _ _ => trivial
    rintro _ e ⟨items, hitems, rfl⟩
    rw [List.nil_append, Archive.Writer.output_start]
    refine Job.throughout_bind ((flush_throughout _ ⟨_, rfl⟩).mono hstaging) ?_
    refine (flush_ends medium _ _).mono ?_ fun _ _ _ => trivial
    rintro _ e rfl
    refine persist_throughout medium hplace (hstaging _ ⟨_, rfl⟩) ?_
    refine (persist_ends medium hplace.node? hplace.free).mono ?_ fun _ _ _ => trivial
    rintro _ e ⟨spot, hlocate, hnoDir, hreplaced⟩
    exact Or.inr ⟨entries, items, ground, spot.location, hsource, hcollected, hmade, hgrown,
      ⟨dir, name, spot, hplace, hitems, hlocate, hnoDir, rfl⟩, hreplaced⟩
  · simp only [Job.ends_bind]
    refine hfilled.mono ?_ fun _ e he m hm => hunlinked e m he hm
    rintro _ e ⟨items, _, rfl⟩
    refine (flush_ends medium _ _).mono ?_ fun _ e he m hm => hunlinked e m he hm
    rintro _ e rfl
    refine (persist_ends medium hplace.node? hplace.free).mono (fun _ _ _ => trivial) ?_
    rintro _ e rfl m hm
    exact hunlinked _ m ⟨_, rfl⟩ hm

/-- Writing an archive passes no other moments than these two kinds. -/
theorem writeArchive_throughout (medium : Medium) (source destination : Path) (f : Format) (d : Disk) :
    (writeArchiveOn medium source destination f).Throughout d
      (Underway medium d source (f.archivePath destination) f) := by
  have hnothing : Extends d d [] (f.archivePath destination).ancestors :=
    (Extends.refl d).mono (List.nil_subset _) (List.nil_subset _)
  refine Job.throughout_bind (Job.throughout_inspect (Or.inl (.bare hnothing))) ?_
  refine Job.ends_inspect.2 ⟨fun entries hentries => ?_, fun _ _ => trivial⟩
  obtain ⟨hsource, hcollected⟩ := collected_of_ok hentries
  refine Job.throughout_bind
    (Job.throughout_mapError ((makeParent_throughout medium _ d).mono fun m h => Or.inl (.bare h))) ?_
  rw [Job.ends_mapError]
  refine ((makeParent_ends medium _ d).and (Job.ends_self _ d)).mono (fun _ ground h => ?_)
    fun _ _ _ => trivial
  obtain ⟨hgrown, _, hmade⟩ := h
  refine Job.throughout_bind
    (Job.throughout_mapError ((createStaging_throughout medium hgrown).mono fun m h => Or.inl h)) ?_
  rw [Job.ends_mapError]
  refine (createStaging_ends medium _ ground).mono (fun s e h => ?_) fun _ _ _ => trivial
  obtain ⟨dir, name, hplace, rfl, rfl⟩ := h
  refine Job.throughout_seq (fill_throughout hsource hcollected hmade.symm hgrown hplace) fun _ e he => ?_
  exact Job.throughout_bind (Job.throughout_log he) (Job.ends_log.2 (Job.throughout_pure he))

/-! ## Every moment -/

/-- At every moment of writing an archive, on every medium, its path leads to what it led to before, or the archive is
complete: the place that the path names holds a file that is unpacked to the tree below the bundle on the
disk `d`. The path leads to it, unless it goes through a link that stood in that place. -/
theorem writeArchive_never_torn (medium : Medium) (source destination : Path) (f : Format) (d : Disk) :
    (writeArchiveOn medium source destination f).Throughout d fun m =>
      Undisturbed d (f.archivePath destination) m ∨
      ∃ ground at_ n content root stored,
        InPlace d (f.archivePath destination) ground at_ n (stagingFile content) m ∧
        (ground.Names (f.archivePath destination) at_ →
          m.lstat (f.archivePath destination) = .ok (at_, .file n)) ∧
        source.fileName? = some root ∧ Archive.unpack? f content = some stored ∧
        Mirrors d source root stored := by
  refine (writeArchive_throughout medium source destination f d).mono ?_
  rintro m (hpending | ⟨entries, items, ground, at_, hpacked⟩)
  · exact Or.inl hpending.undisturbed
  · obtain ⟨root, stored, hroot, hunpack, hmirrors⟩ := hpacked.unpacks
    exact Or.inr ⟨ground, at_, _, _, root, stored, hpacked.inPlace,
      fun hnames => (hpacked.inPlace.visible hnames).2, hroot, hunpack, hmirrors⟩

/-! ## A missing directory in the place of the archive -/

/-- Creating the directories for the archive comes first. -/
theorem makeParent_first {P : Disk → Prop} (hsource : d.isDirectory source = true)
    (hcollected : collect d source = .ok entries)
    (h : (writeArchive source destination f).Throughout d P) :
    (makeParent .reliable (f.archivePath destination)).Throughout d P := by
  have hstill : (Job.inspect fun d => if d.isDirectory source then collect d source
      else .error (.sourceNotDirectory source)) d = ⟨d, [], [], .ok entries⟩ := by
    simp [Job.inspect, hsource, hcollected]
  have hmaking := makeParent_throughout .reliable (f.archivePath destination) d
  exact ⟨hmaking.arrives, ((h.second hstill).first (Job.throughout_mapError hmaking)).met⟩

theorem makeDirectories_met {P : Disk → Prop} {p : Path} (hnil : p.bytes ≠ [])
    (hmade : d.makeDirectory p = .ok e) (h : (makeDirectories .reliable p).Throughout d P) : P e := by
  rw [makeDirectories, if_neg hnil] at h
  have hdisk : (makeDirectory .reliable p d).disk = e := by
    simp [makeDirectory, Medium.grant, Medium.reliable, Job.attempt, hmade, Except.map]
  exact hdisk ▸ (h.first (Job.throughout_outcome (makeDirectory_throughout .reliable p d))).disk

/-- What is missing above a directory is created before it. -/
theorem makeDirectories_above {P : Disk → Prop} {p parent : Path} (hnil : p.bytes ≠ [])
    (hmissing : d.makeDirectory p = .error (.os .notFound)) (hparent : p.parent? = some parent)
    (h : (makeDirectories .reliable p).Throughout d P) :
    (makeDirectories .reliable parent).Throughout d P := by
  have hstill : ((makeDirectory .reliable p).outcome : Job Fault (Except Fault Unit)) d =
      ⟨d, [], [], .ok (.error (.os .notFound))⟩ := by
    simp [Job.outcome, makeDirectory, Medium.grant, Medium.reliable, Job.attempt, hmissing, Except.map]
  rw [makeDirectories, if_neg hnil] at h
  have hnext := h.second hstill
  dsimp only at hnext
  split at hnext
  · next hnone => rw [hparent] at hnone; cases hnone
  · next q hq =>
    rw [hparent] at hq
    cases hq
    exact hnext.first (makeDirectories_throughout .reliable _ d)

/-- A disk with an empty bundle `b`. -/
def bundleOnly : Disk := Disk.place (Disk.locationOf (.ofString "b")) .directory .empty

/-- The same disk with a directory that is called like an archive. -/
def directoryInPlace : Disk := bundleOnly.add [] zipName .directory

theorem bundleOnly_collected :
    collect bundleOnly (.ofString "b") = .ok [⟨.ofString "b", "b", true⟩] := by
  have htext : Text.decode? (Text.ofString "b") = some ['b'] := by decide +kernel
  have hstat : bundleOnly.stat (.ofString "b") = .ok ([⟨Text.ofString "b", by decide⟩], .directory) := by
    decide +kernel
  exact collect_of_empty (by decide +kernel) htext hstat (by decide +kernel) (by decide +kernel)

theorem bundleOnly_makes :
    bundleOnly.makeDirectory (.ofString "W.zip") = .ok directoryInPlace := by
  have hnone : bundleOnly.refusal? (.ofString "W.zip") = none := by decide +kernel
  have hfree : bundleOnly.locate (Path.ofString "W.zip").withoutSlashes false =
      .ok (.vacant [] zipName) := by decide +kernel
  simp only [Disk.makeDirectory, hnone, hfree, directoryInPlace]

theorem bundleOnly_lacks :
    bundleOnly.makeDirectory (.ofString "W.zip/..") = .error (.os .notFound) := by
  have hnone : bundleOnly.refusal? (.ofString "W.zip/..") = none := by decide +kernel
  have hmissing : bundleOnly.locate (Path.ofString "W.zip/..").withoutSlashes false =
      .error (.os .notFound) := by decide +kernel
  simp only [Disk.makeDirectory, hnone, hmissing]

/-- The archive `W.zip/../W.zip` of this bundle needs a directory `W.zip`. Its path led nowhere before, and
it leads to this directory once that was created. -/
theorem directory_in_place_met :
    ¬ (writeArchive (.ofString "b") (.ofString "W.zip/../W") .zip).Throughout bundleOnly fun m =>
      ((∀ l node, m.lstat (.ofString "W.zip/../W.zip") = .ok (l, node) ↔
          bundleOnly.lstat (.ofString "W.zip/../W.zip") = .ok (l, node)) ∧
        ∀ l n, m.lstat (.ofString "W.zip/../W.zip") = .ok (l, .file n) → m.data n = bundleOnly.data n) ∨
      ∃ l n root stored, m.lstat (.ofString "W.zip/../W.zip") = .ok (l, .file n) ∧
        (Path.ofString "b").fileName? = some root ∧
        Archive.unpack? .zip (m.data n).content = some stored ∧
        Mirrors bundleOnly (.ofString "b") root stored := by
  intro h
  have hpath : Format.zip.archivePath (.ofString "W.zip/../W") = .ofString "W.zip/../W.zip" := by
    decide +kernel
  have habove : parentOf? (.ofString "W.zip/../W.zip") = some (.ofString "W.zip/..") := by
    decide +kernel
  have hparent : (Path.ofString "W.zip/..").parent? = some (.ofString "W.zip") := by decide +kernel
  have hmaking := makeParent_first (by decide +kernel) bundleOnly_collected h
  rw [hpath, makeParent, habove] at hmaking
  have hmet := makeDirectories_met (by decide) bundleOnly_makes
    (makeDirectories_above (by decide) bundleOnly_lacks hparent hmaking)
  have hnowhere : bundleOnly.lstat (.ofString "W.zip/../W.zip") = .error (.os .notFound) := by
    decide +kernel
  have hthere : directoryInPlace.lstat (.ofString "W.zip/../W.zip") =
      .ok ([zipName], .directory) := by decide +kernel
  rcases hmet with ⟨hsame, _⟩ | ⟨l, n, _, _, hfile, _⟩
  · rw [hnowhere] at hsame
    cases (hsame _ _).1 hthere
  · rw [hthere] at hfile
    cases hfile

end Bundle

end ReleaseBundle
