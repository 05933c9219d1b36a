import ReleaseBundle.Bundle.Checksum
import ReleaseBundle.Pipeline
import ReleaseBundle.Proofs.Bundle.Packing

/-!
# Describing an archive that was just written

The archive was moved to where its path leads, with a link at the end left alone. Reading it back
follows the whole path. Both lead to the same place, unless the path goes through the very place that
the archive was put in: a link stood there, the archive took its place, and the path leads nowhere any
more. In that one case a run fails although its archive is complete.
-/

namespace ReleaseBundle

namespace Bundle

variable {d e ground : Disk} {source archive : Path} {f : Format} {entries : List Entry}
  {items : List Item} {at_ : Location} {medium : Medium}

namespace Packed

/-- No directory goes for an archive. -/
theorem not_directory (h : Packed medium d source archive f entries items ground at_ e) :
    ground.node? at_ ≠ some .directory := by
  obtain ⟨dir, name, spot, hplace, _, hlocate, hnoDir, rfl⟩ := h.staged
  have hholds := Disk.locate_holds hlocate
  intro hdirectory
  cases spot with
  | vacant dir' name' =>
    have hfree : (ground.staged dir name _).node? (name' :: dir') = none := hholds.2
    rw [Disk.node?_staged _ hplace.node? hplace.free] at hfree
    split at hfree
    · cases hfree
    · rw [Spot.location, hfree] at hdirectory
      cases hdirectory
  | found l node =>
    have hfound : (ground.staged dir name _).node? l = some node := hholds
    rw [Disk.node?_staged _ hplace.node? hplace.free] at hfound
    split at hfound
    · next hl =>
      rw [Spot.location, hl, hplace.free] at hdirectory
      cases hdirectory
    · rw [Spot.location, hfound, Option.some.injEq] at hdirectory
      exact hnoDir l (by rw [hdirectory])

theorem refusal? (h : Packed medium d source archive f entries items ground at_ e) :
    ground.refusal? archive = none := by
  obtain ⟨dir, name, spot, hplace, _, hlocate, _⟩ := h.staged
  rw [← hplace.refusal? (stagingFile (Archive.encode f items))]
  exact (Disk.locate_eq_ok_iff.1 hlocate).1

/-- The path of the archive leads to the archive if it names the place where the archive stands. Otherwise it
goes through a link that stood in that place, and leads nowhere any more. -/
theorem stat (h : Packed medium d source archive f entries items ground at_ e) :
    (ground.Names archive at_ ∧ e.stat archive = .ok (at_, .file ground.freshNumber) ∧
        e.lstat archive = .ok (at_, .file ground.freshNumber)) ∨
      (¬ ground.Names archive at_ ∧ e.stat archive = .error (.os .notDirectory) ∧
        e.lstat archive = .error (.os .notDirectory)) ∧ ∃ target, ground.node? at_ = some (.link target) := by
  obtain ⟨dir, name, spot, hplace, _, hlocate, hnoDir, hat⟩ := h.staged
  have hroute := (Disk.locate_eq_ok_iff.1 hlocate).2
  have hground : ∀ l node, (∀ m, node ≠ .file m) →
      (ground.staged dir name (stagingFile (Archive.encode f items))).node? l = some node →
      ground.node? l = some node := fun l node => hplace.before
  obtain ⟨last, top, rfl⟩ : ∃ last top, at_ = last :: top := by
    cases at_ with
    | nil => exact absurd (Disk.node?_nil ground) h.not_directory
    | cons last top => exact ⟨last, top, rfl⟩
  have hbare : (ground.unlink (last :: top)).node? (last :: top) = none := by
    rw [Disk.node?_unlink h.not_directory, if_pos rfl]
  have hvisit := hroute.revisit
    (fun l node hl hnofile helse => by
      have hnode := hground l node hnofile hl
      exact ⟨h.replaced.keep helse hnode, by rw [Disk.node?_unlink h.not_directory, if_neg helse, hnode]⟩)
    h.replaced.node?_self hbare
    (fun hdirectory => h.not_directory (hground _ _ (by simp) hdirectory)) hat hnoDir
  rw [Disk.cwd_staged] at hvisit
  simp only [Disk.names_iff h.not_directory h.refusal?, Disk.stat, Disk.lstat, Disk.locate,
    h.replaced.refusal? h.not_directory, h.refusal?, h.replaced.cwd]
  rcases hvisit with ⟨hfound, hvacant⟩ | ⟨herror, hnothing, target, hlink⟩
  · exact Or.inl (by simp only [hfound, hvacant, and_self])
  · exact Or.inr ⟨by simp [herror, hnothing], target, hground _ _ (by simp) hlink⟩

end Packed

/-- What is published about an archive with the given contents. -/
def artifactOf (archive : Path) (version : String) (f : Format) (content : Bytes) : Artifact :=
  ⟨archive, version, f, content.length, checksumOfReads (reads content)⟩

theorem describe_of_stat {p : Path} {n : Nat} {content : Bytes} (version : String)
    (hstat : e.stat p = .ok (at_, .file n)) (hdata : e.data n = stagingFile content) :
    describe e p version f = .ok (artifactOf p version f content) := by
  have hopen : e.openPath p = .ok (.file n (stagingFile content)) :=
    Disk.openPath_eq_file_iff.2 ⟨⟨at_, hstat⟩, hdata, by simp [stagingFile, FileData.ownerReads]⟩
  have hsum : checksum e p = .ok (checksumOfReads (reads content)) := by
    unfold checksum
    rw [hopen]
    rfl
  simp only [describe, hstat, hsum, Disk.size, hdata]
  rfl

end Bundle

namespace Pipeline

open ReleaseBundle.Bundle (Packed artifactOf)

variable {s : Settings} {version : String} {d : Disk}

/-- Where the archive of a version is written. -/
def archivePath (s : Settings) (version : String) : Path :=
  s.format.archivePath (s.archiveBase version)

/-- An archive that was written is described, or its path went through the link that it replaced. -/
theorem archive_ends (s : Settings) (version : String) (d : Disk) :
    (archive s version).Ends d
      (fun a e => ∃ entries items ground at_,
        Packed .reliable d s.output (archivePath s version) s.format entries items ground at_ e ∧
        e.stat (archivePath s version) = .ok (at_, .file ground.freshNumber) ∧
        e.lstat (archivePath s version) = .ok (at_, .file ground.freshNumber) ∧
        a = artifactOf (archivePath s version) version s.format (Archive.encode s.format items))
      (fun x e => Disk.Extends d e [] (archivePath s version).ancestors ∨
        x = .file .readingArchive (archivePath s version) (.os .notDirectory) ∧
        ∃ entries items ground at_ target,
          Packed .reliable d s.output (archivePath s version) s.format entries items ground at_ e ∧
          ground.node? at_ = some (.link target)) := by
  simp only [archive, Job.ends_bind]
  refine (Bundle.writeArchive_ends s.output (s.archiveBase version) s.format d).mono ?_
    (fun _ _ h => Or.inl h)
  rintro path e ⟨rfl, entries, items, ground, at_, hpacked⟩
  rcases hpacked.stat with ⟨_, hstat, hnoLink⟩ | ⟨⟨_, herror, _⟩, target, hlink⟩
  · have hdescribe := Bundle.describe_of_stat (f := s.format) version hstat hpacked.replaced.content
    refine Job.ends_inspect.2 ⟨fun a ha => ?_, fun x hx => ?_⟩
    · rw [hdescribe] at ha
      cases ha
      exact ⟨entries, items, ground, at_, hpacked, hstat, hnoLink, rfl⟩
    · rw [hdescribe] at hx
      cases hx
  · have hdescribe : Bundle.describe e (s.format.archivePath (s.archiveBase version)) version s.format =
        .error (.file .readingArchive (archivePath s version) (.os .notDirectory)) := by
      simp only [Bundle.describe, herror]
      rfl
    refine Job.ends_inspect.2 ⟨fun a ha => ?_, fun x hx => ?_⟩
    · rw [hdescribe] at ha
      cases ha
    · rw [hdescribe] at hx
      cases hx
      exact Or.inr ⟨rfl, entries, items, ground, at_, target, hpacked, hlink⟩

end Pipeline

end ReleaseBundle
