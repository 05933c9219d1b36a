import ReleaseBundle.Disk.Difference
import ReleaseBundle.Proofs.Bundle.Assembly
import ReleaseBundle.Proofs.Bundle.Description
import ReleaseBundle.Proofs.Pipeline.Course

/-!
# What a run without a release leaves behind

A run that releases nothing has touched nothing if there was no successful build, and otherwise no more
than the two copies in the build output and directories above the archive. There is one exception. An
archive path can go through the very link that it names, as in `x.zip/../x.zip`. The finished archive
then takes the place of the link, its own path leads nowhere any more, and the run fails although the
archive is written.
-/

namespace ReleaseBundle

open Disk (Extends Replaced)

/-- The paths that a run copies the license and the readme to. -/
def Settings.copies (s : Settings) : List Path := Bundle.copies s.output s.license s.readme

namespace Pipeline

variable {s : Settings} {d : Disk} {p : Progress Verdict}

/-- The disk of a run that started its bundling on `d` and changed no more than it may without a
release. Directories are created only for the archive of the version that was read. -/
def Contained (s : Settings) (d : Disk) (p : Progress Verdict) : Prop :=
  ∃ made, Extends d p.account.disk s.copies made ∧
    (made = [] ∨ .archiving ∈ p.entered ∧
      ∃ version, Manifest.findVersion (assembly s d).disk s.manifest = .ok version ∧
        made = (archivePath s version).ancestors)

/-- The disk of a run that failed because its archive replaced a link on the way to it. All that happened
before the archive took the place of the link is contained like in any other run. -/
def Displacing (s : Settings) (d : Disk) (p : Progress Verdict) : Prop :=
  ∃ version ground at_ target items,
    Manifest.findVersion (assembly s d).disk s.manifest = .ok version ∧
    p.account.result =
      .error (.archive (.file .readingArchive (archivePath s version) (.os .notDirectory))) ∧
    Extends d ground s.copies (archivePath s version).ancestors ∧
    ground.node? at_ = some (.link target) ∧
    Replaced ground p.account.disk at_ ground.freshNumber
      (Bundle.stagingFile (Archive.encode s.format items))

theorem assembly_extends (s : Settings) (d : Disk) : Extends d (assembly s d).disk s.copies [] :=
  Bundle.assemble_extends s.output s.license s.readme d

theorem Bundling.contained (h : Bundling s d p)
    (hunreleased : ∀ a, p.account.result ≠ .ok (.released a)) :
    Contained s d p ∨ Displacing s d p := by
  have hassembly := assembly_extends s d
  cases h with
  | unassembled _ _ _ hdisk => exact Or.inl ⟨[], hdisk ▸ hassembly, Or.inl rfl⟩
  | unversioned _ _ _ _ hdisk => exact Or.inl ⟨[], hdisk ▸ hassembly, Or.inl rfl⟩
  | unarchived version x _ hversion harchive hentered hresult hdisk =>
    rcases (archive_ends s version (assembly s d).disk).of_error harchive with
      hgrown | ⟨rfl, _, items, ground, at_, target, hpacked, hlink⟩
    · have hall := hassembly.trans hgrown
      rw [List.append_nil, List.nil_append, ← hdisk] at hall
      exact Or.inl ⟨_, hall, Or.inr ⟨hentered, version, hversion, rfl⟩⟩
    · have hall := hassembly.trans hpacked.grown
      rw [List.append_nil, List.nil_append] at hall
      have hreplaced := hpacked.replaced
      rw [← hdisk] at hreplaced
      exact Or.inr ⟨version, ground, at_, target, items, hversion, hresult, hall, hlink, hreplaced⟩
  | released version a _ _ _ hresult _ => exact absurd hresult (hunreleased a)

/-- The link that the archive replaced was there before. -/
theorem Displacing.not_contained (h : Displacing s d p) : ¬ Contained s d p := by
  rintro ⟨made, hcontained, _⟩
  obtain ⟨_, ground, at_, target, _, _, _, hgrown, hlink, hreplaced⟩ := h
  have hbefore : d.node? at_ = some (.link target) := by
    rcases hgrown.added _ _ hlink with hold | ⟨hdirectory, _⟩ | ⟨_, hfile, _⟩
    · exact hold
    · cases hdirectory
    · cases hfile
  have hafter := hcontained.kept _ _ hbefore
  rw [hreplaced.node?_self] at hafter
  cases hafter

end Pipeline

namespace Orchestrator

variable {σ : Type}

/-- A run that releases nothing leaves the disk as the invoker left it if the build failed or could not be
started. Otherwise it has changed no more than the two copies in the build output and created no more
than directories above the archive, except when its archive replaced a link that its own path goes
through. -/
theorem unreleased_run_contained (o : Orchestrator σ) (d : Disk)
    (hunreleased : ∀ a, (o.run d).2.account.result ≠ .ok (.released a)) :
    ((∀ r, (o.built d).result = .ok r → r.isSuccess = false) →
      (o.run d).2.account.disk = (o.built d).disk) ∧
    ((∃ r, (o.built d).result = .ok r ∧ r.isSuccess = true) →
      (¬ Pipeline.Contained o.settings (o.built d).disk (o.run d).2 ↔
        Pipeline.Displacing o.settings (o.built d).disk (o.run d).2)) := by
  cases o.course d with
  | unavailable x hbuild _ hdisk =>
    refine ⟨fun _ => hdisk, fun ⟨r, hok, _⟩ => ?_⟩
    rw [hbuild] at hok
    cases hok
  | unbuilt r hbuild hfailed _ hdisk =>
    refine ⟨fun _ => hdisk, fun ⟨r', hok, hsuccess⟩ => ?_⟩
    rw [hbuild] at hok
    cases hok
    rw [hfailed] at hsuccess
    cases hsuccess
  | built r hbuild hsuccess hbundling =>
    refine ⟨fun hnone => ?_, fun _ => ⟨?_, Pipeline.Displacing.not_contained⟩⟩
    · rw [hnone r hbuild] at hsuccess
      cases hsuccess
    · exact (hbundling.contained hunreleased).resolve_left

/-- A build that reports success and does nothing. -/
def idle : Invoker Unit := fun _ d => ((), ⟨d, [], [], .ok .success⟩)

/-- A disk with a license and a readme and nothing else. -/
def documents : Disk :=
  Disk.placeFile (Disk.locationOf (.ofString "LICENSE.md")) .blank
    (Disk.placeFile (Disk.locationOf (.ofString "README.md")) .blank .empty)

/-- A run in the usual layout at the top of a disk. -/
def usual (name : String) : Orchestrator Unit :=
  .new ({ root := .ofString "", name := some name } : Settings.Choices).resolved idle ()

theorem run_without_output_contained :
    (∀ a, ((usual "Widget").run documents).2.account.result ≠ .ok (.released a)) ∧
      (¬ Pipeline.Contained (usual "Widget").settings documents ((usual "Widget").run documents).2 ↔
        Pipeline.Displacing (usual "Widget").settings documents
          ((usual "Widget").run documents).2) := by
  have hunreleased : ∀ a, ((usual "Widget").run documents).2.account.result ≠ .ok (.released a) := by
    intro a h
    have herror : ((usual "Widget").run documents).2.account.result =
        .error (.bundle (.outputMissing (usual "Widget").settings.output)) := rfl
    rw [herror] at h
    cases h
  exact ⟨hunreleased,
    (unreleased_run_contained (usual "Widget") documents hunreleased).2 ⟨.success, rfl, rfl⟩⟩

end Orchestrator

end ReleaseBundle
