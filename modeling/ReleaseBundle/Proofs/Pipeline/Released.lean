import ReleaseBundle.Proofs.Bundle.Contents
import ReleaseBundle.Proofs.Bundle.Fresh
import ReleaseBundle.Proofs.Digest.Streaming
import ReleaseBundle.Proofs.Layout
import ReleaseBundle.Proofs.Pipeline.Failure

/-!
# What a release is

A run that answers an artifact has put an archive under the name that the artifact and its version give,
and what it says about the archive is true of the file that is there in the end. Unpacking that file gives
the build output as it was when the bundle was assembled, with the license and the readme in it.
-/

namespace ReleaseBundle

open Archive (Stored)
open ReleaseBundle.Bundle (Mirrors)

namespace Bundle

variable {d e : Disk} {source destination output license readme : Path} {n t : Nat} {root : Bytes}
  {stored : List Stored}

/-- A file that was copied into the bundle is in the archive. -/
theorem Mirrors.copy_mem (h : Mirrors e output root stored) (hcopy : copyOf? output source = some destination)
    {at_ : Location} (hstat : e.stat destination = .ok (at_, .file t)) :
    ∃ name, source.fileName? = some name ∧
      ⟨Path.glue [root, name], some (e.data t).content⟩ ∈ stored := by
  obtain ⟨part, hpart, rfl⟩ := Option.map_eq_some_iff.1 hcopy
  obtain ⟨_, hslash, hnil, hdot, hdots⟩ := Path.fileName?_spec hpart
  obtain ⟨name, rfl⟩ := Disk.name_of_stat hslash hnil hdot hdots hstat
  refine ⟨_, hpart, (h.mem_iff _).2 ⟨[name], rfl, ?_⟩⟩
  simp only [Path.below_cons, Path.below_nil, Disk.followed, hstat]

/-- After assembling, both copies are where they belong. -/
theorem Assembled.stat (h : Assembled d output license readme e) :
    ∃ p q l l' t t', copyOf? output license = some p ∧ copyOf? output readme = some q ∧
      e.stat p = .ok (l, .file t) ∧ e.stat q = .ok (l', .file t') := by
  obtain ⟨p, q, middle, n, t, n', t', hp, hq, hfirst, hsecond⟩ := h.copied
  obtain ⟨l, hlicense⟩ := hfirst.wrote.stat
  obtain ⟨l', hreadme⟩ := hsecond.wrote.stat
  exact ⟨p, q, l, l', t, t', hp, hq, hsecond.wrote.ext.stat hlicense, hreadme⟩

end Bundle

namespace Orchestrator

variable {σ : Type}

/-- A released artifact is complete and truly described. The disk `f` is the one that assembling leaves and
`e` the one that the whole run leaves. -/
theorem released_archive_complete (o : Orchestrator σ) (d : Disk) (a : Artifact)
    (haccepted : Settings.refusal? o.settings = none)
    (hreleased : (o.run d).2.account.result = .ok (.released a)) :
    let s := o.settings
    let f := (Pipeline.assembly s (o.built d).disk).disk
    let e := (o.run d).2.account.disk
    Manifest.findVersion f s.manifest = .ok a.version ∧ a.format = s.format ∧
      a.path = s.releases.child
        (Text.ofString (s.name ++ "_" ++ a.version ++ "." ++ s.format.extension)) ∧
      ∃ at_ n content root stored,
        e.lstat a.path = .ok (at_, .file n) ∧ (e.data n).content = content ∧
        a.size = content.length ∧ a.checksum = Bytes.hex (Sha256.digest content) ∧
        s.output.fileName? = some root ∧ Archive.unpack? s.format content = some stored ∧
        Mirrors f s.output root stored ∧
        (∃ name bytes, s.license.fileName? = some name ∧
          ⟨Path.glue [root, name], some bytes⟩ ∈ stored) ∧
        ∃ name bytes, s.readme.fileName? = some name ∧
          ⟨Path.glue [root, name], some bytes⟩ ∈ stored := by
  intro s f e
  obtain ⟨version, hassembly, hversion, harchive, hdisk⟩ :=
    (bundling_of_release hreleased).release hreleased
  obtain ⟨entries, items, ground, at_, hpacked, _, hnoLink, rfl⟩ :=
    (Pipeline.archive_ends s version f).of_ok harchive
  rw [← hdisk] at hpacked hnoLink
  have hseparators := Manifest.findVersion_separators hversion
  have hcontent : (e.data ground.freshNumber).content = Archive.encode s.format items := by
    rw [hpacked.replaced.content]
    rfl
  obtain ⟨root, stored, hroot, hunpack, hmirrors⟩ := hpacked.unpacks
  obtain ⟨p, q, l, l', t, t', hp, hq, hlicense, hreadme⟩ :=
    ((Bundle.assemble_ends s.output s.license s.readme _).of_ok hassembly).stat
  obtain ⟨license, hlicenseName, hlicenseIn⟩ := hmirrors.copy_mem hp hlicense
  obtain ⟨readme, hreadmeName, hreadmeIn⟩ := hmirrors.copy_mem hq hreadme
  refine ⟨hversion, rfl, ?_, at_, ground.freshNumber, _, root, stored, hnoLink, hcontent, rfl, ?_, hroot,
    hunpack, hmirrors, ⟨license, _, hlicenseName, hlicenseIn⟩, readme, _, hreadmeName, hreadmeIn⟩
  · have hpath := Settings.archivePath_eq haccepted hseparators
    simp only [Settings.archiveSuffix, ← String.append_assoc] at hpath
    exact hpath
  · exact Bundle.checksumOfReads_reads _

/-- A project in the usual layout whose bundle holds old copies of the documents. -/
def complete : Disk :=
  Disk.placeFile (Disk.locationOf (.ofString "dist/W/LICENSE.md")) .blank
    (Disk.placeFile (Disk.locationOf (.ofString "dist/W/README.md")) .blank
      (Disk.placeFile (Disk.locationOf (.ofString "LICENSE.md"))
        { content := Text.ofString "MIT", mode := 0o644 }
        (Disk.placeFile (Disk.locationOf (.ofString "README.md")) .blank
          (Disk.placeFile (Disk.locationOf (.ofString "src/W/W.csproj"))
            { content := Text.ofString "<Version>1</Version>", mode := 0o644 } .empty))))

/-- The settings of the project for a run at a root. -/
def settingsAt (root : String) : Settings :=
  ({ root := .ofString root, name := some "W" } : Settings.Choices).resolved

/-- The same project after assembling. -/
def bundled (root : String) : Disk := (Pipeline.assembly (settingsAt root) complete).disk

/-- The name of the bundle. -/
def bundleName : Name := ⟨Text.ofString "W", by decide⟩

/-- What the bundle holds. -/
def bundledEntries (root : String) : List Bundle.Entry :=
  let output := (settingsAt root).output
  [⟨output, "W", true⟩, ⟨output.child Name.license.bytes, "W/LICENSE.md", false⟩,
    ⟨output.child Name.readme.bytes, "W/README.md", false⟩]

/-- What each entry is archived as. -/
def bundledItems : List Item :=
  [⟨"W", .directory⟩, ⟨"W/LICENSE.md", .file (Text.ofString "MIT") false⟩,
    ⟨"W/README.md", .file [] false⟩]

theorem bundled_eval : ∀ root ∈ ["", "."],
    (Pipeline.assembly (settingsAt root) complete).result = .ok () ∧
      Manifest.findVersion (bundled root) (settingsAt root).manifest = .ok "1" ∧ (bundled root).Plain ∧
      (bundled root).stat (settingsAt root).output = .ok ([bundleName, Name.dist], .directory) ∧
      (bundled root).stat (settingsAt root).releases = .ok ([Name.dist], .directory) ∧
      (bundled root).children [bundleName, Name.dist] =
        [(Name.license, .file 5), (Name.readme, .file 4)] ∧
      Bundle.freeName? (bundled root) [Name.dist] = some ⟨Bundle.stagingName 0, by decide⟩ ∧
      (bundled root).locate (Pipeline.archivePath (settingsAt root) "1") false =
        .ok (.vacant [Name.dist] ⟨Text.ofString "W_1.zip", by decide⟩) := by
  decide +kernel

theorem bundledEntries_eval : ∀ root ∈ ["", "."],
    (settingsAt root).output.fileName? = some bundleName.bytes ∧
      Text.decode? bundleName.bytes = some ['W'] ∧
      (∀ e ∈ bundledEntries root,
        Bundle.entryName (settingsAt root).output "W" e.source = .ok e.name) ∧
      (bundledEntries root).map (fun e => Bundle.item .zip e (bundled root)) =
        bundledItems.map .ok := by
  decide +kernel

theorem settingsAt_accepted : ∀ root ∈ ["", "."],
    ({ root := .ofString root, name := some "W" } : Settings.Choices).settings =
      .ok (settingsAt root) := by
  decide +kernel

theorem collect_bundled {root : String} (hroot : root ∈ ["", "."]) :
    Bundle.collect (bundled root) (settingsAt root).output = .ok (bundledEntries root) := by
  obtain ⟨_, _, hplain, houtput, _, hchildren, _, _⟩ := bundled_eval root hroot
  obtain ⟨hname, htext, hcalled, _⟩ := bundledEntries_eval root hroot
  simp only [bundledEntries, List.forall_mem_cons] at hcalled
  obtain ⟨hself, hlicense, hreadme, _⟩ := hcalled
  have hsorted : Bundle.sortedChildren (bundled root) [bundleName, Name.dist] =
      [(Name.license, .file 5), (Name.readme, .file 4)] := by
    rw [Bundle.sortedChildren, hchildren]
    exact List.mergeSort_of_pairwise (by decide)
  refine Bundle.collect_of_listing hplain hname htext houtput hself ?_
  rw [hsorted]
  exact .file (.file _) hlicense (.file (.file _) hreadme (.done _))

/-- The project is released by every build that succeeds and leaves it complete. -/
theorem released_of_complete {o : Orchestrator σ} {d : Disk} {r : BuildResult} (root : String)
    (hroot : root ∈ ["", "."]) (hsettings : o.settings = settingsAt root)
    (hbuild : (o.built d).result = .ok r) (hsuccess : r.isSuccess = true)
    (hleft : (o.built d).disk = complete) :
    ∃ a, (o.run d).2.account.result = .ok (.released a) := by
  obtain ⟨hassembly, hversion, hplain, houtput, hreleases, _, hstaging, hfree⟩ :=
    bundled_eval root hroot
  have husual := Settings.usual_of_choices (settingsAt_accepted root hroot)
  have hitems : List.Forall₂ (fun e i => Bundle.item .zip e (bundled root) = .ok i)
      (bundledEntries root) bundledItems := by
    have hmap := (bundledEntries_eval root hroot).2.2.2
    rwa [← List.forall₂_eq_eq_eq, List.forall₂_map_left_iff, List.forall₂_map_right_iff] at hmap
  have hpackable := Bundle.packable_of_free hplain (Disk.isDirectory_iff.2 ⟨_, houtput⟩)
    (collect_bundled hroot) (husual.parent_archive (by decide)) husual.endsInSlash_releases hreleases
    hstaging hfree (by decide) hitems
  have harchive := (Pipeline.archive_succeeds hplain hpackable).1
  have hbundling := bundling_of_built hbuild hsuccess
  rw [hsettings, hleft] at hbundling
  exact ⟨_, (hbundling.succeeds hassembly hversion harchive).1⟩

/-- A build that does nothing is such a build. -/
theorem complete_released : ∃ a, ((usual "W").run complete).2.account.result = .ok (.released a) :=
  released_of_complete "" (r := .success) (List.mem_cons_self ..) rfl rfl rfl rfl

theorem complete_project_archived :
    Settings.refusal? (usual "W").settings = none ∧ ∃ a,
      ((usual "W").run complete).2.account.result = .ok (.released a) ∧
      Manifest.findVersion (bundled "") (usual "W").settings.manifest = .ok a.version ∧
      ∃ at_ n, ((usual "W").run complete).2.account.disk.lstat a.path = .ok (at_, .file n) := by
  have haccepted : Settings.refusal? (usual "W").settings = none := by decide +kernel
  obtain ⟨a, hreleased⟩ := complete_released
  obtain ⟨hversion, _, _, at_, n, _, _, _, harchive, _⟩ :=
    released_archive_complete (usual "W") complete a haccepted hreleased
  exact ⟨haccepted, a, hreleased, hversion, at_, n, harchive⟩

end Orchestrator

end ReleaseBundle
