import ReleaseBundle.Proofs.Disk.Agreement
import ReleaseBundle.Proofs.Layout
import ReleaseBundle.Proofs.Pipeline.Failure

/-!
# Places of the usual layout

Without links the paths of the usual layout lead to fixed places below the place of the project root: the
inputs of a run to one side, and all that it writes into `dist`. Only an artifact called `..` has its
copies elsewhere.
-/

namespace ReleaseBundle

namespace Settings.Usual

open Disk (landing branch_landing)

variable {s : Settings} {version : String}

/-- The directory for archives and build outputs holds the archive. -/
theorem branch_archive (root : Location) :
    Name.dist :: root <:+
      landing root [Name.dist.bytes, Text.ofString (s.name ++ s.archiveSuffix version)] := by
  refine branch_landing root Name.dist fun hdots => ?_
  have := Text.eq_dots_of_ofString (List.mem_singleton.1 hdots).symm
  have hmem : '_' ∈ (s.name ++ s.archiveSuffix version).toList := by simp [archiveSuffix]
  rw [this] at hmem
  revert hmem
  decide

/-- The manifest is below none of the places that a run writes to. -/
theorem branch_manifest (s : Settings) (root : Location) :
    ∃ a, a ≠ Name.dist ∧ a ≠ Name.license ∧ a ≠ Name.readme ∧
      a :: root <:+ landing root
        [Name.src.bytes, Text.ofString s.name, Text.ofString (s.name ++ ".csproj")] := by
  have hfile : [Path.dot, Path.dot] ≠ Text.ofString (s.name ++ ".csproj") := by
    intro hdots
    have := Text.eq_dots_of_ofString hdots.symm
    have hmem : 'c' ∈ (s.name ++ ".csproj").toList := by simp
    rw [this] at hmem
    revert hmem
    decide
  by_cases hname : s.name = ".."
  · have hbelow := branch_landing root ⟨Text.ofString "...csproj", by decide⟩ (List.not_mem_nil)
    refine ⟨⟨Text.ofString "...csproj", by decide⟩, by decide, by decide, by decide, ?_⟩
    rw [hname]
    exact hbelow
  · refine ⟨Name.src, by decide, by decide, by decide, branch_landing root Name.src ?_⟩
    simp only [List.mem_cons, List.not_mem_nil, or_false, not_or]
    exact ⟨fun hdots => hname (Text.eq_dots_of_ofString hdots.symm), hfile⟩

/-- A copy is below `dist`, unless the build output is the root. -/
theorem branch_copy (hname : s.name ≠ "..") (root : Location) (name : Name) :
    Name.dist :: root <:+
      landing root [Name.dist.bytes, Text.ofString s.name, name.bytes] := by
  refine branch_landing root Name.dist ?_
  simp only [List.mem_cons, List.not_mem_nil, or_false, not_or]
  exact ⟨fun hdots => hname (Text.eq_dots_of_ofString hdots.symm), name.bytes_ne_dots.symm⟩

theorem copies_eq (h : s.Usual) :
    s.copies = [s.output.child Name.license.bytes, s.output.child Name.readme.bytes] := by
  rw [Settings.copies, Bundle.copies_eq, h.copyOf?_license, h.copyOf?_readme]
  rfl

theorem mem_copies (h : s.Usual) {c : Path} (hc : c ∈ s.copies) :
    ∃ name, (name = Name.license ∨ name = Name.readme) ∧ c = s.output.child name.bytes := by
  rw [h.copies_eq] at hc
  simp only [List.mem_cons, List.not_mem_nil, or_false] at hc
  rcases hc with rfl | rfl
  · exact ⟨Name.license, Or.inl rfl, rfl⟩
  · exact ⟨Name.readme, Or.inr rfl, rfl⟩

theorem under_copy (h : s.Usual) (name : Name) :
    Path.Under s.root (s.output.child name.bytes)
      [Name.dist.bytes, Text.ofString s.name, name.bytes] :=
  h.under_output.child name.slash_not_mem name.bytes_ne_nil

end Settings.Usual

/-- What a run reads and does not build. -/
def Settings.inputs (s : Settings) : List Path := [s.license, s.readme, s.manifest]

namespace Pipeline

open Disk (landing)

variable {s : Settings} {d : Disk} {i : Path} {at_ top : Location} {node : Node} {version : String}

/-- Where the archive of a version is put without links. -/
def archivePlace (s : Settings) (d : Disk) (version : String) : Location :=
  landing (d.rootPlace s.root)
    [Name.dist.bytes, Text.ofString (s.name ++ s.archiveSuffix version)]

/-- Where an input is without links. -/
theorem branch_input (husual : s.Usual) (hplain : d.Plain) (hi : i ∈ s.inputs)
    (hstat : d.stat i = .ok (at_, node)) :
    ∃ a, a ≠ Name.dist ∧ (i = s.manifest → a ≠ Name.license ∧ a ≠ Name.readme) ∧
      a :: d.rootPlace s.root <:+ at_ := by
  simp only [Settings.inputs, List.mem_cons, List.not_mem_nil, or_false] at hi
  by_cases hmanifest : i = s.manifest
  · subst hmanifest
    obtain ⟨a, hdist, hlicense, hreadme, hbranch⟩ :=
      Settings.Usual.branch_manifest s (d.rootPlace s.root)
    rw [← Disk.stat_under hplain husual.under_manifest hstat] at hbranch
    exact ⟨a, hdist, fun _ => ⟨hlicense, hreadme⟩, hbranch⟩
  · rcases hi with rfl | rfl | rfl
    · rw [Disk.stat_under hplain husual.under_license hstat]
      exact ⟨Name.license, by decide, fun h => absurd h hmanifest,
        Disk.branch_landing _ _ List.not_mem_nil⟩
    · rw [Disk.stat_under hplain husual.under_readme hstat]
      exact ⟨Name.readme, by decide, fun h => absurd h hmanifest,
        Disk.branch_landing _ _ List.not_mem_nil⟩
    · exact absurd rfl hmanifest

/-- The build output of a bundle that can be packed is an entry of the directory for archives. -/
theorem output_place (husual : s.Usual) (hplain : d.Plain) {root : Bytes}
    (hroot : s.output.fileName? = some root) (hstat : d.stat s.output = .ok (top, .directory)) :
    ∃ name : Name, name.bytes = Text.ofString s.name ∧ top = name :: Name.dist :: d.rootPlace s.root ∧
      d.stat s.releases = .ok (Name.dist :: d.rootPlace s.root, .directory) := by
  rw [husual.output_eq] at hstat
  obtain ⟨name, hname⟩ := Disk.name_of_stat husual.slash_not_mem husual.name_ne_nil husual.name_ne_dot
    (husual.name_ne_dots hroot) hstat
  have hnil : s.releases.bytes ≠ [] := by
    rw [husual.releases]
    exact Path.bytes_child_ne_nil _ Name.dist.slash_not_mem Name.dist.bytes_ne_nil
  rw [← hname] at hstat
  obtain ⟨dist, hdist, hcase⟩ := Disk.stat_child_cases hnil hstat
  have hplace := Disk.stat_under hplain husual.under_releases hdist
  rw [Disk.landing_name, Disk.landing_nil] at hplace
  subst hplace
  rcases hcase with ⟨rfl, _⟩ | ⟨target, hlink⟩
  · exact ⟨name, hname, rfl, hdist⟩
  · exact absurd hlink (hplain _ _)

/-- The archive is an entry of the directory for archives, called like no build output and like no staging
file. -/
theorem archive_place (husual : s.Usual) (hplain : d.Plain)
    (hversion : version.toList.any Text.isSeparator = false)
    (hstat : d.stat (archivePath s version) = .ok (at_, node)) :
    ∃ name : Name, at_ = name :: Name.dist :: d.rootPlace s.root ∧
      name.bytes ≠ Text.ofString s.name ∧ ∀ i, name.bytes ≠ Bundle.stagingName i := by
  have hplace := Disk.stat_under hplain (husual.under_archive hversion) hstat
  rw [Settings.archivePath_eq husual.accepted hversion] at hstat
  obtain ⟨hidle, hdots⟩ := Settings.archiveName_ordinary s version
  rw [Path.isIdle, Bool.or_eq_false_iff, beq_eq_false_iff_ne, beq_eq_false_iff_ne] at hidle
  obtain ⟨name, hname⟩ := Disk.name_of_stat (Settings.slash_not_mem_archiveName husual.accepted hversion)
    hidle.1 hidle.2 hdots hstat
  rw [← hname, Disk.landing_name, Disk.landing_name, Disk.landing_nil] at hplace
  refine ⟨name, hplace, ?_⟩
  rw [hname]
  exact ⟨Settings.archiveName_ne_name s version, Settings.archiveName_ne_staging s version⟩

end Pipeline

end ReleaseBundle
