import ReleaseBundle.CommandLine.Arguments
import ReleaseBundle.Manifest
import ReleaseBundle.Pipeline
import ReleaseBundle.Proofs.Bundle.Assembly
import ReleaseBundle.Proofs.Bundle.Description
import ReleaseBundle.Proofs.Bytes.Utf8
import ReleaseBundle.Proofs.Disk.Plain

/-!
# The usual layout

Settings in which no path is chosen put everything in fixed places below the project root: the documents
at the root, the manifest below `src`, the build output and the archives in `dist`. This module says
which parts the paths of such settings have behind those of the root, and that a name that was accepted
is one part of a path.
-/

namespace ReleaseBundle

open ReleaseBundle.Path (slash dot)

/-- The entries of a project root that the usual layout is made of. -/
def Name.license : Name := ⟨Text.ofString "LICENSE.md", by decide⟩

def Name.readme : Name := ⟨Text.ofString "README.md", by decide⟩

def Name.src : Name := ⟨Text.ofString "src", by decide⟩

def Name.dist : Name := ⟨Text.ofString "dist", by decide⟩

namespace Manifest

/-- A version that was found has no separators. -/
theorem findVersion_separators {d : Disk} {p : Path} {version : String}
    (h : findVersion d p = .ok version) : version.toList.any Text.isSeparator = false := by
  unfold findVersion findVersionBy at h
  split at h
  · cases h
  · split at h
    · cases h
    · unfold versionOf at h
      split at h
      · cases h
      · simp only at h
        split at h
        · cases h
        · split at h
          · cases h
          · next hnone =>
            cases h
            simpa using hnone

end Manifest

namespace Settings

/-- Settings that were accepted and in which no path was chosen. -/
structure Usual (s : Settings) : Prop where
  manifest : s.manifest = s.root.join (Choices.usualManifest s.name)
  license : s.license = s.root.child Name.license.bytes
  readme : s.readme = s.root.child Name.readme.bytes
  output : s.output = s.root.join (Choices.usualOutput s.name)
  releases : s.releases = s.root.child Name.dist.bytes
  accepted : refusal? s = none

theorem usual_of_choices {root : Path} {name : Option String} {format : Format}
    {toolchain : Option Command} {s : Settings}
    (h : ({ root, name, format, toolchain } : Choices).settings = .ok s) : s.Usual := by
  unfold Choices.settings at h
  split at h
  · cases h
  · next haccepted =>
    cases h
    exact ⟨rfl, rfl, rfl, rfl, rfl, haccepted⟩

theorem usual_of_arguments {a : CommandLine.Arguments} {d : Disk} {s : Settings}
    (h : a.settings d = .ok s) : s.Usual ∧ s.name = a.name := by
  unfold CommandLine.Arguments.settings at h
  cases hroot : a.chosenRoot d with
  | error failure => simp [hroot] at h
  | ok root =>
    simp only [hroot] at h
    cases hchosen : ({ root := root, name := some a.name, format := a.format } : Choices).settings with
    | error failure => simp [hchosen] at h
    | ok s' =>
      simp only [hchosen, Job.mapError_ok, Except.ok.injEq] at h
      subst h
      refine ⟨usual_of_choices hchosen, ?_⟩
      unfold Choices.settings at hchosen
      split at hchosen
      · cases hchosen
      · cases hchosen
        rfl

variable {s : Settings} {version : String}

/-! ## Accepted names -/

theorem accepted_name (h : refusal? s = none) :
    isBlankText s.name = false ∧ s.name.toList.any Text.isSeparator = false ∧
      s.releases.startsWith s.output = false := by
  unfold refusal? at h
  repeat' split at h
  all_goals simp_all

/-- A text without separators and a name that was accepted before it are one part of a path. -/
theorem slash_not_mem_name (h : refusal? s = none) {text : String}
    (htext : text.toList.any Text.isSeparator = false) : slash ∉ Text.ofString (s.name ++ text) := by
  intro hslash
  have hchar : '/' ∈ s.name.toList ++ text.toList := by
    simpa using Text.mem_encode_slash hslash
  have hseparator : Text.isSeparator '/' = true := by decide
  rcases List.mem_append.1 hchar with hname | hrest
  · exact List.any_eq_false.1 (accepted_name h).2.1 '/' hname hseparator
  · exact List.any_eq_false.1 htext '/' hrest hseparator

theorem name_ne_nil (h : refusal? s = none) (text : String) :
    Text.ofString (s.name ++ text) ≠ [] := by
  refine Text.encode_ne_nil fun hnil => ?_
  have hname : s.name.toList = [] := by
    rw [String.toList_append] at hnil
    exact (List.append_eq_nil_iff.1 hnil).1
  have := (accepted_name h).1
  simp [isBlankText, hname] at this

/-- What follows the name of the artifact in the name of its archive. -/
def archiveSuffix (s : Settings) (version : String) : String :=
  "_" ++ version ++ "." ++ s.format.extension

/-- The archive of a version lies in the directory for archives under a name of its own. -/
theorem archivePath_eq (h : refusal? s = none)
    (hversion : version.toList.any Text.isSeparator = false) :
    Pipeline.archivePath s version =
      s.releases.child (Text.ofString (s.name ++ archiveSuffix s version)) := by
  have hseparators : ("_" ++ version).toList.any Text.isSeparator = false := by
    rw [String.toList_append, List.any_append, hversion, Bool.or_false]
    decide
  have hslash := slash_not_mem_name h hseparators
  have hnil := name_ne_nil h ("_" ++ version)
  have hfirst : Path.isAbsolute ⟨Text.ofString (s.name ++ ("_" ++ version))⟩ = false :=
    Path.isAbsolute_part hslash
  have hsecond : Path.isAbsolute (Path.append ⟨Text.ofString (s.name ++ ("_" ++ version))⟩ ".") =
      false := by
    have hdot : slash ∉ Text.ofString (s.name ++ ("_" ++ version)) ++ Text.ofString "." := by
      simp only [List.mem_append, not_or]
      exact ⟨hslash, by decide⟩
    exact Path.isAbsolute_part hdot
  unfold Pipeline.archivePath archiveBase Format.archivePath
  rw [String.append_assoc, Path.ofString, Path.append_join hfirst hnil,
    Path.append_join hsecond (List.append_ne_nil_of_left_ne_nil hnil _)]
  simp [Path.child, Path.append, archiveSuffix, String.append_assoc]

theorem slash_not_mem_archiveName (h : refusal? s = none)
    (hversion : version.toList.any Text.isSeparator = false) :
    slash ∉ Text.ofString (s.name ++ archiveSuffix s version) := by
  refine slash_not_mem_name h ?_
  simp only [archiveSuffix, String.toList_append, List.any_append, hversion]
  cases s.format <;> decide

theorem underscore_mem_archiveName (s : Settings) (version : String) :
    (0x5F : UInt8) ∈ Text.ofString (s.name ++ archiveSuffix s version) := by
  have hmark : (0x5F : UInt8) ∈ Text.ofString "_" := by decide
  simp only [archiveSuffix, Text.ofString_append, List.mem_append]
  exact Or.inr (Or.inl (Or.inl (Or.inl hmark)))

/-- The name of an archive is an ordinary part of a path. -/
theorem archiveName_ordinary (s : Settings) (version : String) :
    Path.isIdle (Text.ofString (s.name ++ archiveSuffix s version)) = false ∧
      Text.ofString (s.name ++ archiveSuffix s version) ≠ [dot, dot] := by
  have hmark := underscore_mem_archiveName s version
  generalize Text.ofString (s.name ++ archiveSuffix s version) = bytes at hmark
  refine ⟨?_, ?_⟩
  · rw [Path.isIdle, Bool.or_eq_false_iff, beq_eq_false_iff_ne, beq_eq_false_iff_ne]
    constructor <;> rintro rfl <;> revert hmark <;> decide
  · rintro rfl
    revert hmark
    decide

/-- An archive is not called like its build output. -/
theorem archiveName_ne_name (s : Settings) (version : String) :
    Text.ofString (s.name ++ archiveSuffix s version) ≠ Text.ofString s.name := by
  rw [Text.ofString_append, ne_eq, List.append_right_eq_self]
  exact Text.encode_ne_nil (by simp [archiveSuffix])

/-- An archive is called like no staging file. -/
theorem archiveName_ne_staging (s : Settings) (version : String) (i : Nat) :
    Text.ofString (s.name ++ archiveSuffix s version) ≠ Bundle.stagingName i := by
  have hstaging : (Text.ofString ".partial").getLast? = some 0x6C := by decide
  obtain ⟨b, hextension, hb⟩ :
      ∃ b, (Text.ofString s.format.extension).getLast? = some b ∧ b ≠ 0x6C := by
    cases s.format with
    | zip => exact ⟨0x70, by decide, by decide⟩
    | tarGz => exact ⟨0x7A, by decide, by decide⟩
  intro hsame
  have hend := congrArg List.getLast? hsame
  simp only [archiveSuffix, Bundle.stagingName, Text.ofString_append, List.getLast?_append, hextension,
    hstaging, Option.some_or, Option.some.injEq] at hend
  exact hb hend

/-! ## Places below the root -/

namespace Usual

theorem slash_not_mem (h : s.Usual) : slash ∉ Text.ofString s.name := by
  have hempty : "".toList.any Text.isSeparator = false := by decide
  simpa using slash_not_mem_name h.accepted hempty

theorem name_ne_nil (h : s.Usual) : Text.ofString s.name ≠ [] := by
  simpa using Settings.name_ne_nil h.accepted ""

theorem under_license (h : s.Usual) : Path.Under s.root s.license [Name.license.bytes] := by
  rw [h.license]
  exact Path.under_child s.root (Name.slash_not_mem _) (Name.bytes_ne_nil _)

theorem under_readme (h : s.Usual) : Path.Under s.root s.readme [Name.readme.bytes] := by
  rw [h.readme]
  exact Path.under_child s.root (Name.slash_not_mem _) (Name.bytes_ne_nil _)

theorem under_releases (h : s.Usual) : Path.Under s.root s.releases [Name.dist.bytes] := by
  rw [h.releases]
  exact Path.under_child s.root (Name.slash_not_mem _) (Name.bytes_ne_nil _)

theorem under_output (h : s.Usual) :
    Path.Under s.root s.output [Name.dist.bytes, Text.ofString s.name] := by
  have hdist : Path.isAbsolute ⟨Name.dist.bytes⟩ = false :=
    Path.isAbsolute_part (Name.slash_not_mem _)
  have hbase : Path.base ⟨Name.dist.bytes⟩ = [Name.dist.bytes] :=
    Path.base_part (Name.slash_not_mem _) (Name.bytes_ne_nil _)
  have htwo : s.output = s.root.join (Path.child ⟨Name.dist.bytes⟩ (Text.ofString s.name)) := h.output
  rw [htwo]
  refine Path.under_join ?_ (Path.bytes_child_ne_nil _ h.slash_not_mem h.name_ne_nil) ?_ ?_
  · rw [Path.isAbsolute_child _ h.slash_not_mem, hdist]
  · rw [Path.base_child _ h.slash_not_mem h.name_ne_nil, hbase]
    rfl
  · rw [Path.steps_child _ h.slash_not_mem h.name_ne_nil, hbase]
    rfl

/-- The name of the manifest. -/
theorem under_manifest (h : s.Usual) :
    Path.Under s.root s.manifest
      [Name.src.bytes, Text.ofString s.name, Text.ofString (s.name ++ ".csproj")] := by
  have hfile : slash ∉ Text.ofString (s.name ++ ".csproj") :=
    slash_not_mem_name h.accepted (by decide)
  have hfileNil : Text.ofString (s.name ++ ".csproj") ≠ [] := Settings.name_ne_nil h.accepted _
  have hsrc : Path.isAbsolute ⟨Name.src.bytes⟩ = false := Path.isAbsolute_part (Name.slash_not_mem _)
  have hbase : Path.base ⟨Name.src.bytes⟩ = [Name.src.bytes] :=
    Path.base_part (Name.slash_not_mem _) (Name.bytes_ne_nil _)
  have hthree : s.manifest = s.root.join ((Path.child ⟨Name.src.bytes⟩ (Text.ofString s.name)).child
      (Text.ofString (s.name ++ ".csproj"))) := h.manifest
  rw [hthree]
  refine Path.under_join ?_ (Path.bytes_child_ne_nil _ hfile hfileNil) ?_ ?_
  · rw [Path.isAbsolute_child _ hfile, Path.isAbsolute_child _ h.slash_not_mem, hsrc]
  · rw [Path.base_child _ hfile hfileNil, Path.base_child _ h.slash_not_mem h.name_ne_nil, hbase]
    rfl
  · rw [Path.steps_child _ hfile hfileNil, Path.base_child _ h.slash_not_mem h.name_ne_nil, hbase]
    rfl

/-- The build output lies in the directory for archives. -/
theorem output_eq (h : s.Usual) : s.output = s.releases.child (Text.ofString s.name) := by
  rw [h.releases, ← Path.join_child _ Name.dist.slash_not_mem Name.dist.bytes_ne_nil h.slash_not_mem]
  exact h.output

theorem endsInSlash_releases (h : s.Usual) : s.releases.endsInSlash = false := by
  rw [h.releases]
  exact Path.endsInSlash_child _ Name.dist.slash_not_mem Name.dist.bytes_ne_nil

theorem parent_archive (h : s.Usual) (hversion : version.toList.any Text.isSeparator = false) :
    (Pipeline.archivePath s version).parent? = some s.releases := by
  rw [archivePath_eq h.accepted hversion, h.releases]
  exact Path.parent?_child (slash_not_mem_archiveName h.accepted hversion)
    (archiveName_ordinary s version).1 Name.dist.slash_not_mem (by decide)

/-- The artifact is not called `.`: its build output would be the directory for archives. -/
theorem name_ne_dot (h : s.Usual) : Text.ofString s.name ≠ [dot] := by
  intro hdot
  have hinside := (accepted_name h.accepted).2.2
  have hnil : s.releases.bytes ≠ [] := by
    rw [h.releases]
    exact Path.bytes_child_ne_nil _ Name.dist.slash_not_mem Name.dist.bytes_ne_nil
  have hsame : s.output.components = s.releases.components := by
    rw [h.output_eq, hdot, Path.components_child_part hnil (by decide)]
    simp [Path.component?, Path.isIdle]
  have hbegins : s.releases.components.isPrefixOf s.releases.components = true :=
    List.isPrefixOf_iff_prefix.2 (List.prefix_refl _)
  rw [Path.startsWith, hsame, hbegins] at hinside
  cases hinside

/-- A bundle with a name of its own is not called `..`. -/
theorem name_ne_dots (h : s.Usual) {root : Bytes} (hroot : s.output.fileName? = some root) :
    Text.ofString s.name ≠ [dot, dot] := by
  intro hdots
  have hnil : s.releases.bytes ≠ [] := by
    rw [h.releases]
    exact Path.bytes_child_ne_nil _ Name.dist.slash_not_mem Name.dist.bytes_ne_nil
  have hup : s.output.components = s.releases.components ++ [.up] := by
    rw [h.output_eq, hdots, Path.components_child_part hnil (by decide)]
    rfl
  rw [Path.fileName?, hup, List.getLast?_concat] at hroot
  cases hroot

theorem copyOf?_license (h : s.Usual) :
    Bundle.copyOf? s.output s.license = some (s.output.child Name.license.bytes) := by
  rw [Bundle.copyOf?, h.license, Path.fileName?_child]
  rfl

theorem copyOf?_readme (h : s.Usual) :
    Bundle.copyOf? s.output s.readme = some (s.output.child Name.readme.bytes) := by
  rw [Bundle.copyOf?, h.readme, Path.fileName?_child]
  rfl

theorem under_archive (h : s.Usual) (hversion : version.toList.any Text.isSeparator = false) :
    Path.Under s.root (Pipeline.archivePath s version)
      [Name.dist.bytes, Text.ofString (s.name ++ archiveSuffix s version)] := by
  rw [archivePath_eq h.accepted hversion]
  exact h.under_releases.child (slash_not_mem_archiveName h.accepted hversion)
    (Settings.name_ne_nil h.accepted _)

end Usual

end Settings

end ReleaseBundle
