import ReleaseBundle.Proofs.Bundle.AllOrNothing
import ReleaseBundle.Proofs.Bytes.Encoding
import ReleaseBundle.Proofs.Pipeline.Containment
import ReleaseBundle.Proofs.Pipeline.Failure
import ReleaseBundle.Proofs.Version

/-!
# Names of archives

The name of an archive is made of the name of the artifact, the version and the extension. Neither of the
first two holds a separator, and the text around them keeps the whole from being empty, `.` or `..`, so it
is one ordinary component behind the directory for archives. From it the version and the format can be
read back: the last letter tells the formats apart, and what is left of the text is the version. Archives
of different versions or formats therefore never meet, wherever the directory for archives leads.
-/

namespace ReleaseBundle

namespace Disk

variable {d : Disk} {p : Path} {part : Bytes} {spot : Spot}

/-- An ordinary part behind a path names an entry of the directory that the path leads to, if it names
anything. A link at the end is left alone. -/
theorem locate_child_part (hslash : Path.slash ∉ part) (hidle : Path.isIdle part = false)
    (hdots : part ≠ [Path.dot, Path.dot]) (h : d.locate (p.child part) false = .ok spot) :
    ∃ name dir, name.bytes = part ∧ spot.location = name :: dir ∧
      ((p.bytes = [] ∧ dir = d.cwd) ∨ d.stat p = .ok (dir, .directory)) := by
  simp only [Path.isIdle, Bool.or_eq_false_iff, beq_eq_false_iff_ne] at hidle
  obtain ⟨hnil, hdot⟩ := hidle
  obtain ⟨hnone, hroute⟩ := locate_eq_ok_iff.1 h
  rw [Path.steps_child p hslash hnil] at hroute
  obtain ⟨dir, more, hfront, hlast, _⟩ := hroute.cut (by simp)
  have hresolve := hlast.resolve
  obtain hpart | hpart | ⟨name, rfl⟩ | ⟨hbad, _⟩ := part_cases part
  · exact absurd hpart hdot
  · exact absurd hpart hdots
  · refine ⟨name, dir, rfl, ?_, ?_⟩
    · rw [resolve_name] at hresolve
      split at hresolve
      · rw [resolve_nil] at hresolve
        cases hresolve
        rfl
      · simp only [if_true, Except.ok.injEq] at hresolve
        cases hresolve
        rfl
      · simp only [and_self, if_true, Except.ok.injEq] at hresolve
        cases hresolve
        rfl
      · simp only [if_true, Except.ok.injEq] at hresolve
        cases hresolve
        rfl
    · rw [start_child] at hfront
      by_cases hempty : p.bytes = []
      · left
        have hbase : p.base = [] := by simp [Path.base, Path.segments, hempty, Path.splitSlash]
        have hstart : start d.cwd p = d.cwd := by simp [start, Path.isAbsolute, hempty]
        rw [hbase, hstart] at hfront
        cases hfront
        exact ⟨hempty, rfl⟩
      · right
        exact stat_eq_directory_iff.2 ⟨refusal?_of_child hempty hnone, hfront⟩
  · rw [resolve_badName hbad hdot hdots] at hresolve
    cases hresolve

end Disk

namespace Settings

variable {s : Settings} {version version' : String} {f f' : Format}

/-- The archive of a version, in a format that need not be the one of the settings. -/
def archiveOf (s : Settings) (version : String) (f : Format) : Path :=
  f.archivePath (s.archiveBase version)

/-- What the archive of a version is called. -/
def archiveName (s : Settings) (version : String) (f : Format) : String :=
  s.name ++ "_" ++ version ++ "." ++ f.extension

theorem accepted_of_choices {c : Choices} (h : c.settings = .ok s) : refusal? s = none := by
  unfold Choices.settings at h
  split at h
  · cases h
  · next hnone =>
    cases h
    exact hnone

theorem archiveName_eq (s : Settings) (version : String) (f : Format) :
    s.archiveName version f = s.name ++ archiveSuffix { s with format := f } version := by
  simp only [archiveName, archiveSuffix, String.append_assoc]

/-- The archive is an entry of the directory for archives. -/
theorem archiveOf_eq (h : refusal? s = none) (hversion : version.toList.any Text.isSeparator = false)
    (f : Format) :
    s.archiveOf version f = s.releases.child (Text.ofString (s.archiveName version f)) := by
  rw [archiveName_eq]
  exact @archivePath_eq { s with format := f } version h hversion

/-- The name of an archive is one ordinary part of a path. -/
theorem archiveName_part (h : refusal? s = none)
    (hversion : version.toList.any Text.isSeparator = false) (f : Format) :
    Path.slash ∉ Text.ofString (s.archiveName version f) ∧
      Path.isIdle (Text.ofString (s.archiveName version f)) = false ∧
      Text.ofString (s.archiveName version f) ≠ [Path.dot, Path.dot] := by
  rw [archiveName_eq]
  exact ⟨@slash_not_mem_archiveName { s with format := f } version h hversion,
    archiveName_ordinary { s with format := f } version⟩

theorem components_archiveOf (h : refusal? s = none)
    (hversion : version.toList.any Text.isSeparator = false) (f : Format) :
    (s.archiveOf version f).components =
      s.releases.components ++ [.name (Text.ofString (s.archiveName version f))] := by
  obtain ⟨hslash, hidle, hdots⟩ := archiveName_part h hversion f
  rw [archiveOf_eq h hversion, Path.components_child_ordinary hslash hidle hdots]

/-- The name of an archive tells its version and its format. -/
theorem archiveName_injective (h : s.archiveName version f = s.archiveName version' f') :
    version = version' ∧ f = f' := by
  simp only [archiveName, String.append_assoc] at h
  have hrest := (String.append_right_inj "_").1 ((String.append_right_inj s.name).1 h)
  obtain rfl : f = f' := by
    have hlast := congrArg (fun text => text.toList.getLast?) hrest
    cases f <;> cases f' <;> first | rfl | simp [Format.extension] at hlast
  exact ⟨(String.append_left_inj _).1 hrest, rfl⟩

theorem archiveOf_injective (h : refusal? s = none)
    (hversion : version.toList.any Text.isSeparator = false)
    (hversion' : version'.toList.any Text.isSeparator = false)
    (hsame : (s.archiveOf version f).components = (s.archiveOf version' f').components) :
    version = version' ∧ f = f' := by
  rw [components_archiveOf h hversion, components_archiveOf h hversion', List.append_cancel_left_eq,
    List.cons.injEq, Component.name.injEq] at hsame
  exact archiveName_injective (Text.ofString_injective hsame.1)

/-! ## Archives on a disk -/

/-- Where an archive is put: an entry with its name, in the directory that the one for archives leads to. -/
theorem locate_archiveOf {d : Disk} {spot : Spot} (h : refusal? s = none)
    (hversion : version.toList.any Text.isSeparator = false)
    (hspot : d.locate (s.archiveOf version f) false = .ok spot) :
    ∃ name dir, name.bytes = Text.ofString (s.archiveName version f) ∧
      spot.location = name :: dir ∧
      ((s.releases.bytes = [] ∧ dir = d.cwd) ∨ d.stat s.releases = .ok (dir, .directory)) := by
  obtain ⟨hslash, hidle, hdots⟩ := archiveName_part h hversion f
  rw [archiveOf_eq h hversion] at hspot
  exact Disk.locate_child_part hslash hidle hdots hspot

/-- The archives of different versions or formats have different places, on one disk or on two. -/
theorem location_archiveOf_ne {d e : Disk} {spot spot' : Spot} (h : refusal? s = none)
    (hversion : version.toList.any Text.isSeparator = false)
    (hversion' : version'.toList.any Text.isSeparator = false) (hother : (version', f') ≠ (version, f))
    (hspot : d.locate (s.archiveOf version f) false = .ok spot)
    (hspot' : e.locate (s.archiveOf version' f') false = .ok spot') : spot'.location ≠ spot.location := by
  obtain ⟨name, dir, hname, hnew, _⟩ := locate_archiveOf h hversion hspot
  obtain ⟨name', dir', hname', hold, _⟩ := locate_archiveOf h hversion' hspot'
  intro hsame
  rw [hnew, hold, List.cons.injEq] at hsame
  have hnames : Text.ofString (s.archiveName version f) = Text.ofString (s.archiveName version' f') := by
    rw [← hname, ← hsame.1, hname']
  obtain ⟨rfl, rfl⟩ := archiveName_injective (Text.ofString_injective hnames)
  exact hother rfl

/-- An archive that was packed leaves those of other versions and formats as they are. -/
theorem packed_spares {medium : Bundle.Medium} {d ground e : Disk} {source : Path} {entries : List Bundle.Entry}
    {items : List Item} {place at_ : Location} {n : Nat} (h : refusal? s = none)
    (hversion : version.toList.any Text.isSeparator = false)
    (hversion' : version'.toList.any Text.isSeparator = false) (hother : (version', f') ≠ (version, f))
    (hthere : d.lstat (s.archiveOf version' f') = .ok (at_, .file n))
    (hpacked : Bundle.Packed medium d source (s.archiveOf version f) f entries items ground place e) :
    e.node? at_ = some (.file n) ∧ e.data n = d.data n := by
  have hinPlace := hpacked.inPlace
  obtain ⟨spot, hspot, hplace⟩ := hinPlace.named
  have hlocate := Disk.lstat_eq_ok_iff_locate.1 hthere
  have helse : at_ ≠ place := hplace ▸ location_archiveOf_ne h hversion hversion' hother hspot hlocate
  exact hinPlace.elsewhere helse (Disk.locate_holds hlocate)

/-- Writing the archive of one version and format leaves those of the others as they are. -/
theorem writeArchive_spares {d : Disk} {source path : Path} {at_ : Location} {n : Nat}
    (h : refusal? s = none) (hversion : version.toList.any Text.isSeparator = false)
    (hversion' : version'.toList.any Text.isSeparator = false) (hother : (version', f') ≠ (version, f))
    (hthere : d.lstat (s.archiveOf version' f') = .ok (at_, .file n))
    (hwritten : (Bundle.writeArchive source (s.archiveBase version) f d).result = .ok path) :
    (Bundle.writeArchive source (s.archiveBase version) f d).disk.node? at_ = some (.file n) ∧
      (Bundle.writeArchive source (s.archiveBase version) f d).disk.data n = d.data n := by
  obtain ⟨rfl, entries, items, ground, place, hpacked⟩ :=
    (Bundle.writeArchive_ends source (s.archiveBase version) f d).of_ok hwritten
  exact packed_spares h hversion hversion' hother hthere hpacked

end Settings

namespace Pipeline

variable {s : Settings} {version version' : String} {f' : Format} {d : Disk} {p : Progress Verdict}
  {at_ : Location} {n : Nat}

/-- Archiving one version leaves the archives of the others as they are, also if it fails. -/
theorem archive_spares (h : Settings.refusal? s = none)
    (hversion : version.toList.any Text.isSeparator = false)
    (hversion' : version'.toList.any Text.isSeparator = false) (hother : (version', f') ≠ (version, s.format))
    (hthere : d.lstat (s.archiveOf version' f') = .ok (at_, .file n)) :
    (archive s version d).disk.node? at_ = some (.file n) ∧ (archive s version d).disk.data n = d.data n := by
  have hends := archive_ends s version d
  have hnode := Disk.locate_holds (Disk.lstat_eq_ok_iff_locate.1 hthere)
  cases hresult : (archive s version d).result with
  | error x =>
    rcases hends.of_error hresult with hgrown | ⟨_, _, _, _, _, _, hpacked, _⟩
    · exact ⟨hgrown.kept _ _ hnode, hgrown.data_eq hnode⟩
    · exact Settings.packed_spares h hversion hversion' hother hthere hpacked
  | ok a =>
    obtain ⟨_, _, _, _, hpacked, _⟩ := hends.of_ok hresult
    exact Settings.packed_spares h hversion hversion' hother hthere hpacked

/-- However a run goes on after its build, it leaves an archive as it is that is not the one it writes, unless
a copy of a document is the same file. -/
theorem Bundling.spares (hbundling : Bundling s d p) (h : Settings.refusal? s = none)
    (hversion' : version'.toList.any Text.isSeparator = false)
    (hother : ∀ version, Manifest.findVersion (assembly s d).disk s.manifest = .ok version →
      (version', f') ≠ (version, s.format))
    (hthere : d.lstat (s.archiveOf version' f') = .ok (at_, .file n))
    (hcopies : ∀ c ∈ s.copies, ∀ l, d.stat c ≠ .ok (l, .file n)) :
    p.account.disk.node? at_ = some (.file n) ∧ p.account.disk.data n = d.data n := by
  have hgrown := assembly_extends s d
  have hnode := Disk.locate_holds (Disk.lstat_eq_ok_iff_locate.1 hthere)
  have hkept : (assembly s d).disk.node? at_ = some (.file n) := hgrown.kept _ _ hnode
  have hdata : (assembly s d).disk.data n = d.data n := Bundle.assemble_data hnode hcopies
  have harchive : ∀ version, Manifest.findVersion (assembly s d).disk s.manifest = .ok version →
      p.account.disk = (archive s version (assembly s d).disk).disk →
      p.account.disk.node? at_ = some (.file n) ∧ p.account.disk.data n = d.data n := by
    intro version hfound hdisk
    rw [hdisk, ← hdata]
    exact archive_spares h (Manifest.findVersion_separators hfound) hversion' (hother version hfound)
      (hgrown.lstat hthere)
  cases hbundling with
  | unassembled _ _ _ hdisk =>
    rw [hdisk]
    exact ⟨hkept, hdata⟩
  | unversioned _ _ _ _ hdisk =>
    rw [hdisk]
    exact ⟨hkept, hdata⟩
  | unarchived version _ _ hfound _ _ _ hdisk => exact harchive version hfound hdisk
  | released version _ _ hfound _ _ hdisk => exact harchive version hfound hdisk

end Pipeline

namespace Orchestrator

/-- A run leaves the archives of versions and formats other than its own as the invoker left them, unless a
copy of a document is the same file. -/
theorem run_spares {σ : Type} {o : Orchestrator σ} {d : Disk} {version' : String} {f' : Format}
    {at_ : Location} {n : Nat} (h : Settings.refusal? o.settings = none)
    (hversion' : version'.toList.any Text.isSeparator = false)
    (hother : ∀ version,
      Manifest.findVersion (Pipeline.assembly o.settings (o.built d).disk).disk o.settings.manifest =
        .ok version → (version', f') ≠ (version, o.settings.format))
    (hthere : (o.built d).disk.lstat (o.settings.archiveOf version' f') = .ok (at_, .file n))
    (hcopies : ∀ c ∈ o.settings.copies, ∀ l, (o.built d).disk.stat c ≠ .ok (l, .file n)) :
    (o.run d).2.account.disk.node? at_ = some (.file n) ∧
      (o.run d).2.account.disk.data n = (o.built d).disk.data n := by
  have hnode := Disk.locate_holds (Disk.lstat_eq_ok_iff_locate.1 hthere)
  cases o.course d with
  | unavailable _ _ _ hdisk =>
    rw [hdisk]
    exact ⟨hnode, rfl⟩
  | unbuilt _ _ _ _ hdisk =>
    rw [hdisk]
    exact ⟨hnode, rfl⟩
  | built _ _ _ hbundling => exact hbundling.spares h hversion' hother hthere hcopies

end Orchestrator

namespace Settings

variable {s : Settings} {version version' : String} {f f' : Format}

/-- Whatever version is read from whatever manifest, the archive of accepted settings is one ordinary
component behind the directory for archives, called after the artifact, the version and the format. On a
disk it is an entry of the directory that the one for archives leads to. Two versions or formats never
share an archive, and writing one of them does not touch the others. Nor does a whole run, unless a copy of
a document is the same file as one of them. -/
theorem archive_confined (c : Choices) (hsettings : c.settings = .ok s) {manifest : Path} {d : Disk}
    (hversion : (Manifest.readVersion manifest d).result = .ok version) (f : Format) :
    (∃ bytes, (s.archiveOf version f).components = s.releases.components ++ [.name bytes] ∧
      bytes = Text.ofString (s.name ++ "_" ++ version ++ "." ++ f.extension) ∧
      Path.slash ∉ bytes ∧ bytes ≠ [] ∧ bytes ≠ [Path.dot] ∧ bytes ≠ [Path.dot, Path.dot]) ∧
    (∀ (e : Disk) (spot : Spot), e.locate (s.archiveOf version f) false = .ok spot →
      ∃ name dir, name.bytes = Text.ofString (s.name ++ "_" ++ version ++ "." ++ f.extension) ∧
        spot.location = name :: dir ∧
        ((s.releases.bytes = [] ∧ dir = e.cwd) ∨ e.stat s.releases = .ok (dir, .directory))) ∧
    ∀ (manifest' : Path) (d' : Disk) (version' : String) (f' : Format),
      (Manifest.readVersion manifest' d').result = .ok version' →
      ((s.archiveOf version' f').components = (s.archiveOf version f).components →
        version' = version ∧ f' = f) ∧
      ((version', f') ≠ (version, f) → ∀ (source path : Path) (e : Disk) (at_ : Location) (n : Nat),
        e.lstat (s.archiveOf version' f') = .ok (at_, .file n) →
        (Bundle.writeArchive source (s.archiveBase version) f e).result = .ok path →
        (Bundle.writeArchive source (s.archiveBase version) f e).disk.node? at_ = some (.file n) ∧
          (Bundle.writeArchive source (s.archiveBase version) f e).disk.data n = e.data n) ∧
      ∀ (σ : Type) (o : Orchestrator σ) (e : Disk) (at_ : Location) (n : Nat), o.settings = s →
        (∀ found,
          Manifest.findVersion (Pipeline.assembly s (o.built e).disk).disk s.manifest = .ok found →
            (version', f') ≠ (found, s.format)) →
        (o.built e).disk.lstat (s.archiveOf version' f') = .ok (at_, .file n) →
        (∀ c ∈ s.copies, ∀ l, (o.built e).disk.stat c ≠ .ok (l, .file n)) →
        (o.run e).2.account.disk.node? at_ = some (.file n) ∧
          (o.run e).2.account.disk.data n = (o.built e).disk.data n := by
  have haccepted := accepted_of_choices hsettings
  rw [Manifest.readVersion_result] at hversion
  have hseparators := Manifest.findVersion_separators hversion
  obtain ⟨hslash, hidle, hdots⟩ := archiveName_part haccepted hseparators f
  simp only [Path.isIdle, Bool.or_eq_false_iff, beq_eq_false_iff_ne] at hidle
  refine ⟨⟨_, components_archiveOf haccepted hseparators f, rfl, hslash, hidle.1, hidle.2, hdots⟩,
    fun e spot hspot => locate_archiveOf haccepted hseparators hspot, ?_⟩
  intro manifest' d' version' f' hversion'
  rw [Manifest.readVersion_result] at hversion'
  have hseparators' := Manifest.findVersion_separators hversion'
  refine ⟨?_, ?_, ?_⟩
  · intro hsame
    exact archiveOf_injective haccepted hseparators' hseparators hsame
  · intro hother source path e at_ n hthere hwritten
    exact writeArchive_spares haccepted hseparators hseparators' hother hthere hwritten
  · rintro σ o e at_ n rfl hother hthere hcopies
    exact o.run_spares haccepted hseparators' hother hthere hcopies

/-- The choice of the name `..` alone. -/
def upward : Choices := { root := .ofString "", name := some ".." }

/-- A disk with a manifest that declares the version `..`. -/
def upwardManifest : Disk :=
  Disk.placeFile (Disk.locationOf (.ofString "m"))
    { content := Text.ofString "<Version> .. </Version>", mode := 0o644 } .empty

/-- Names and versions that lead upward by themselves do not do so in the name of an archive. -/
theorem upward_archive_confined :
    upward.settings = .ok upward.resolved ∧
      (Manifest.readVersion (.ofString "m") upwardManifest).result = .ok ".." ∧
      (upward.resolved.archiveOf ".." .zip).components =
        [.name (Text.ofString "dist"), .name (Text.ofString ".._...zip")] := by
  have hsettings : upward.settings = .ok upward.resolved := by decide +kernel
  have hversion : (Manifest.readVersion (.ofString "m") upwardManifest).result = .ok ".." := by
    rw [Manifest.readVersion_result]
    decide +kernel
  obtain ⟨_, hcomponents, rfl, _⟩ := (archive_confined upward hsettings hversion .zip).1
  refine ⟨hsettings, hversion, hcomponents.trans ?_⟩
  decide +kernel

end Settings

end ReleaseBundle
