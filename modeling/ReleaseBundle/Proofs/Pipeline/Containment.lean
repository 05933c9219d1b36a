import ReleaseBundle.Disk.Difference
import ReleaseBundle.Proofs.Disk.Plain
import ReleaseBundle.Proofs.Layout

/-!
# Archives outside of what they archive

Settings are refused if the components of the build output begin those of the directory for archives.
What should not happen is that the archive lies below the build output on the disk. Where a path leads on
a disk without links is decided by its components, so the two agree as long as both paths go on from a
common part by names alone. They do not agree in general: `a/../dist` and `dist` are one directory, `.`
holds everything, and an absolute path can name a place that a relative one names too.
-/

namespace ReleaseBundle

/-- Where one more component leads from a directory. A name that no directory can hold leads nowhere. -/
def Component.move? (at_ : Location) : Component → Option Location
  | root => some []
  | here => some at_
  | up => some at_.tail
  | name bytes => (Name.ofBytes? bytes).map (· :: at_)

/-- An ordinary name. -/
def Component.IsName (c : Component) : Prop := ∃ bytes, c = .name bytes

namespace Disk

variable {d : Disk} {follow : Bool} {links : Nat} {here at_ : Location} {parts : List Bytes} {spot : Spot}
  {p : Path} {node : Node}

/-- The location that a path denotes on a disk without links, whether anything is there or not. -/
def denoted? (d : Disk) (p : Path) : Option Location := p.components.foldlM Component.move? d.cwd

/-- The location `l` lies below the location `top`. -/
def Inside (top l : Location) : Prop := top <:+ l ∧ l ≠ top

theorem inside_cons_iff {top l : Location} {name : Name} : Inside top (name :: l) ↔ top <:+ l := by
  constructor
  · rintro ⟨hsuffix, hne⟩
    exact (List.suffix_cons_iff.1 hsuffix).resolve_left hne.symm
  · intro hsuffix
    refine ⟨hsuffix.trans (List.suffix_cons _ _), fun hsame => ?_⟩
    have hlength := hsuffix.length_le
    rw [← hsame, List.length_cons] at hlength
    omega

/-- A lookup without links ends where the components lead. -/
theorem Route.foldlM_move? (hplain : d.Plain) (h : Route d follow links here parts spot) :
    (parts.filterMap Path.component?).foldlM Component.move? here = some spot.location := by
  induction h with
  | arrived _ _ => rfl
  | stay _ ih => exact ih
  | ascend _ ih => exact ih
  | enter name _ _ ih =>
    rw [List.filterMap_cons, Path.component?_name]
    simpa [Component.move?, Name.ofBytes?_bytes] using ih
  | file name _ =>
    rw [List.filterMap_cons, Path.component?_name]
    simp [Component.move?, Name.ofBytes?_bytes, Spot.location]
  | link name _ hnode => exact absurd hnode (hplain _ _)
  | jump name hnode _ _ _ _ => exact absurd hnode (hplain _ _)
  | vacant name _ =>
    rw [List.filterMap_cons, Path.component?_name]
    simp [Component.move?, Name.ofBytes?_bytes, Spot.location]

theorem filterMap_component?_filter (ss : List Bytes) :
    (ss.filter (· != [])).filterMap Path.component? = ss.filterMap Path.component? := by
  induction ss with
  | nil => rfl
  | cons s ss ih =>
    rw [List.filter_cons]
    split
    · rw [List.filterMap_cons, List.filterMap_cons, ih]
    · next hnil =>
      have hnil : s = [] := by simpa using hnil
      rw [hnil, ih]
      rfl

theorem filterMap_component?_steps (p : Path) :
    p.steps.filterMap Path.component? = p.segments.filterMap Path.component? := by
  rw [Path.steps, List.filterMap_append, filterMap_component?_filter]
  split
  · exact List.append_nil _
  · exact List.append_nil _

/-- The components of a path lead where its parts lead from where the path starts. -/
theorem denoted?_eq (d : Disk) (p : Path) :
    d.denoted? p = (p.steps.filterMap Path.component?).foldlM Component.move? (start d.cwd p) := by
  rw [filterMap_component?_steps, denoted?, Path.components, start]
  cases habs : p.isAbsolute with
  | true => simp [Component.move?]
  | false =>
    cases hsegments : p.segments with
    | nil => simp
    | cons first rest =>
      by_cases hdot : first = [Path.dot]
      · subst hdot
        simp [Component.move?, Path.component?, Path.isIdle]
      · simp [hdot]

theorem denoted?_of_locate (hplain : d.Plain) (h : d.locate p follow = .ok spot) :
    d.denoted? p = some spot.location := by
  rw [denoted?_eq]
  exact (locate_eq_ok_iff.1 h).2.foldlM_move? hplain

theorem denoted?_of_stat (hplain : d.Plain) (h : d.stat p = .ok (at_, node)) : d.denoted? p = some at_ :=
  denoted?_of_locate hplain (stat_eq_ok_iff_locate.1 h)

end Disk

namespace Component

variable {here at_ l : Location} {cs o r : List Component}

/-- Names lead down by themselves. -/
theorem foldlM_names (hnames : ∀ c ∈ cs, c.IsName) (h : cs.foldlM move? here = some at_) :
    ∃ names : List Name, cs = names.map (fun n => .name n.bytes) ∧ at_ = names.reverse ++ here := by
  induction cs generalizing here with
  | nil =>
    cases h
    exact ⟨[], rfl, rfl⟩
  | cons c cs ih =>
    obtain ⟨bytes, rfl⟩ := hnames c List.mem_cons_self
    rw [List.foldlM_cons] at h
    obtain ⟨next, hnext, hrest⟩ := Option.bind_eq_some_iff.1 h
    obtain ⟨name, hname, rfl⟩ := Option.map_eq_some_iff.1 hnext
    obtain ⟨names, rfl, rfl⟩ := ih (fun c hc => hnames c (List.mem_cons_of_mem _ hc)) hrest
    rw [← Name.ofBytes?_eq_some_iff.1 hname]
    exact ⟨name :: names, rfl, by simp⟩

/-- From one directory, names lead into a place only along its own names. -/
theorem prefix_of_suffix (ho : ∀ c ∈ o, c.IsName) (hr : ∀ c ∈ r, c.IsName)
    (htop : o.foldlM move? here = some at_) (hbelow : r.foldlM move? here = some l) (h : at_ <:+ l) :
    o <+: r := by
  obtain ⟨names, rfl, rfl⟩ := foldlM_names ho htop
  obtain ⟨names', rfl, rfl⟩ := foldlM_names hr hbelow
  rw [List.suffix_append_self_iff, List.reverse_suffix] at h
  exact h.map _

end Component

namespace Path

/-- Two paths go on from a common part by names alone. -/
def Comparable (p q : Path) : Prop :=
  ∃ front o r, p.components = front ++ o ∧ q.components = front ++ r ∧ (∀ c ∈ o, c.IsName) ∧
    ∀ c ∈ r, c.IsName

/-- An ordinary part behind a path is one more name. -/
theorem components_child_ordinary {p : Path} {part : Bytes} (hslash : slash ∉ part)
    (hidle : isIdle part = false) (hdots : part ≠ [dot, dot]) :
    (p.child part).components = p.components ++ [.name part] := by
  have hcomponent : component? part = some (.name part) := by simp [component?, hidle, hdots]
  by_cases hnil : p.bytes = []
  · have hdot : part ≠ [dot] := by
      rintro rfl
      simp [isIdle] at hidle
    have hfirst : (⟨part⟩ : Path).components = [.name part] := by
      rw [components_eq, isAbsolute_part hslash, segments, splitSlash_of_not_mem hslash]
      simp [componentsOf, hdot, hcomponent]
    have hempty : p.components = [] := by
      simp [components, isAbsolute, segments, splitSlash, hnil, component?, isIdle]
    rw [child, join_of_nil (isAbsolute_part hslash) hnil, hfirst, hempty, List.nil_append]
  · rw [components_child_part hnil hslash, hcomponent]
    rfl

end Path

namespace Settings

open Disk (Inside)

variable {s : Settings} {d : Disk} {version : String} {out dir at_ : Location}

/-- For comparable paths the test of the components is a test of the places. -/
theorem startsWith_of_suffix (h : s.output.Comparable s.releases) (hout : d.denoted? s.output = some out)
    (hdir : d.denoted? s.releases = some dir) (hbelow : out <:+ dir) :
    s.releases.startsWith s.output = true := by
  obtain ⟨front, o, r, ho, hr, hnames, hnames'⟩ := h
  rw [Disk.denoted?, ho, List.foldlM_append] at hout
  rw [Disk.denoted?, hr, List.foldlM_append] at hdir
  obtain ⟨here, hhere, htop⟩ := Option.bind_eq_some_iff.1 hout
  obtain ⟨here', hhere', hlast⟩ := Option.bind_eq_some_iff.1 hdir
  obtain rfl := Option.some.inj (hhere.symm.trans hhere')
  rw [Path.startsWith, List.isPrefixOf_iff_prefix, ho, hr, List.prefix_append_right_inj]
  exact Component.prefix_of_suffix hnames hnames' htop hlast hbelow

/-- The place of an archive is an entry of the place of the directory for archives. -/
theorem denoted?_archivePath (haccepted : refusal? s = none)
    (hversion : version.toList.any Text.isSeparator = false)
    (harchive : d.denoted? (Pipeline.archivePath s version) = some at_) :
    ∃ dir name, d.denoted? s.releases = some dir ∧ at_ = name :: dir := by
  obtain ⟨hidle, hdots⟩ := archiveName_ordinary s version
  rw [Disk.denoted?, archivePath_eq haccepted hversion,
    Path.components_child_ordinary (slash_not_mem_archiveName haccepted hversion) hidle hdots,
    List.foldlM_append] at harchive
  obtain ⟨dir, hdir, hlast⟩ := Option.bind_eq_some_iff.1 harchive
  rw [List.foldlM_cons] at hlast
  obtain ⟨_, hmove, hend⟩ := Option.bind_eq_some_iff.1 hlast
  obtain ⟨name, _, rfl⟩ := Option.map_eq_some_iff.1 hmove
  cases hend
  exact ⟨dir, name, hdir, rfl⟩

/-- On a disk without links the archive of accepted settings lies below the build output exactly if the
directory for archives is the build output or lies below it, and never if the two paths go on from a
common part by names alone. -/
theorem archive_outside_output (c : Choices) (hsettings : c.settings = .ok s)
    (hversion : version.toList.any Text.isSeparator = false) (hplain : d.Plain)
    (houtput : d.stat s.output = .ok (out, .directory))
    (harchive : d.denoted? (Pipeline.archivePath s version) = some at_) :
    (Inside out at_ ↔ ∃ dir, d.denoted? s.releases = some dir ∧ out <:+ dir) ∧
      (s.output.Comparable s.releases → ¬ Inside out at_) := by
  have haccepted : refusal? s = none := by
    unfold Choices.settings at hsettings
    split at hsettings
    · cases hsettings
    · next hnone =>
      cases hsettings
      exact hnone
  obtain ⟨dir, name, hdir, rfl⟩ := denoted?_archivePath haccepted hversion harchive
  rw [Disk.inside_cons_iff]
  refine ⟨⟨fun hbelow => ⟨dir, hdir, hbelow⟩, ?_⟩, fun hcomparable hbelow => ?_⟩
  · rintro ⟨dir', hdir', hbelow⟩
    rw [hdir] at hdir'
    cases hdir'
    exact hbelow
  · have hstarts := startsWith_of_suffix hcomparable (Disk.denoted?_of_stat hplain houtput) hdir hbelow
    rw [(accepted_name haccepted).2.2] at hstarts
    cases hstarts

/-- Choices for which the build output is the directory for archives, in another spelling. -/
def roundabout : Choices :=
  { root := .ofString "", name := some "W", output := some (.ofString "a/../dist"),
    releases := some (.ofString "dist") }

/-- The choice of a name alone. -/
def plainly : Choices := { root := .ofString "../w", name := some "W" }

/-- A disk with the directories of both, seen from `w`. -/
def workshop : Disk :=
  { Disk.place (Disk.locationOf (.ofString "w/a")) .directory
      (Disk.place (Disk.locationOf (.ofString "w/dist/W")) .directory .empty) with
    cwd := Disk.locationOf (.ofString "w") }

/-- The archive of the first choices lies in the directory that it archives; that of the second ones lies
beside it. -/
theorem roundabout_archive_inside :
    roundabout.settings = .ok roundabout.resolved ∧ workshop.Plain ∧
      (∃ out at_, workshop.stat roundabout.resolved.output = .ok (out, .directory) ∧
        workshop.denoted? (Pipeline.archivePath roundabout.resolved "1") = some at_ ∧ Inside out at_) ∧
      ∃ out at_, workshop.stat plainly.resolved.output = .ok (out, .directory) ∧
        workshop.denoted? (Pipeline.archivePath plainly.resolved "1") = some at_ ∧ ¬ Inside out at_ := by
  have hfirst : roundabout.settings = .ok roundabout.resolved := by decide +kernel
  have hsecond : plainly.settings = .ok plainly.resolved := by decide +kernel
  have hplain : workshop.Plain := by decide +kernel
  obtain ⟨out, houtput⟩ : ∃ out, workshop.stat roundabout.resolved.output = .ok (out, .directory) :=
    Disk.isDirectory_iff.1 (by decide +kernel)
  obtain ⟨out', houtput'⟩ : ∃ out, workshop.stat plainly.resolved.output = .ok (out, .directory) :=
    Disk.isDirectory_iff.1 (by decide +kernel)
  obtain ⟨at_, harchive⟩ : ∃ at_, workshop.denoted? (Pipeline.archivePath roundabout.resolved "1") = some at_ :=
    Option.isSome_iff_exists.1 (by decide +kernel)
  obtain ⟨at', harchive'⟩ : ∃ at_, workshop.denoted? (Pipeline.archivePath plainly.resolved "1") = some at_ :=
    Option.isSome_iff_exists.1 (by decide +kernel)
  refine ⟨hfirst, hplain, ⟨out, at_, houtput, harchive, ?_⟩, out', at', houtput', harchive', ?_⟩
  · have hsame : workshop.denoted? roundabout.resolved.releases =
        workshop.denoted? roundabout.resolved.output := by decide +kernel
    refine ((archive_outside_output roundabout hfirst rfl hplain houtput harchive).1).2 ⟨out, ?_, ?_⟩
    · rw [hsame]
      exact Disk.denoted?_of_stat hplain houtput
    · exact List.suffix_refl out
  · refine (archive_outside_output plainly hsecond rfl hplain houtput' harchive').2 ?_
    refine ⟨[.up, .name (Text.ofString "w"), .name (Text.ofString "dist")], [.name (Text.ofString "W")], [],
      by decide +kernel, by decide +kernel, ?_, by simp⟩
    simp [Component.IsName]

end Settings

end ReleaseBundle
