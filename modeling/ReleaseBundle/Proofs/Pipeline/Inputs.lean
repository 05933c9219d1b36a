import ReleaseBundle.Proofs.Bundle.Overwriting
import ReleaseBundle.Proofs.Disk.Files
import ReleaseBundle.Proofs.Pipeline.Places

/-!
# What a run does to its own inputs

The license, the readme and the manifest are read by a run and should come out of it as they were. A
copy empties its destination before it reads its source, so an input is in danger exactly where the
destination of a copy is the input itself: through a hard link, or because the artifact is called `..`,
which makes the build output the project root.
-/

namespace ReleaseBundle

namespace Disk

variable {d e : Disk} {p q : Path} {at_ l : Location} {n : Nat}

/-- The owner may read and write the file that a path leads to. -/
def Rewritable (d : Disk) (p : Path) : Prop :=
  ∃ l n, d.stat p = .ok (l, .file n) ∧ (d.data n).ownerReads = true ∧
    (d.data n).ownerWrites = true ∧ (d.data n).readFault = none

/-- A path led to a file and still leads to it, with the same contents. -/
def Keeps (d e : Disk) (p : Path) : Prop := ∀ bytes, d.bytesAt p = some bytes → e.bytesAt p = some bytes

theorem Keeps.of_stat (h : ∀ l n, d.stat p = .ok (l, .file n) →
    e.stat p = .ok (l, .file n) ∧ e.data n = d.data n) : Keeps d e p := by
  intro bytes hbytes
  obtain ⟨l, n, hstat, rfl⟩ := bytesAt_eq_some_iff.1 hbytes
  obtain ⟨hstat', hdata⟩ := h l n hstat
  exact bytesAt_eq_some_iff.2 ⟨l, n, hstat', by rw [hdata]⟩

end Disk

namespace Pipeline

open Disk (landing)

variable {s : Settings} {d : Disk} {p : Progress Verdict} {version : String} {i : Path} {at_ : Location}
  {n : Nat}

/-- What a run does after assembling changes no file, except in the place of the archive. -/
theorem archive_keeps (husual : s.Usual) (hplain : d.Plain)
    (hversion : version.toList.any Text.isSeparator = false) (helse : at_ ≠ archivePlace s d version)
    (hstat : d.stat i = .ok (at_, .file n)) :
    (archive s version d).disk.stat i = .ok (at_, .file n) ∧
      (archive s version d).disk.data n = d.data n := by
  have hends := archive_ends s version d
  cases hresult : (archive s version d).result with
  | error x =>
    rcases hends.of_error hresult with hgrown | ⟨_, _, _, ground, at', target, hpacked, hlink⟩
    · exact ⟨hgrown.stat hstat, hgrown.data_eq (Disk.node?_of_stat hstat)⟩
    · exact absurd hlink (hpacked.grown.plain hplain at' target)
  | ok a =>
    obtain ⟨_, _, ground, at', hpacked, _⟩ := hends.of_ok hresult
    have hplace : at' = archivePlace s d version :=
      hpacked.place hplain (husual.under_archive hversion)
    have helse' : at_ ≠ at' := hplace ▸ helse
    have hground := hpacked.grown.stat hstat
    exact ⟨hpacked.replaced.stat_elsewhere (hpacked.grown.plain hplain) hpacked.not_directory helse'
        hground,
      (hpacked.replaced.data at_ n helse' (Disk.node?_of_stat hground)).trans
        (hpacked.grown.data_eq (Disk.node?_of_stat hstat))⟩

theorem Bundling.keeps (h : Bundling s d p) (husual : s.Usual) (hplain : d.Plain)
    (helse : ∀ version, version.toList.any Text.isSeparator = false → at_ ≠ archivePlace s d version)
    (hstat : (assembly s d).disk.stat i = .ok (at_, .file n)) :
    p.account.disk.stat i = .ok (at_, .file n) ∧
      p.account.disk.data n = (assembly s d).disk.data n := by
  have hgrown := assembly_extends s d
  have helse' : ∀ version, Manifest.findVersion (assembly s d).disk s.manifest = .ok version →
      at_ ≠ archivePlace s (assembly s d).disk version := by
    intro version hversion
    rw [archivePlace, Disk.rootPlace, hgrown.cwd]
    exact helse version (Manifest.findVersion_separators hversion)
  cases h with
  | unassembled _ _ _ hdisk =>
    rw [hdisk]
    exact ⟨hstat, rfl⟩
  | unversioned _ _ _ _ hdisk =>
    rw [hdisk]
    exact ⟨hstat, rfl⟩
  | unarchived version _ _ hversion _ _ _ hdisk =>
    exact hdisk ▸ archive_keeps husual (hgrown.plain hplain)
      (Manifest.findVersion_separators hversion) (helse' version hversion) hstat
  | released version _ _ hversion _ _ hdisk =>
    exact hdisk ▸ archive_keeps husual (hgrown.plain hplain)
      (Manifest.findVersion_separators hversion) (helse' version hversion) hstat

/-- An input that no copy is the same file as keeps its contents in every run. -/
theorem Bundling.keeps_input (h : Bundling s d p) (husual : s.Usual) (hplain : d.Plain)
    (hi : i ∈ s.inputs) (helse : ∀ c ∈ s.copies, ¬ d.SameFile c i) :
    d.Keeps p.account.disk i := by
  refine Disk.Keeps.of_stat fun at_ n hstat => ?_
  have hdata : (assembly s d).disk.data n = d.data n :=
    Bundle.assemble_data (Disk.node?_of_stat hstat)
      fun c hc l hl => helse c hc ⟨l, at_, n, hl, hstat⟩
  obtain ⟨a, hdist, _, hbranch⟩ := branch_input husual hplain hi hstat
  obtain ⟨hstat', hdata'⟩ := h.keeps husual hplain
    (fun version _ hat => hdist (Disk.eq_of_branch hbranch (by
      rw [hat]
      exact Settings.Usual.branch_archive _)))
    ((assembly_extends s d).stat hstat)
  exact ⟨hstat', hdata'.trans hdata⟩

/-- Without hard links an input is the same file as a copy only if the build output is the root. -/
theorem not_sameFile (husual : s.Usual) (hplain : d.Plain) (hunshared : d.Unshared)
    (hi : i ∈ s.inputs) (hname : s.name ≠ ".." ∨ i = s.manifest) {c : Path} (hc : c ∈ s.copies) :
    ¬ d.SameFile c i := by
  rintro ⟨l, l', n, hcopy, hinput⟩
  obtain ⟨a, hdist, hdocument, hbranch⟩ := branch_input husual hplain hi hinput
  obtain rfl := hunshared l l' n (Disk.node?_of_stat hcopy) (Disk.node?_of_stat hinput)
  obtain ⟨name, hnames, rfl⟩ := husual.mem_copies hc
  have hplace := Disk.stat_under hplain (husual.under_copy name) hcopy
  by_cases hup : s.name = ".."
  · have hmanifest := hname.resolve_left (not_not_intro hup)
    have hdots : Text.ofString s.name = [Path.dot, Path.dot] := by rw [hup]; decide
    have hbelow : name :: d.rootPlace s.root <:+ l := by
      rw [hplace, hdots, Disk.landing_name, Disk.landing_dots]
      exact Disk.branch_landing _ name List.not_mem_nil
    have hsame := Disk.eq_of_branch hbranch hbelow
    rcases hnames with rfl | rfl
    · exact (hdocument hmanifest).1 hsame
    · exact (hdocument hmanifest).2 hsame
  · refine hdist (Disk.eq_of_branch hbranch ?_)
    rw [hplace]
    exact Settings.Usual.branch_copy hup _ name

/-- If the artifact is called `..` and the copy of a document is a file, it is the document itself. -/
theorem stat_copy_at_root (husual : s.Usual) (hplain : d.Plain) (hname : s.name = "..") {name : Name}
    {doc : Path} {n : Nat} (hdocument : Path.Under s.root doc [name.bytes])
    (hstat : d.stat doc = .ok (at_, .file n)) (hcopy : d.isFile (s.output.child name.bytes) = true) :
    d.stat (s.output.child name.bytes) = .ok (at_, .file n) := by
  obtain ⟨l, m, hfile⟩ := Disk.isFile_iff.1 hcopy
  have hdots : Text.ofString s.name = [Path.dot, Path.dot] := by rw [hname]; decide
  have hplace := Disk.stat_under hplain (husual.under_copy name) hfile
  rw [hdots, Disk.landing_name, Disk.landing_dots, List.tail_cons,
    ← Disk.stat_under hplain hdocument hstat] at hplace
  subst hplace
  have hnode := (Disk.node?_of_stat hfile).symm.trans (Disk.node?_of_stat hstat)
  cases hnode
  exact hfile

/-- A document that is copied onto itself is emptied, and nothing that follows fills it again. -/
theorem Bundling.emptied (h : Bundling s d p) (husual : s.Usual) (hplain : d.Plain)
    (hunshared : d.Unshared) (hname : s.name = "..")
    (hcomplete : Bundle.missing? d s.output s.license s.readme = none)
    (hlicense : d.Rewritable s.license) (hreadme : d.Rewritable s.readme)
    (hcopies : ∀ c ∈ s.copies, d.isFile c = true) :
    p.account.disk.bytesAt s.license = some [] ∧ p.account.disk.bytesAt s.readme = some [] := by
  obtain ⟨l, n, hstat, hreads, hwrites, hfault⟩ := hlicense
  obtain ⟨l', n', hstat', hreads', hwrites', hfault'⟩ := hreadme
  have hfirst := stat_copy_at_root husual hplain hname husual.under_license hstat
    (hcopies _ (by simp [husual.copies_eq]))
  have hsecond := stat_copy_at_root husual hplain hname husual.under_readme hstat'
    (hcopies _ (by simp [husual.copies_eq]))
  have hne : n' ≠ n := by
    rintro rfl
    have hsame := hunshared l l' n' (Disk.node?_of_stat hstat) (Disk.node?_of_stat hstat')
    rw [Disk.stat_under hplain husual.under_license hstat,
      Disk.stat_under hplain husual.under_readme hstat'] at hsame
    exact absurd (List.cons.inj hsame).1 (by decide)
  obtain ⟨middle, hcopied, _, hdone⟩ :=
    (Bundle.assemble_over hcomplete husual.copyOf?_license husual.copyOf?_readme
      ⟨⟨l, hstat⟩, hreads, hfault, ⟨l, hfirst⟩⟩
      ⟨⟨l', hstat'⟩, hreads', hfault', ⟨l', hsecond⟩⟩).2 hwrites
  obtain ⟨_, hcopied'⟩ := hdone (by rwa [hcopied.wrote.data_of_ne hne])
  have hempty : ((assembly s d).disk.data n).content = [] := by
    refine (congrArg FileData.content (hcopied'.wrote.data_of_ne (Ne.symm hne))).trans ?_
    simpa using hcopied.wrote.data_self.1
  have hempty' : ((assembly s d).disk.data n').content = [] := by
    refine hcopied'.wrote.data_self.1.trans ?_
    simp
  have hstays : ∀ i ∈ s.inputs, ∀ at_ m, d.stat i = .ok (at_, .file m) →
      ((assembly s d).disk.data m).content = [] → p.account.disk.bytesAt i = some [] := by
    intro i hi at_ m hinput hnil
    obtain ⟨a, hdist, _, hbranch⟩ := branch_input husual hplain hi hinput
    obtain ⟨hafter, hdata⟩ := h.keeps husual hplain
      (fun version _ hat => hdist (Disk.eq_of_branch hbranch (by
        rw [hat]
        exact Settings.Usual.branch_archive _)))
      ((assembly_extends s d).stat hinput)
    exact Disk.bytesAt_eq_some_iff.2 ⟨at_, m, hafter, by rw [hdata, hnil]⟩
  exact ⟨hstays _ (by simp [Settings.inputs]) _ _ hstat hempty,
    hstays _ (by simp [Settings.inputs]) _ _ hstat' hempty'⟩

end Pipeline

namespace Orchestrator

open Disk (Keeps SameFile Rewritable)

variable {σ : Type}

/-- A run keeps the contents of each of its inputs that no copy is the same file as. Without hard links
that is so for all inputs, unless the artifact is called `..`; a run of that name still keeps the manifest,
and empties the license and the readme once it gets to copying them. -/
theorem run_keeps_inputs (o : Orchestrator σ) (a : CommandLine.Arguments) (d₀ d : Disk)
    (hsettings : a.settings d₀ = .ok o.settings) (hplain : (o.built d).disk.Plain) :
    (∀ i ∈ o.settings.inputs, (∀ c ∈ o.settings.copies, ¬ (o.built d).disk.SameFile c i) →
      (o.built d).disk.Keeps (o.run d).2.account.disk i) ∧
    ((o.built d).disk.Unshared → ∀ i ∈ o.settings.inputs, a.name ≠ ".." ∨ i = o.settings.manifest →
      (o.built d).disk.Keeps (o.run d).2.account.disk i) ∧
    ((o.built d).disk.Unshared → a.name = ".." →
      (∃ r, (o.built d).result = .ok r ∧ r.isSuccess = true) →
      Bundle.missing? (o.built d).disk o.settings.output o.settings.license o.settings.readme = none →
      (o.built d).disk.Rewritable o.settings.license →
      (o.built d).disk.Rewritable o.settings.readme →
      (∀ c ∈ o.settings.copies, (o.built d).disk.isFile c = true) →
      (o.run d).2.account.disk.bytesAt o.settings.license = some [] ∧
        (o.run d).2.account.disk.bytesAt o.settings.readme = some []) := by
  obtain ⟨husual, hname⟩ := Settings.usual_of_arguments hsettings
  have hkeeps : ∀ i ∈ o.settings.inputs,
      (∀ c ∈ o.settings.copies, ¬ (o.built d).disk.SameFile c i) →
      (o.built d).disk.Keeps (o.run d).2.account.disk i := by
    intro i hi helse
    cases o.course d with
    | unavailable _ _ _ hdisk =>
      rw [hdisk]
      exact fun _ h => h
    | unbuilt _ _ _ _ hdisk =>
      rw [hdisk]
      exact fun _ h => h
    | built _ _ _ hbundling => exact hbundling.keeps_input husual hplain hi helse
  refine ⟨hkeeps, fun hunshared i hi hsafe => ?_, ?_⟩
  · refine hkeeps i hi fun c hc => ?_
    exact Pipeline.not_sameFile husual hplain hunshared hi (hname ▸ hsafe) hc
  · rintro hunshared hdots ⟨r, hbuild, hsuccess⟩ hcomplete hlicense hreadme hcopies
    exact (bundling_of_built hbuild hsuccess).emptied husual hplain hunshared (hname.trans hdots)
      hcomplete hlicense hreadme hcopies

/-- A project below `p` with an output directory and two documents. -/
def project : Disk :=
  Disk.placeFile (Disk.locationOf (.ofString "p/LICENSE.md"))
    { content := Text.ofString "MIT", mode := 0o644 }
    (Disk.placeFile (Disk.locationOf (.ofString "p/README.md"))
      { content := Text.ofString "Read me", mode := 0o644 }
      (Disk.place (Disk.locationOf (.ofString "p/dist")) .directory .empty))

/-- The arguments that call an artifact of this project `..`. -/
def upward : CommandLine.Arguments := ⟨some (.ofString "p"), "..", .zip, false, false⟩

/-- The run that these arguments ask for, after a build that does nothing. -/
def upwardRun : Orchestrator Unit :=
  .new ({ root := .ofString "p", name := some "..", format := .zip } : Settings.Choices).resolved idle ()

theorem upward_run_empties_license :
    upward.settings .empty = .ok upwardRun.settings ∧ project.Plain ∧
      project.bytesAt upwardRun.settings.license = some (Text.ofString "MIT") ∧
      (upwardRun.run project).2.account.disk.bytesAt upwardRun.settings.license = some [] := by
  have hsettings : upward.settings .empty = .ok upwardRun.settings := rfl
  have hplain : project.Plain := by decide +kernel
  refine ⟨hsettings, hplain, by decide +kernel, ?_⟩
  refine ((run_keeps_inputs upwardRun upward .empty project hsettings hplain).2.2
    (by decide +kernel) rfl ⟨.success, rfl, rfl⟩ (by decide +kernel) ?_ ?_ (by decide +kernel)).1
  · exact ⟨_, _, rfl, rfl, rfl, rfl⟩
  · exact ⟨_, _, rfl, rfl, rfl, rfl⟩

end Orchestrator

end ReleaseBundle
