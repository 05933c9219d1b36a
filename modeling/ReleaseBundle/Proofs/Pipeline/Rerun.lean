import ReleaseBundle.Proofs.Bundle.Overwriting
import ReleaseBundle.Proofs.Bundle.Repacking
import ReleaseBundle.Proofs.Disk.Files
import ReleaseBundle.Proofs.Pipeline.Places
import ReleaseBundle.Proofs.Pipeline.Released
import ReleaseBundle.Proofs.Pipeline.Stages

/-!
# Running a release again

In the usual layout a release writes three files: the two copies in the build output and the archive beside
it. None of them is read by what wrote it, so a second run reads what the first one read and writes what is
there already. Only the permission to write can have changed: a copy has the permission bits of its source,
and a document that its owner may not write can be copied once and not again.
-/

namespace ReleaseBundle

open Disk (Agrees LooksLike Replaced)

namespace Disk

variable {d : Disk} {p q : Path} {l l' : Location} {n m : Nat}

/-- Without hard links files in two places are two files. -/
theorem Unshared.ne (h : d.Unshared) (hp : d.stat p = .ok (l, .file n)) (hq : d.stat q = .ok (l', .file m))
    (helse : l ≠ l') : n ≠ m := by
  rintro rfl
  exact helse (h l l' n (node?_of_stat hp) (node?_of_stat hq))

end Disk

namespace Pipeline

open ReleaseBundle.Bundle (Doubled Packed)

variable {s : Settings} {d e f : Disk} {version : String} {name : Name} {doc : Path} {at_ l : Location}
  {node : Node} {n : Nat} {a : Artifact}

/-! ## What the first run leaves -/

/-- The license and the readme with their copies, and the right to write them, which is as it was on the
disk `d`. -/
structure Documents (d : Disk) (s : Settings) (f : Disk) (n t n' t' : Nat) : Prop where
  license : Doubled f s.license (s.output.child Name.license.bytes) n t
  readme : Doubled f s.readme (s.output.child Name.readme.bytes) n' t'
  licenseWrites : d.Writable s.license ↔ (f.data n).ownerWrites = true
  readmeWrites : d.Writable s.readme ↔ (f.data n').ownerWrites = true

/-- Where a document and its copy are. -/
theorem document_place (hplain : d.Plain) (hdocument : Path.Under s.root doc [name.bytes])
    (hstat : d.stat doc = .ok (l, node)) : l = name :: d.rootPlace s.root := by
  rw [Disk.stat_under hplain hdocument hstat, Disk.landing_name, Disk.landing_nil]

theorem copy_place (husual : s.Usual) (hplain : d.Plain) {top : Name}
    (htop : top.bytes = Text.ofString s.name)
    (hstat : d.stat (s.output.child name.bytes) = .ok (l, node)) :
    l = name :: top :: Name.dist :: d.rootPlace s.root := by
  rw [Disk.stat_under hplain (husual.under_copy name) hstat, ← htop, Disk.landing_name, Disk.landing_name,
    Disk.landing_name, Disk.landing_nil]

/-- After assembling, the copies are up to date. -/
theorem documents_of_assembled (husual : s.Usual) (hplain : d.Plain) (hunshared : d.Unshared)
    (h : Bundle.Assembled d s.output s.license s.readme f) {top : Name}
    (htop : top.bytes = Text.ofString s.name) : ∃ n t n' t', Documents d s f n t n' t' := by
  obtain ⟨p, q, middle, n, t, n', t', hp, hq, hfirst, hsecond⟩ := h.copied
  obtain rfl := Option.some.inj (hp.symm.trans husual.copyOf?_license)
  obtain rfl := Option.some.inj (hq.symm.trans husual.copyOf?_readme)
  have hplainM := hfirst.wrote.ext.plain hplain
  have hplainF := hsecond.wrote.ext.plain hplainM
  have hunsharedF := hsecond.wrote.unshared (hfirst.wrote.unshared hunshared)
  -- all four files are found in the end, so their places tell them apart
  obtain ⟨l₁, hlicense⟩ := hfirst.source
  obtain ⟨l₂, hcopy⟩ := hfirst.wrote.stat
  obtain ⟨l₃, hreadme⟩ := hsecond.source
  obtain ⟨l₄, hcopy'⟩ := hsecond.wrote.stat
  have hlicenseF := hsecond.wrote.ext.stat (hfirst.wrote.ext.stat hlicense)
  have hcopyF := hsecond.wrote.ext.stat hcopy
  have hreadmeF := hsecond.wrote.ext.stat hreadme
  have h₁ := document_place hplainF husual.under_license hlicenseF
  have h₂ := copy_place husual hplainF htop hcopyF
  have h₃ := document_place hplainF husual.under_readme hreadmeF
  have h₄ := copy_place husual hplainF htop hcopy'
  have hnames : Name.license ≠ Name.readme := by decide
  have hdeep : ∀ a b : Name, a :: f.rootPlace s.root ≠ b :: top :: Name.dist :: f.rootPlace s.root :=
    fun a b h => by simpa using congrArg List.length h
  have hnt : n ≠ t := hunsharedF.ne hlicenseF hcopyF (h₁ ▸ h₂ ▸ hdeep _ _)
  have hnt' : n ≠ t' := hunsharedF.ne hlicenseF hcopy' (h₁ ▸ h₄ ▸ hdeep _ _)
  have hn't : n' ≠ t := hunsharedF.ne hreadmeF hcopyF (h₃ ▸ h₂ ▸ hdeep _ _)
  have hn't' : n' ≠ t' := hunsharedF.ne hreadmeF hcopy' (h₃ ▸ h₄ ▸ hdeep _ _)
  have htt' : t ≠ t' := hunsharedF.ne hcopyF hcopy' (by simp [h₂, h₄, hnames])
  refine ⟨n, t, n', t', hfirst.doubled.later hsecond.wrote hnt' htt', hsecond.doubled, ?_, ?_⟩
  · rw [Disk.writable_iff hlicense, hsecond.wrote.data_of_ne hnt', hfirst.wrote.data_of_ne hnt]
  · have hreadmeD : d.stat s.readme = .ok (l₃, .file n') :=
      hfirst.wrote.stat_before (by simpa using hn't) hreadme
    rw [Disk.writable_iff hreadmeD, hsecond.wrote.data_of_ne hn't', hfirst.wrote.data_of_ne hn't]

/-- A first release: `f` is the disk on which the archive was packed and `e` the one with the archive, which
stands beside the build output. -/
structure Shipped (d : Disk) (s : Settings) (version : String) (entries : List Bundle.Entry)
    (items : List Item) (top archive : Name) (f e : Disk) : Prop where
  assembled : Bundle.Assembled d s.output s.license s.readme f
  plain : f.Plain
  found : Manifest.findVersion f s.manifest = .ok version
  named : top.bytes = Text.ofString s.name
  output : f.stat s.output = .ok (top :: Name.dist :: f.rootPlace s.root, .directory)
  releases : f.stat s.releases = .ok (Name.dist :: f.rootPlace s.root, .directory)
  packed : Packed .reliable f s.output (archivePath s version) s.format entries items f
    (archive :: Name.dist :: f.rootPlace s.root) e
  beside : archive ≠ top
  visible : ∀ i, archive.bytes ≠ Bundle.stagingName i

/-- A release in the usual layout finds its directories in place. -/
theorem Bundling.shipped {p : Progress Verdict} (h : Bundling s d p) (husual : s.Usual) (hplain : d.Plain)
    (hreleased : p.account.result = .ok (.released a)) :
    ∃ version entries items top archive,
      Shipped d s version entries items top archive (assembly s d).disk p.account.disk ∧
      a = Bundle.artifactOf (archivePath s version) version s.format (Archive.encode s.format items) := by
  obtain ⟨version, hassembly, hversion, harchive, hdisk⟩ := h.release hreleased
  have hassembled := (Bundle.assemble_ends s.output s.license s.readme d).of_ok hassembly
  have hplainF := (assembly_extends s d).plain hplain
  have hseparators := Manifest.findVersion_separators hversion
  obtain ⟨entries, items, ground, at_, hpacked, hstat, _, rfl⟩ :=
    (archive_ends s version (assembly s d).disk).of_ok harchive
  rw [← hdisk] at hpacked hstat
  obtain ⟨rootName, _, hroot, _⟩ := Bundle.complete_of_collect hpacked.directory hpacked.collected
  obtain ⟨l, houtput⟩ := Disk.isDirectory_iff.1 hpacked.directory
  obtain ⟨top, htop, rfl, hreleases⟩ := output_place husual hplainF hroot houtput
  obtain ⟨hidle, _⟩ := Bundle.makeParent_idle hplainF (husual.parent_archive hseparators)
    husual.endsInSlash_releases (Disk.isDirectory_iff.2 ⟨_, hreleases⟩)
  obtain rfl : (assembly s d).disk = ground := by
    obtain ⟨_, _, hsame⟩ := hidle.succeeds
    exact hsame.symm.trans hpacked.made
  obtain ⟨archive, rfl, hname, hvisible⟩ :=
    archive_place husual (hpacked.replaced.plain hplainF) hseparators hstat
  have hplace : p.account.disk.rootPlace s.root = (assembly s d).disk.rootPlace s.root := by
    rw [Disk.rootPlace, Disk.rootPlace, hpacked.replaced.cwd]
  rw [hplace] at hpacked
  refine ⟨version, entries, items, top, archive, ⟨hassembled, hplainF, hversion, htop, houtput, hreleases,
    hpacked, ?_, hvisible⟩, rfl⟩
  rintro rfl
  exact hname htop

/-! ## The second run -/

namespace Shipped

variable {entries : List Bundle.Entry} {items : List Item} {top archive : Name} {n' t t' : Nat} {g : Disk}

/-- Nothing that leads into the build output or to an input leads to the archive. -/
theorem stat_again (h : Shipped d s version entries items top archive f e) {p : Path}
    (helse : l ≠ archive :: Name.dist :: f.rootPlace s.root) (hstat : f.stat p = .ok (l, node)) :
    e.stat p = .ok (l, node) :=
  h.packed.replaced.stat_elsewhere h.plain h.packed.not_directory helse hstat

theorem documents (h : Shipped d s version entries items top archive f e) (husual : s.Usual)
    (hdocuments : Documents d s f n t n' t') : Documents d s e n t n' t' := by
  have hsource : ∀ (name : Name) (doc : Path), Path.Under s.root doc [name.bytes] →
      ∀ l node, f.stat doc = .ok (l, node) → l ≠ archive :: Name.dist :: f.rootPlace s.root := by
    intro name doc hunder l node hstat hat
    rw [document_place h.plain hunder hstat] at hat
    simpa using congrArg List.length hat
  have htarget : ∀ (name : Name) l node, f.stat (s.output.child name.bytes) = .ok (l, node) →
      l ≠ archive :: Name.dist :: f.rootPlace s.root := by
    intro name l node hstat hat
    rw [copy_place husual h.plain h.named hstat] at hat
    simpa using congrArg List.length hat
  have hkeep : ∀ {source destination m u}, Doubled f source destination m u →
      (∀ l node, f.stat source = .ok (l, node) → l ≠ archive :: Name.dist :: f.rootPlace s.root) →
      e.data m = f.data m := by
    intro source destination m u hdoubled helse
    obtain ⟨l, hstat⟩ := hdoubled.source
    exact h.packed.replaced.data l m (helse _ _ hstat) (Disk.node?_of_stat hstat)
  have hlicense := hsource _ _ husual.under_license
  have hreadme := hsource _ _ husual.under_readme
  have hnoDir := h.packed.not_directory
  refine ⟨hdocuments.license.elsewhere h.packed.replaced h.plain hnoDir hlicense (htarget _),
    hdocuments.readme.elsewhere h.packed.replaced h.plain hnoDir hreadme (htarget _),
    ?_, ?_⟩
  · rw [hkeep hdocuments.license hlicense]
    exact hdocuments.licenseWrites
  · rw [hkeep hdocuments.readme hreadme]
    exact hdocuments.readmeWrites

/-- Nothing is missing for a second bundle. -/
theorem complete_again (h : Shipped d s version entries items top archive f e)
    (hdocuments : Documents d s e n t n' t') :
    Bundle.missing? e s.output s.license s.readme = none := by
  have helse : top :: Name.dist :: f.rootPlace s.root ≠ archive :: Name.dist :: f.rootPlace s.root :=
    fun hat => h.beside (List.cons.inj hat).1.symm
  have houtput : e.isDirectory s.output = true := Disk.isDirectory_iff.2 ⟨_, h.stat_again helse h.output⟩
  obtain ⟨l, hlicense⟩ := hdocuments.license.source
  obtain ⟨l', hreadme⟩ := hdocuments.readme.source
  have hlicense : e.isFile s.license = true := Disk.isFile_iff.2 ⟨l, n, hlicense⟩
  have hreadme : e.isFile s.readme = true := Disk.isFile_iff.2 ⟨l', n', hreadme⟩
  simp [Bundle.missing?, houtput, hlicense, hreadme]

/-- The manifest still gives the version. -/
theorem found_again (h : Shipped d s version entries items top archive f e) (husual : s.Usual)
    (hagrees : Agrees e g) : Manifest.findVersion g s.manifest = .ok version := by
  refine Manifest.findVersion_again (fun l n hstat => ?_) h.found
  obtain ⟨a, hdist, _, hbranch⟩ := branch_input husual h.plain (by simp [Settings.inputs]) hstat
  have helse : l ≠ archive :: Name.dist :: f.rootPlace s.root := by
    rintro rfl
    exact hdist (Disk.eq_of_branch hbranch (List.suffix_cons _ _))
  exact ⟨hagrees.stat (h.stat_again helse hstat), (hagrees.data n).trans
    (h.packed.replaced.data l n helse (Disk.node?_of_stat hstat))⟩

/-- Packing again gives the same archive in the same place. -/
theorem archive_again (h : Shipped d s version entries items top archive f e) (husual : s.Usual)
    (hagrees : Agrees e g) :
    (Pipeline.archive s version g).result = .ok (Bundle.artifactOf (archivePath s version) version s.format
      (Archive.encode s.format items)) ∧ LooksLike e (Pipeline.archive s version g).disk := by
  have hseparators := Manifest.findVersion_separators h.found
  have houtside : ∀ l, top :: Name.dist :: f.rootPlace s.root <:+ l →
      l ≠ archive :: Name.dist :: f.rootPlace s.root ∧
        ∀ k, k :: l ≠ archive :: Name.dist :: f.rootPlace s.root := by
    intro l hinside
    refine ⟨?_, fun k hk => ?_⟩
    · rintro rfl
      exact h.beside (Disk.eq_of_branch (List.suffix_refl _) hinside)
    · have hlength := hinside.length_le
      rw [(List.cons.inj hk).2] at hlength
      simp only [List.length_cons] at hlength
      omega
  have hpackable := h.packed.packable_again h.plain hagrees h.output houtside
    (husual.parent_archive hseparators) husual.endsInSlash_releases h.releases (by
      intro k hk
      obtain ⟨rfl, _⟩ := List.cons.inj hk
      exact h.visible)
  have hplainE := h.packed.replaced.plain h.plain
  obtain ⟨hresult, at_, hpacked⟩ := archive_succeeds (hagrees.plain hplainE) hpackable
  refine ⟨hresult, ?_⟩
  have hplace : at_ = archive :: Name.dist :: f.rootPlace s.root := by
    have hunder := husual.under_archive hseparators
    rw [hpacked.place (hagrees.plain hplainE) hunder, h.packed.place h.plain hunder, Disk.rootPlace,
      Disk.rootPlace, hagrees.cwd, h.packed.replaced.cwd]
  subst hplace
  exact h.packed.replaced.looksLike hagrees hpacked.replaced

end Shipped

/-- Bundling again after a release changes nothing that can be seen, and releases the same artifact if the
documents may be written. -/
theorem Bundling.again {p q : Progress Verdict} (h : Bundling s d p) (husual : s.Usual) (hplain : d.Plain)
    (hunshared : d.Unshared) (hreleased : p.account.result = .ok (.released a))
    (hagain : Bundling s p.account.disk q) :
    LooksLike p.account.disk q.account.disk ∧
    (¬ d.Writable s.license → q.account.result = .error (.bundle
      (.copyFailed s.license (s.output.child Name.license.bytes) (.os .accessDenied)))) ∧
    (d.Writable s.license → ¬ d.Writable s.readme → q.account.result = .error (.bundle
      (.copyFailed s.readme (s.output.child Name.readme.bytes) (.os .accessDenied)))) ∧
    (d.Writable s.license → d.Writable s.readme → q.account.result = .ok (.released a)) := by
  obtain ⟨version, entries, items, top, archive, hshipped, rfl⟩ := h.shipped husual hplain hreleased
  obtain ⟨n, t, n', t', hfirst⟩ :=
    documents_of_assembled husual hplain hunshared hshipped.assembled hshipped.named
  have hdocuments := hshipped.documents husual hfirst
  have hplainE := hshipped.packed.replaced.plain hshipped.plain
  obtain ⟨hagrees, hlicense, hreadme, hdone⟩ := Bundle.reassemble (hshipped.complete_again hdocuments)
    husual.copyOf?_license husual.copyOf?_readme hdocuments.license hdocuments.readme
  rw [hdocuments.licenseWrites, hdocuments.readmeWrites]
  simp only [Bool.not_eq_true]
  have hfailed : ∀ x, (assembly s p.account.disk).result = .error x →
      LooksLike p.account.disk q.account.disk ∧ q.account.result = .error (.bundle x) := by
    intro x hx
    obtain ⟨hresult, hdisk⟩ := hagain.failed_assembly hx
    exact ⟨hdisk ▸ hagrees.looksLike, hresult⟩
  cases hwrites : (p.account.disk.data n).ownerWrites with
  | false =>
    obtain ⟨hlooks, hresult⟩ := hfailed _ (hlicense hwrites)
    exact ⟨hlooks, fun _ => hresult, by simp, by simp⟩
  | true =>
    cases hwrites' : (p.account.disk.data n').ownerWrites with
    | false =>
      obtain ⟨hlooks, hresult⟩ := hfailed _ (hreadme hwrites hwrites')
      exact ⟨hlooks, by simp, fun _ _ => hresult, by simp⟩
    | true =>
      obtain ⟨harchive, hlooks⟩ := hshipped.archive_again husual hagrees
      obtain ⟨hresult, hdisk⟩ := hagain.succeeds (hdone hwrites hwrites')
        (hshipped.found_again husual hagrees) harchive
      exact ⟨hdisk ▸ hlooks, by simp, by simp, fun _ _ => hresult⟩

end Pipeline

namespace Orchestrator

variable {σ : Type}

/-- A second run after a release, with a build that does nothing, leaves the disk as it is in everything
that can be seen. It releases the same artifact exactly if the owner may write the license and the readme;
otherwise it fails at the first document that may not be written. -/
theorem rerun_same_release (o : Orchestrator σ) (d : Disk) (a : Artifact) (r : BuildResult) (root : Path)
    (name : Option String) (format : Format) (toolchain : Option Command)
    (hsettings : ({ root, name, format, toolchain } : Settings.Choices).settings = .ok o.settings)
    (hplain : (o.built d).disk.Plain) (hunshared : (o.built d).disk.Unshared)
    (hreleased : (o.run d).2.account.result = .ok (.released a))
    (hbuild : ((o.run d).1.built (o.run d).2.account.disk).result = .ok r) (hsuccess : r.isSuccess = true)
    (hidle : ((o.run d).1.built (o.run d).2.account.disk).disk = (o.run d).2.account.disk) :
    let s := o.settings
    let first := (o.run d).2.account
    let second := ((o.run d).1.run first.disk).2.account
    LooksLike first.disk second.disk ∧
    (¬ (o.built d).disk.Writable s.license → second.result = .error (.bundle
      (.copyFailed s.license (s.output.child Name.license.bytes) (.os .accessDenied)))) ∧
    ((o.built d).disk.Writable s.license → ¬ (o.built d).disk.Writable s.readme →
      second.result = .error (.bundle
        (.copyFailed s.readme (s.output.child Name.readme.bytes) (.os .accessDenied)))) ∧
    ((o.built d).disk.Writable s.license → (o.built d).disk.Writable s.readme →
      second.result = .ok (.released a)) := by
  intro s first second
  have hagain := bundling_of_built hbuild hsuccess
  rw [hidle] at hagain
  exact (bundling_of_release hreleased).again (Settings.usual_of_choices hsettings) hplain hunshared
    hreleased hagain

/-- The invoker of a second run is the one of the first, in the state that the first run left it in. -/
theorem built_again (o : Orchestrator σ) (d e : Disk) :
    (o.run d).1.built e = (o.invoker (o.invoker o.state d).1 e).2 := by
  rw [built, o.run_state d]
  rfl

/-- The documents of the sample project may be written, so it is released again. -/
theorem complete_project_again :
    complete.Plain ∧ complete.Unshared ∧ complete.Writable (usual "W").settings.license ∧
      complete.Writable (usual "W").settings.readme ∧ ∃ a,
        ((usual "W").run complete).2.account.result = .ok (.released a) ∧
        (((usual "W").run complete).1.run ((usual "W").run complete).2.account.disk).2.account.result =
          .ok (.released a) := by
  have hfacts : complete.Plain ∧ complete.Unshared ∧
      complete.stat (usual "W").settings.license = .ok ([Name.license], .file 3) ∧
      complete.stat (usual "W").settings.readme = .ok ([Name.readme], .file 2) ∧
      (complete.data 3).ownerWrites = true ∧ (complete.data 2).ownerWrites = true := by
    decide +kernel
  obtain ⟨hplain, hunshared, hlicense, hreadme, hwrites, hwrites'⟩ := hfacts
  have hlicense := (Disk.writable_iff hlicense).2 hwrites
  have hreadme := (Disk.writable_iff hreadme).2 hwrites'
  obtain ⟨a, hreleased⟩ := complete_released
  have hidle : ∀ e, ((usual "W").run complete).1.built e = ⟨e, [], [], .ok .success⟩ :=
    fun e => built_again (usual "W") complete e
  obtain ⟨_, _, _, hagain⟩ := rerun_same_release (usual "W") complete a .success (.ofString "") (some "W")
    .zip none rfl hplain hunshared hreleased (by rw [hidle]) rfl (by rw [hidle])
  exact ⟨hplain, hunshared, hlicense, hreadme, a, hreleased, hagain hlicense hreadme⟩

end Orchestrator

end ReleaseBundle
