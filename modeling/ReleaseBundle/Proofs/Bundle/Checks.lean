import ReleaseBundle.Disk.Difference
import ReleaseBundle.Proofs.Bundle.Assembly
import Mathlib.Data.List.Basic

/-!
# Assembling checks before it copies

What a bundle needs is looked for before anything is copied. Two later steps could still report a
document as missing: the one that asks for its file name, and the one that looks again before each copy.
Neither can. A path that leads to a file ends in the name of an entry, whatever slashes and dots stand in
it, and a copy takes nothing away, so the second document is still a file when the first one was copied.
-/

namespace ReleaseBundle

namespace Path

/-- Parts without meaning behind the last name do not hide it. -/
theorem getLast?_componentsOf {absolute : Bool} {ss : List Bytes} (name : Name)
    (h : (ss.filter (· != [])).getLast? = some name.bytes) :
    (componentsOf absolute ss).getLast? = some (.name name.bytes) := by
  obtain ⟨before, hbefore⟩ := List.getLast?_eq_some_iff.1 h
  obtain ⟨front, back, rfl, -, hback⟩ := List.filter_eq_append_iff.1 hbefore
  obtain ⟨blanks, rest, rfl, hblanks, -, hrest⟩ := List.filter_eq_cons_iff.1 hback
  have hidle : ∀ ts : List Bytes, (∀ t ∈ ts, t = []) → ts.filterMap component? = [] := by
    intro ts hts
    refine List.filterMap_eq_nil_iff.2 fun t ht => ?_
    rw [hts t ht]
    rfl
  have hrest : rest.filterMap component? = [] :=
    hidle rest fun t ht => by simpa using List.filter_eq_nil_iff.1 hrest t ht
  have hlast : (name.bytes :: rest).filterMap component? = [.name name.bytes] := by
    rw [List.filterMap_cons, component?_name, hrest]
  by_cases hfront : front ++ blanks = []
  · rw [← List.append_assoc, hfront, List.nil_append, componentsOf, hlast, if_neg name.bytes_ne_dot]
    cases absolute <;> rfl
  · rw [← List.append_assoc, componentsOf_append hfront, hlast, List.getLast?_concat]

/-- A lookup that ends at an ordinary name goes to the file name of the path. -/
theorem fileName?_of_getLast?_steps {p : Path} (name : Name)
    (h : p.steps.getLast? = some name.bytes) : p.fileName? = some name.bytes := by
  have hbase : p.base.getLast? = some name.bytes := by
    rw [steps_eq] at h
    split at h
    · rw [List.getLast?_concat, Option.some.injEq] at h
      exact absurd h.symm name.bytes_ne_dot
    · rwa [List.append_nil] at h
  rw [fileName?, components_eq, getLast?_componentsOf name hbase]

end Path

namespace Disk

variable {d : Disk} {p : Path} {n : Nat}

/-- A way to a file ends at an ordinary name: that of the file or of a link. -/
theorem Route.exists_getLast?_of_file {follow : Bool} {links : Nat} {here at_ : Location}
    {parts : List Bytes} (h : Route d follow links here parts (.found at_ (.file n))) :
    ∃ name : Name, parts.getLast? = some name.bytes := by
  generalize hspot : Spot.found at_ (.file n) = spot at h
  have hfront : ∀ {part rest}, (∃ name : Name, rest.getLast? = some name.bytes) →
      ∃ name : Name, (part :: rest : List Bytes).getLast? = some name.bytes := by
    rintro part rest ⟨name, hname⟩
    exact ⟨name, by rw [List.getLast?_cons, hname]; rfl⟩
  induction h with
  | arrived _ _ => cases hspot
  | stay _ ih => exact hfront (ih hspot)
  | ascend _ ih => exact hfront (ih hspot)
  | enter _ _ _ ih => exact hfront (ih hspot)
  | file name _ => exact ⟨name, rfl⟩
  | link name _ _ => exact ⟨name, rfl⟩
  | @jump _ _ _ rest _ name _ _ _ _ ih =>
    by_cases hrest : rest = []
    · exact ⟨name, by rw [hrest]; rfl⟩
    · obtain ⟨last, hlast⟩ := ih hspot
      rw [List.getLast?_append_of_ne_nil _ hrest] at hlast
      exact hfront ⟨last, hlast⟩
  | vacant _ _ => cases hspot

theorem fileName?_of_isFile (h : d.isFile p = true) : ∃ name : Name, p.fileName? = some name.bytes := by
  obtain ⟨at_, n, hstat⟩ := isFile_iff.1 h
  obtain ⟨name, hlast⟩ := (stat_eq_ok_iff.1 hstat).2.exists_getLast?_of_file
  exact ⟨name, Path.fileName?_of_getLast?_steps name hlast⟩

theorem Extends.isFile {e : Disk} {written made : List Path} (h : Extends d e written made)
    (hfile : d.isFile p = true) : e.isFile p = true := by
  obtain ⟨at_, n, hstat⟩ := isFile_iff.1 hfile
  exact isFile_iff.2 ⟨at_, n, h.stat hstat⟩

end Disk

namespace Bundle

open Disk (Extends)

variable {d : Disk} {source output license readme : Path}

theorem copyOf?_of_isFile (output : Path) (h : d.isFile source = true) :
    ∃ p, copyOf? output source = some p := by
  obtain ⟨name, hname⟩ := Disk.fileName?_of_isFile h
  exact ⟨output.child name.bytes, by rw [copyOf?, hname]; rfl⟩

/-- A file that is there is copied, or its copy fails. It is not found missing a second time. -/
theorem copyInto_checked {p : Path} (hfile : d.isFile source = true)
    (hcopy : copyOf? output source = some p) :
    (copyInto output source).Ends d (fun _ _ => True)
      (fun x _ => ∃ fault, x = .copyFailed source p fault) := by
  obtain ⟨name, hname, rfl⟩ := Option.map_eq_some_iff.1 hcopy
  simp only [copyInto, hname, copyFile, Job.ends_bind, Job.ends_log, Job.ends_mapError]
  refine Job.ends_inspect.2 ⟨fun _ _ => ?_, fun _ hmissing => ?_⟩
  · exact (Job.ends_self _ _).mono (fun _ _ _ => trivial) fun fault _ _ => ⟨fault, rfl⟩
  · simp [hfile] at hmissing

/-- A bundle is complete if its output is a directory and both documents are files. -/
theorem missing?_eq_none_iff :
    missing? d output license readme = none ↔
      d.isDirectory output = true ∧ d.isFile license = true ∧ d.isFile readme = true := by
  cases houtput : d.isDirectory output <;> cases hlicense : d.isFile license <;>
    cases hreadme : d.isFile readme <;> simp [missing?, houtput, hlicense, hreadme]

/-- What is reported as missing: the output before the license, and the license before the readme. -/
theorem missing?_eq_some_iff {x : BundleFailure} :
    missing? d output license readme = some x ↔
      (d.isDirectory output = false ∧ x = .outputMissing output) ∨
      (d.isDirectory output = true ∧ d.isFile license = false ∧ x = .missingSource license) ∨
      (d.isDirectory output = true ∧ d.isFile license = true ∧ d.isFile readme = false ∧
        x = .missingSource readme) := by
  cases houtput : d.isDirectory output <;> cases hlicense : d.isFile license <;>
    cases hreadme : d.isFile readme <;>
    simp [missing?, houtput, hlicense, hreadme, eq_comm]

/-- An incomplete bundle is reported before anything is done. -/
theorem assemble_missing {x : BundleFailure} (h : missing? d output license readme = some x) :
    assemble output license readme d = ⟨d, [], [], .error x⟩ := by
  simp [assemble, bind, Job.bind, Job.inspect, h]

/-- A complete bundle is assembled, or one of the two copies fails. -/
theorem assemble_checked {p q : Path} (hcomplete : missing? d output license readme = none)
    (hlicense : copyOf? output license = some p) (hreadme : copyOf? output readme = some q) :
    (assemble output license readme).Ends d (fun _ _ => True)
      (fun x _ => ∃ fault, x = .copyFailed license p fault ∨ x = .copyFailed readme q fault) := by
  obtain ⟨_, hfirst, hsecond⟩ := missing?_eq_none_iff.1 hcomplete
  simp only [assemble, Job.ends_bind]
  refine Job.ends_inspect.2 ⟨fun _ _ => ?_, fun _ hmissing => by simp [hcomplete] at hmissing⟩
  have hcopied := (copyInto_checked hfirst hlicense).and (copyInto_ends output license d)
  refine hcopied.mono ?_ ?_
  · rintro _ middle ⟨_, p', n, t, hp', hcopy⟩
    -- the first copy may have gone onto the second document, which is a file all the same
    have hstill : middle.isFile readme = true := hcopy.touched.ext.isFile hsecond
    refine (copyInto_checked hstill hreadme).mono (fun _ _ h => h) ?_
    rintro x _ ⟨fault, rfl⟩
    exact ⟨fault, Or.inr rfl⟩
  · rintro x _ ⟨⟨fault, rfl⟩, _⟩
    exact ⟨fault, Or.inl rfl⟩

/-- Whatever is no failed copy is reported by the check. -/
theorem assemble_error_iff_missing {x : BundleFailure}
    (hkind : ∀ source destination fault, x ≠ .copyFailed source destination fault) :
    (assemble output license readme d).result = .error x ↔
      missing? d output license readme = some x := by
  cases hmissing : missing? d output license readme with
  | some y => simp [assemble_missing hmissing]
  | none =>
    obtain ⟨_, hfirst, hsecond⟩ := missing?_eq_none_iff.1 hmissing
    obtain ⟨p, hlicense⟩ := copyOf?_of_isFile output hfirst
    obtain ⟨q, hreadme⟩ := copyOf?_of_isFile output hsecond
    constructor
    · intro hresult
      obtain ⟨fault, hcopy | hcopy⟩ :=
        (assemble_checked hmissing hlicense hreadme).of_error hresult
      · exact absurd hcopy (hkind _ _ _)
      · exact absurd hcopy (hkind _ _ _)
    · intro h
      cases h

/-- Assembling a bundle reports what is missing exactly if it is, the output before the license and the
license before the readme, and then it did nothing at all. Otherwise both documents have a place in the
output, nothing but a copy can fail, and only what the two places lead to is changed. -/
theorem assemble_checks_first (output license readme : Path) (d : Disk) :
    (∀ x, (assemble output license readme d).result = .error (.outputMissing x) ↔
      d.isDirectory output = false ∧ x = output) ∧
    (∀ x, (assemble output license readme d).result = .error (.missingSource x) ↔
      d.isDirectory output = true ∧
        (d.isFile license = false ∧ x = license ∨
          d.isFile license = true ∧ d.isFile readme = false ∧ x = readme)) ∧
    (¬ (d.isDirectory output = true ∧ d.isFile license = true ∧ d.isFile readme = true) ∧
        (assemble output license readme d).disk = d ∧ (assemble output license readme d).trace = [] ∨
      (d.isDirectory output = true ∧ d.isFile license = true ∧ d.isFile readme = true) ∧
      ∃ p q, copyOf? output license = some p ∧ copyOf? output readme = some q ∧
        Extends d (assemble output license readme d).disk [p, q] [] ∧
        ((assemble output license readme d).result = .ok () ∨
          ∃ fault, (assemble output license readme d).result = .error (.copyFailed license p fault) ∨
            (assemble output license readme d).result = .error (.copyFailed readme q fault))) := by
  refine ⟨fun x => ?_, fun x => ?_, ?_⟩
  · rw [assemble_error_iff_missing (by simp), missing?_eq_some_iff]
    simp
  · rw [assemble_error_iff_missing (by simp), missing?_eq_some_iff]
    simp only [reduceCtorEq, and_false, false_or, BundleFailure.missingSource.injEq]
    tauto
  · cases hmissing : missing? d output license readme with
    | some x =>
      have hincomplete := mt missing?_eq_none_iff.2 (hmissing ▸ Option.some_ne_none x)
      rw [assemble_missing hmissing]
      exact Or.inl ⟨hincomplete, rfl, rfl⟩
    | none =>
      have hcomplete := missing?_eq_none_iff.1 hmissing
      have ⟨_, hfirst, hsecond⟩ := hcomplete
      obtain ⟨p, hlicense⟩ := copyOf?_of_isFile output hfirst
      obtain ⟨q, hreadme⟩ := copyOf?_of_isFile output hsecond
      have hextends := assemble_extends output license readme d
      rw [copies_eq, hlicense, hreadme] at hextends
      refine Or.inr ⟨hcomplete, p, q, hlicense, hreadme, hextends, ?_⟩
      cases hresult : (assemble output license readme d).result with
      | ok _ => exact Or.inl rfl
      | error x =>
        obtain ⟨fault, rfl | rfl⟩ := (assemble_checked hmissing hlicense hreadme).of_error hresult
        · exact Or.inr ⟨fault, Or.inl rfl⟩
        · exact Or.inr ⟨fault, Or.inr rfl⟩

/-- A build output with a directory in the place of the license, and a license beside it. -/
def crowdedOutput : Disk :=
  Disk.place (Disk.locationOf (.ofString "out/LICENSE.md")) .directory
    (Disk.placeFile (Disk.locationOf (.ofString "LICENSE.md"))
      { content := Text.ofString "MIT", mode := 0o644 } .empty)

/-- Without a readme nothing is tried. With the license in its place the copies are tried, and the first one
fails and changes nothing but what it leads to. -/
theorem crowded_output_checked :
    (assemble (.ofString "out") (.ofString "LICENSE.md") (.ofString "README.md") crowdedOutput).result =
        .error (.missingSource (.ofString "README.md")) ∧
      (assemble (.ofString "out") (.ofString "LICENSE.md") (.ofString "README.md") crowdedOutput).disk =
        crowdedOutput ∧
      ∃ p fault,
        (assemble (.ofString "out") (.ofString "LICENSE.md") (.ofString "LICENSE.md") crowdedOutput).result =
          .error (.copyFailed (.ofString "LICENSE.md") p fault) ∧
        Extends crowdedOutput
          (assemble (.ofString "out") (.ofString "LICENSE.md") (.ofString "LICENSE.md") crowdedOutput).disk
          [p, p] [] := by
  have hthere : crowdedOutput.isDirectory (.ofString "out") = true ∧
      crowdedOutput.isFile (.ofString "LICENSE.md") = true ∧
      crowdedOutput.isFile (.ofString "README.md") = false := by
    decide +kernel
  obtain ⟨houtput, hlicense, hnone⟩ := hthere
  obtain ⟨_, hmissing, hends⟩ :=
    assemble_checks_first (.ofString "out") (.ofString "LICENSE.md") (.ofString "README.md") crowdedOutput
  refine ⟨(hmissing _).2 ⟨houtput, .inr ⟨hlicense, hnone, rfl⟩⟩, ?_, ?_⟩
  · rcases hends with ⟨_, hdisk, _⟩ | ⟨⟨_, _, hreadme⟩, _⟩
    · exact hdisk
    · rw [hnone] at hreadme
      cases hreadme
  · obtain ⟨_, _, hends⟩ :=
      assemble_checks_first (.ofString "out") (.ofString "LICENSE.md") (.ofString "LICENSE.md") crowdedOutput
    obtain ⟨_, p, q, hp, hq, hextends, hresult⟩ :=
      hends.resolve_left fun hincomplete => hincomplete.1 ⟨houtput, hlicense, hlicense⟩
    obtain rfl : p = q := Option.some.inj (hp.symm.trans hq)
    have hfails : (assemble (.ofString "out") (.ofString "LICENSE.md") (.ofString "LICENSE.md")
        crowdedOutput).result ≠ .ok () := by
      decide +kernel
    obtain ⟨fault, hfailed | hfailed⟩ := hresult.resolve_left hfails
    · exact ⟨p, fault, hfailed, hextends⟩
    · exact ⟨p, fault, hfailed, hextends⟩

end Bundle

end ReleaseBundle
