import ReleaseBundle.Disk.Difference
import ReleaseBundle.Proofs.Bundle.Checks
import ReleaseBundle.Proofs.Disk.Files

/-!
# What the copies hold

Each document of a bundle is copied over whatever its name in the output leads to, and the destination is
emptied before the source is read. So a copy is faithful unless it was made onto a file that was still
needed: the document itself, which is lost, or the other document, or the other copy. These are all the
ways in which a successful assembly can be unfaithful, and what the copies hold then is determined, too.
-/

namespace ReleaseBundle.Bundle

open Disk (SameFile)

variable {d e last : Disk} {source destination output license readme p q : Path} {n n' t t' m : Nat}

/-! ## One copy -/

namespace Copied

theorem number_source (h : Copied d source destination n t e) : d.fileNumber? source = some n :=
  Disk.fileNumber?_eq_some_iff.2 h.source

theorem number_destination (h : Copied d source destination n t e) :
    e.fileNumber? destination = some t := h.wrote.fileNumber?_self

/-- A file keeps its number, and writing leads no path to it that did not lead there. -/
theorem number_iff (h : Copied d source destination n t e) (hp : d.fileNumber? p = some m) :
    e.fileNumber? q = some m ↔ d.fileNumber? q = some m := by
  obtain ⟨at_, hstat⟩ := Disk.fileNumber?_eq_some_iff.1 hp
  exact h.wrote.fileNumber?_iff (Disk.node?_of_stat hstat)

/-- The copy is made onto the files that the destination leads to already. -/
theorem sameFile_iff (h : Copied d source destination n t e) (hp : d.fileNumber? p = some m) :
    d.SameFile destination p ↔ t = m := by
  obtain ⟨at_, hstat⟩ := Disk.fileNumber?_eq_some_iff.1 hp
  rw [← h.wrote.number_eq_iff (Disk.node?_of_stat hstat)]
  simp [Disk.sameFile_iff, hp]

theorem holding (h : Copied d source destination n t e) (m : Nat) :
    (e.data m).holding = if m = t then (d.data n).holding.copied (t = n) else (d.data m).holding := by
  split
  · next hm =>
    rw [hm, h.wrote.holding_self, Holding.copied]
    split <;> rfl
  · next hm => rw [h.wrote.data_of_ne hm]

/-- A file that a path leads to after a copy is the one it led to before, if it led to a file. -/
theorem number_before (h : Copied d source destination n t e) (hfile : d.isFile q = true)
    (hafter : e.fileNumber? q = some m) : d.fileNumber? q = some m := by
  obtain ⟨at_, k, hstat⟩ := Disk.isFile_iff.1 hfile
  have hbefore : d.fileNumber? q = some k := Disk.fileNumber?_eq_some_iff.2 ⟨at_, hstat⟩
  have hsame := (h.number_iff hbefore).2 hbefore
  rwa [hafter.symm.trans hsame]

/-- A copy leads no path to a file that another path led to already. -/
theorem sameFile_before (h : Copied d source destination n t e) (hp : d.fileNumber? p = some m)
    (hafter : e.fileNumber? p = some m) : e.SameFile q p ↔ d.SameFile q p := by
  simp [Disk.sameFile_iff, hp, hafter, h.number_iff hp]

/-- What is in a file after two copies. -/
theorem holding_both (h : Copied d license p n t e) (h' : Copied e readme q n' t' last) (m : Nat) :
    (last.data m).holding = if m = t' then
      (if t = n' then (d.data n).holding.copied (t = n) else (d.data n').holding).copied (t' = n')
      else if m = t then (d.data n).holding.copied (t = n) else (d.data m).holding := by
  rw [h'.holding, h.holding, h.holding]
  simp only [eq_comm]

end Copied

/-! ## Both copies -/

/-- What both copies hold after an assembly: what their documents held, except that a copy onto the
document itself is empty, that a copy of the license onto the readme is what the second copy is made of,
and that the second copy replaces the first one if both are one file. In particular each copy holds exactly
what its document held if it is made onto no document that is still needed and is not replaced. -/
theorem assemble_faithful (h : (assemble output license readme d).result = .ok ()) :
    ∃ p q f g, copyOf? output license = some p ∧ copyOf? output readme = some q ∧
      d.holding? license = some f ∧ d.holding? readme = some g ∧
      let e := (assemble output license readme d).disk
      let first := f.copied (d.SameFile p license)
      let second := (if d.SameFile p readme then first else g).copied (d.SameFile q readme)
      e.holding? p = some (if e.SameFile p q then second else first) ∧ e.holding? q = some second ∧
      (¬ d.SameFile p license → (e.SameFile p q → d.SameFile license readme) →
        e.holding? p = d.holding? license) ∧
      (¬ d.SameFile p readme → ¬ d.SameFile q readme → e.holding? q = d.holding? readme) := by
  obtain ⟨hcomplete, p, q, middle, n, t, n', t', hp, hq, hfirst, hsecond⟩ :=
    (assemble_ends output license readme d).of_ok h
  generalize (assemble output license readme d).disk = e at hsecond ⊢
  have hlicense : d.fileNumber? license = some n := hfirst.number_source
  have hreadme : d.fileNumber? readme = some n' :=
    hfirst.number_before (missing?_eq_none_iff.1 hcomplete).2.2 hsecond.number_source
  have honLicense : d.SameFile p license ↔ t = n := hfirst.sameFile_iff hlicense
  have honReadme : d.SameFile p readme ↔ t = n' := hfirst.sameFile_iff hreadme
  have honSelf : d.SameFile q readme ↔ t' = n' :=
    (hfirst.sameFile_before hreadme hsecond.number_source).symm.trans
      (hsecond.sameFile_iff hsecond.number_source)
  have hp' : e.fileNumber? p = some t :=
    (hsecond.number_iff hfirst.number_destination).2 hfirst.number_destination
  have hone : e.SameFile p q ↔ t = t' := Disk.sameFile_iff_number hp' hsecond.number_destination
  have hsame : d.SameFile license readme ↔ n = n' := Disk.sameFile_iff_number hlicense hreadme
  have hfinal := hfirst.holding_both hsecond
  refine ⟨p, q, _, _, hp, hq, Disk.holding?_of_number hlicense, Disk.holding?_of_number hreadme, ?_⟩
  simp only [Disk.holding?_of_number hp', Disk.holding?_of_number hsecond.number_destination,
    Disk.holding?_of_number hlicense, Disk.holding?_of_number hreadme, honLicense, honReadme, honSelf,
    hone, hsame, hfinal]
  refine ⟨by simp, by simp, fun hnotSelf hreplaced => ?_, fun hnotReadme hnotSelf => ?_⟩
  · by_cases honeFile : t = t'
    · obtain rfl := hreplaced honeFile
      simp [Holding.copied, hnotSelf, ← honeFile]
    · simp [Holding.copied, hnotSelf, honeFile]
  · simp [Holding.copied, hnotReadme, hnotSelf]

/-- A build output in which the license lies already, and a readme beside it. -/
def licensedOutput : Disk :=
  Disk.placeFile (Disk.locationOf (.ofString "out/LICENSE.md"))
    { content := Text.ofString "MIT", mode := 0o644 }
    (Disk.placeFile (Disk.locationOf (.ofString "README.md"))
      { content := Text.ofString "R", mode := 0o644 } .empty)

/-- The assembly that takes the license from the output itself. -/
def relicensing : Account BundleFailure Unit :=
  assemble (.ofString "out") (.ofString "out/LICENSE.md") (.ofString "README.md") licensedOutput

/-- This license is copied onto itself, and nothing of it is left. -/
theorem license_in_output_emptied :
    relicensing.result = .ok () ∧
    licensedOutput.holding? (.ofString "out/LICENSE.md") = some ⟨Text.ofString "MIT", 0o644⟩ ∧
    relicensing.disk.holding? (.ofString "out/LICENSE.md") = some ⟨[], 0o644⟩ := by
  have hdone : relicensing.result = .ok () := by decide +kernel
  have hbefore : licensedOutput.holding? (.ofString "out/LICENSE.md") =
      some ⟨Text.ofString "MIT", 0o644⟩ := by decide +kernel
  refine ⟨hdone, hbefore, ?_⟩
  obtain ⟨p, q, f, g, hp, hq, hf, hg, hfirst, -⟩ := assemble_faithful hdone
  have hlicense : copyOf? (.ofString "out") (.ofString "out/LICENSE.md") =
      some (.ofString "out/LICENSE.md") := by decide +kernel
  have hreadme : copyOf? (.ofString "out") (.ofString "README.md") =
      some (.ofString "out/README.md") := by decide +kernel
  obtain rfl := Option.some.inj (hlicense.symm.trans hp)
  obtain rfl := Option.some.inj (hreadme.symm.trans hq)
  obtain rfl := Option.some.inj (hbefore.symm.trans hf)
  have hitself : licensedOutput.SameFile (.ofString "out/LICENSE.md") (.ofString "out/LICENSE.md") := by
    decide +kernel
  have hapart : ¬ relicensing.disk.SameFile (.ofString "out/LICENSE.md") (.ofString "out/README.md") := by
    decide +kernel
  exact hfirst.trans (congrArg some ((if_neg hapart).trans (if_pos hitself)))

end ReleaseBundle.Bundle
