import ReleaseBundle.Disk.Difference
import ReleaseBundle.Proofs.Bundle.Faithful
import ReleaseBundle.Proofs.Bundle.Overwriting

/-!
# Assembling twice

The second of two assemblies reads and writes the files that the first one has read or written, and all
depends on how the two documents and the two copies coincide. A copy that nothing was written onto since is
made again as it was. If both copies are one file, the second copy is made again over the first. What is
left is a license that is the copy of the readme: the first assembly has written the readme into it, so the
second one copies the readme twice.

A copy has the permission bits of its document, so a document that its owner may not write can be copied
once and not again.
-/

namespace ReleaseBundle

theorem FileData.eq_of_fields {f g : FileData} (hcontent : f.content = g.content) (hmode : f.mode = g.mode)
    (hfault : f.readFault = g.readFault) (hprogram : f.program = g.program) : f = g := by
  cases f
  cases g
  simp_all

namespace Disk

variable {d e : Disk} {p : Path} {content : Bytes} {mode t : Nat} {at_ : Location}

/-- Writing onto a file that is there gives nothing a new name. -/
theorem Wrote.node?_eq (h : Wrote d p content mode t e) (hstat : d.stat p = .ok (at_, .file t))
    (l : Location) : e.node? l = d.node? l := by
  cases h with
  | onto _ => rfl
  | fresh hfree =>
    rw [stat_eq_ok_iff_locate, hfree] at hstat
    cases hstat

theorem Agrees.extends (h : Agrees d e) (written : List Path) : Extends d e written [] where
  cwd := h.cwd
  kept l _ hnode := (h.node? l).trans hnode
  added l _ hnode := Or.inl ((h.node? l).symm.trans hnode)
  data _ n _ := Or.inl (h.data n)

theorem Agrees.holding? (h : Agrees d e) (hp : d.fileNumber? p = some t) : e.holding? p = d.holding? p := by
  obtain ⟨l, hstat⟩ := fileNumber?_eq_some_iff.1 hp
  rw [holding?_of_number hp, holding?_of_number (fileNumber?_eq_some_iff.2 ⟨l, h.stat hstat⟩), h.data]

end Disk

namespace Bundle

open Disk (Agrees Extends SameFile)

variable {d e middle : Disk} {output license readme p q : Path} {n t n' t' : Nat}

/-! ## What an assembly leaves -/

/-- The disk after an assembly, from which it can be made again. The second copy is up to date. The first one
is, too, unless the second one was written onto it or onto the license. If both copies are one file, the
second one was opened after the first one had given it the permission bits of the license. -/
structure Settled (e : Disk) (output license readme p q : Path) (n t n' t' : Nat) : Prop where
  complete : missing? e output license readme = none
  licenseCopy : copyOf? output license = some p
  readmeCopy : copyOf? output readme = some q
  first : Ready e license p n t
  second : Doubled e readme q n' t'
  upToDate : t ≠ t' → n ≠ t' → Doubled e license p n t
  program : (e.data t).program = none
  oneCopy : t = t' → n ≠ t → (e.data n).ownerWrites = true ∧ (n' = t → (e.data n).mode = (e.data t).mode)

theorem missing?_later {written made : List Path} (h : missing? d output license readme = none)
    (hext : Extends d e written made) : missing? e output license readme = none := by
  obtain ⟨houtput, hlicense, hreadme⟩ := missing?_eq_none_iff.1 h
  exact missing?_eq_none_iff.2 ⟨hext.isDirectory houtput, hext.isFile hlicense, hext.isFile hreadme⟩

/-- A copy over a file succeeds only if its owner may write it. -/
theorem writes_of_copyInto {source destination : Path} (h : Ready d source destination n t)
    (hcopy : copyOf? output source = some destination)
    (hresult : (copyInto output source d).result = .ok ()) : (d.data t).ownerWrites = true := by
  by_contra hwrites
  have hrefused := ((h.copyInto hcopy).1 (by simpa using hwrites)).1
  rw [hresult] at hrefused
  cases hrefused

theorem settled_of_assembled (h : (assemble output license readme d).result = .ok ()) :
    ∃ p q n t n' t',
      Settled (assemble output license readme d).disk output license readme p q n t n' t' := by
  have hext := assemble_extends output license readme d
  obtain ⟨hcomplete, hresult, hresult', hdisk⟩ := assemble_parts h
  obtain ⟨p, n, t, hp, hfirst⟩ := (copyInto_ends output license d).of_ok hresult
  obtain ⟨q, n', t', hq, hsecond⟩ := (copyInto_ends output readme _).of_ok hresult'
  rw [← hdisk] at hsecond
  generalize (assemble output license readme d).disk = e at hsecond hext ⊢
  generalize (copyInto output license d).disk = middle at hfirst hsecond hresult'
  refine ⟨p, q, n, t, n', t', missing?_later hcomplete hext, hp, hq, hfirst.ready.later hsecond,
    hsecond.doubled, fun ht hn => hfirst.doubled.later hsecond.wrote hn ht, ?_, fun ht hn => ?_⟩
  · by_cases ht : t = t'
    · rw [ht]
      exact hsecond.wrote.data_self.2.2
    · rw [hsecond.wrote.data_of_ne ht]
      exact hfirst.wrote.data_self.2.2
  · subst ht
    have hmode : (middle.data t).mode = (e.data n).mode := by
      rw [hfirst.wrote.data_self.2.1, hsecond.wrote.data_of_ne hn, hfirst.wrote.data_of_ne hn]
    have htarget : middle.fileNumber? q = some t :=
      (hsecond.number_iff hfirst.number_destination).1 hsecond.number_destination
    have hready : Ready middle readme q n' t :=
      ⟨hsecond.source, hsecond.readable.1, hsecond.readable.2, Disk.fileNumber?_eq_some_iff.1 htarget⟩
    have hwrites := writes_of_copyInto hready hq hresult'
    refine ⟨by rwa [FileData.ownerWrites, ← hmode], fun hn' => ?_⟩
    rw [hsecond.wrote.data_self.2.1, hn', hmode]

/-! ## Once more -/

namespace Settled

/-- The second copy can be opened after the first one exactly if it could be before. -/
theorem writes (h : Settled e output license readme p q n t n' t') (hcopied : Copied e license p n t middle)
    (hwrites : (e.data t).ownerWrites = true) :
    (middle.data t').ownerWrites = (e.data t').ownerWrites := by
  by_cases ht : t = t'
  · have hlicense : (e.data n).ownerWrites = true := by
      by_cases hn : n = t
      · rwa [hn]
      · exact (h.oneCopy ht hn).1
    rw [← ht, hwrites, FileData.ownerWrites, hcopied.wrote.data_self.2.1]
    exact hlicense
  · rw [hcopied.wrote.data_of_ne (Ne.symm ht)]

/-- The second copy stays up to date when the first one is made, if it is another file. -/
theorem doubled (h : Settled e output license readme p q n t n' t') (hcopied : Copied e license p n t middle)
    (ht : t ≠ t') : Doubled middle readme q n' t' := by
  by_cases hn' : n' = t
  · subst hn'
    by_cases hn : n = t'
    · -- the license is the copy of the readme, which is the copy of the license
      subst hn
      have hkept := hcopied.wrote.data_of_ne (Ne.symm ht)
      obtain ⟨hcontent, hmode, _⟩ := hcopied.wrote.data_self
      refine ⟨h.second.toReady.later hcopied, ?_, ?_, ?_⟩
      · rw [hkept, hcontent, if_neg (Ne.symm ht), if_neg ht]
      · rw [hkept, hmode]
      · rw [hkept, h.second.program]
    · exact h.second.agrees (hcopied.agrees (h.upToDate ht hn))
  · exact h.second.later hcopied.wrote hn' (Ne.symm ht)

/-- If both copies are one file, the second one makes up for the first. -/
theorem agrees_of_one (h : Settled e output license readme p q n t n' t) {last : Disk}
    (hcopied : Copied e license p n t middle) (hcopied' : Copied middle readme q n' t last) :
    Agrees e last := by
  obtain ⟨l, htarget⟩ := h.first.target
  obtain ⟨l', htarget'⟩ := (h.second.toReady.later hcopied).target
  refine ⟨hcopied'.wrote.cwd.trans hcopied.wrote.cwd, fun at_ => ?_, fun m => ?_⟩
  · rw [hcopied'.wrote.node?_eq htarget', hcopied.wrote.node?_eq htarget]
  · by_cases hm : m = t
    · subst hm
      obtain ⟨hcontent, hmode, hprogram⟩ := hcopied'.wrote.data_self
      refine FileData.eq_of_fields ?_ ?_ ?_ ?_
      · rw [hcontent, h.second.content]
        split
        · rfl
        · next helse => rw [hcopied.wrote.data_of_ne (Ne.symm helse)]
      · rw [hmode]
        by_cases hn' : n' = m
        · rw [hn', hcopied.wrote.data_self.2.1]
          by_cases hn : n = m
          · rw [hn]
          · exact (h.oneCopy rfl hn).2 hn'
        · rw [hcopied.wrote.data_of_ne hn', h.second.mode]
      · rw [hcopied'.wrote.readFault, hcopied.wrote.readFault]
      · rw [hprogram, h.program]
    · rw [hcopied'.wrote.data_of_ne hm, hcopied.wrote.data_of_ne hm]

theorem numbers (h : Settled e output license readme p q n t n' t') :
    e.fileNumber? license = some n ∧ e.fileNumber? p = some t ∧ e.fileNumber? q = some t' :=
  ⟨Disk.fileNumber?_eq_some_iff.2 h.first.source, Disk.fileNumber?_eq_some_iff.2 h.first.target,
    Disk.fileNumber?_eq_some_iff.2 h.second.target⟩

theorem onCopy (h : Settled e output license readme p q n t n' t') : e.SameFile license q ↔ n = t' := by
  obtain ⟨hlicense, _, hq⟩ := h.numbers
  exact Disk.sameFile_iff_number hlicense hq

/-- What a second assembly comes to when the first copy may be written: it succeeds if the second one may
be, too, and it changes nothing unless the license is the copy of the readme. Then it makes the first copy
again and changes nothing else. -/
theorem again (h : Settled e output license readme p q n t n' t') (hwrites : (e.data t).ownerWrites = true) :
    ((e.data t').ownerWrites = false → (assemble output license readme e).result =
      .error (.copyFailed readme q (.os .accessDenied))) ∧
    ((e.data t').ownerWrites = true → (assemble output license readme e).result = .ok ()) ∧
    (n ≠ t' ∨ t = t' → Agrees e (assemble output license readme e).disk) ∧
    (t ≠ t' → ∃ middle, Copied e license p n t middle ∧
      Agrees middle (assemble output license readme e).disk) := by
  obtain ⟨middle, hcopied, hrefused, hdone⟩ :=
    (assemble_over h.complete h.licenseCopy h.readmeCopy h.first h.second.toReady).2 hwrites
  rw [h.writes hcopied hwrites] at hrefused hdone
  have hrest : t ≠ t' → Agrees middle (assemble output license readme e).disk := by
    intro ht
    cases hwrites' : (e.data t').ownerWrites with
    | false =>
      rw [(hrefused hwrites').2]
      exact .refl middle
    | true => exact (hdone hwrites').2.agrees (h.doubled hcopied ht)
  refine ⟨fun hnot => (hrefused hnot).1, fun hmay => (hdone hmay).1, fun helse => ?_,
    fun ht => ⟨middle, hcopied, hrest ht⟩⟩
  by_cases ht : t = t'
  · subst ht
    exact h.agrees_of_one hcopied (hdone hwrites).2
  · exact (hcopied.agrees (h.upToDate ht (helse.resolve_right ht))).trans (hrest ht)

/-- If the license is not the copy of the readme, or both copies are one file, the first copy holds what it
held. -/
theorem holds_of_agrees (h : Settled e output license readme p q n t n' t') {last : Disk}
    (hcase : n ≠ t' ∨ t = t') (hagrees : Agrees e last) :
    last.holding? p = (if e.SameFile license q then e.holding? q else e.holding? p) ∧
      (Agrees e last ↔ (e.SameFile license q → e.holding? p = e.holding? q)) := by
  obtain ⟨_, hp, hq⟩ := h.numbers
  have hholds : e.SameFile license q → e.holding? p = e.holding? q := by
    intro hone
    rw [Disk.holding?_of_number hp, Disk.holding?_of_number hq,
      hcase.resolve_left fun hn => hn (h.onCopy.1 hone)]
  refine ⟨?_, fun _ => hholds, fun _ => hagrees⟩
  rw [hagrees.holding? hp]
  split
  · next hone => exact hholds hone
  · rfl

/-- If the license is the copy of the readme, and only then, the first copy gets the readme. -/
theorem holds_of_copied (h : Settled e output license readme p q n t n' t') {last : Disk} (hn : n = t')
    (ht : t ≠ t') (hcopied : Copied e license p n t middle) (hagrees : Agrees middle last) :
    last.holding? p = (if e.SameFile license q then e.holding? q else e.holding? p) ∧
      (Agrees e last ↔ (e.SameFile license q → e.holding? p = e.holding? q)) := by
  obtain ⟨_, hp, hq⟩ := h.numbers
  obtain ⟨to_, htarget⟩ := h.first.target
  have honCopy := h.onCopy.2 hn
  subst hn
  have hnumber : middle.fileNumber? p = some t := hcopied.number_destination
  have hfilled : middle.holding? p = e.holding? q := by
    rw [Disk.holding?_of_number hnumber, Disk.holding?_of_number hq, hcopied.holding, if_pos rfl,
      Holding.copied, if_neg ht]
  have hholding : last.holding? p = e.holding? q := (hagrees.holding? hnumber).trans hfilled
  refine ⟨by rw [if_pos honCopy, hholding], fun hunchanged _ => ?_, fun hholds => ?_⟩
  · rw [← hunchanged.holding? hp, hholding]
  · have hequal := hholds honCopy
    rw [Disk.holding?_of_number hp, Disk.holding?_of_number hq, Option.some.injEq, FileData.holding,
      FileData.holding, Holding.mk.injEq] at hequal
    refine (hcopied.wrote.agrees htarget ?_ hequal.2 h.program).trans hagrees
    rw [if_neg ht, hequal.1]

end Settled

/-- After a copy of a document that may be written, the copy may be written, and so may what could be
before. -/
theorem Copied.ownerWrites (h : Copied d license p n t e) (hwrites : (d.data n).ownerWrites = true) {m : Nat}
    (hm : m = t ∨ (d.data m).ownerWrites = true) : (e.data m).ownerWrites = true := by
  by_cases hself : m = t
  · rwa [hself, FileData.ownerWrites, h.wrote.data_self.2.1]
  · rw [h.wrote.data_of_ne hself]
    exact hm.resolve_left hself

/-- The copies have the permission bits of their documents, unless they are one file, which has those of one
of them. -/
theorem writable_after {p q : Path} (h : (assemble output license readme d).result = .ok ())
    (hp : copyOf? output license = some p) (hq : copyOf? output readme = some q)
    (hlicense : d.Writable license) (hreadme : d.Writable readme) :
    (assemble output license readme d).disk.Writable p ∧
      (assemble output license readme d).disk.Writable q := by
  obtain ⟨hcomplete, p', q', middle, n, t, n', t', hp', hq', hfirst, hsecond⟩ :=
    (assemble_ends output license readme d).of_ok h
  obtain rfl := Option.some.inj (hp.symm.trans hp')
  obtain rfl := Option.some.inj (hq.symm.trans hq')
  generalize (assemble output license readme d).disk = e at hsecond ⊢
  have hnumber := hfirst.number_before (missing?_eq_none_iff.1 hcomplete).2.2 hsecond.number_source
  have hwrites : (d.data n).ownerWrites = true := by
    simpa [Disk.writable_iff_number, hfirst.number_source] using hlicense
  have hwrites' : (d.data n').ownerWrites = true := by
    simpa [Disk.writable_iff_number, hnumber] using hreadme
  have hdocument' := hfirst.ownerWrites hwrites (Or.inr hwrites')
  have hcopy := hsecond.ownerWrites hdocument' (Or.inr (hfirst.ownerWrites hwrites (Or.inl rfl)))
  have hcopy' := hsecond.ownerWrites hdocument' (Or.inl rfl)
  obtain ⟨l, htarget⟩ := hfirst.wrote.stat
  obtain ⟨l', htarget'⟩ := hsecond.wrote.stat
  exact ⟨⟨l, t, hsecond.wrote.ext.stat htarget, hcopy⟩, ⟨l', t', htarget', hcopy'⟩⟩

/-- What a second assembly comes to after one that succeeded, however the two documents and the two copies
coincide. It stops at the first copy that its owner may not write. What it changes is the first copy at most,
and that only if the license is the copy of the readme and does not hold the same as its own copy by now. In
particular nothing changes and nothing fails if the documents may be written and the license is not the copy
of the readme. -/
theorem assemble_again (h : (assemble output license readme d).result = .ok ()) :
    ∃ p q, copyOf? output license = some p ∧ copyOf? output readme = some q ∧
      let e := (assemble output license readme d).disk
      let again := assemble output license readme e
      (¬ e.Writable p → again.result = .error (.copyFailed license p (.os .accessDenied)) ∧ again.disk = e) ∧
      (e.Writable p →
        (¬ e.Writable q → again.result = .error (.copyFailed readme q (.os .accessDenied))) ∧
        (e.Writable q → again.result = .ok ()) ∧
        Extends e again.disk [p] [] ∧
        again.disk.holding? p = (if e.SameFile license q then e.holding? q else e.holding? p) ∧
        (Agrees e again.disk ↔ (e.SameFile license q → e.holding? p = e.holding? q))) ∧
      (d.Writable license → d.Writable readme → ¬ e.SameFile license q →
        again.result = .ok () ∧ Agrees e again.disk) := by
  obtain ⟨p, q, n, t, n', t', hsettled⟩ := settled_of_assembled h
  have hafter := writable_after h hsettled.licenseCopy hsettled.readmeCopy
  refine ⟨p, q, hsettled.licenseCopy, hsettled.readmeCopy, ?_⟩
  intro e again
  obtain ⟨_, htarget⟩ := hsettled.first.target
  obtain ⟨_, htarget'⟩ := hsettled.second.target
  have hmay : e.Writable p ↔ (e.data t).ownerWrites = true := Disk.writable_iff htarget
  have hmay' : e.Writable q ↔ (e.data t').ownerWrites = true := Disk.writable_iff htarget'
  refine ⟨fun hnot => ?_, fun hfirst => ?_, fun hdocument hdocument' helse => ?_⟩
  · rw [hmay, Bool.not_eq_true] at hnot
    exact (assemble_over hsettled.complete hsettled.licenseCopy hsettled.readmeCopy hsettled.first
      hsettled.second.toReady).1 hnot
  · obtain ⟨hrefused, hdone, hsame, hmade⟩ := hsettled.again (hmay.1 hfirst)
    refine ⟨fun hnot => hrefused (by rwa [hmay', Bool.not_eq_true] at hnot),
      fun hok => hdone (hmay'.1 hok), ?_⟩
    by_cases hcase : n ≠ t' ∨ t = t'
    · have hagrees : Agrees e again.disk := hsame hcase
      exact ⟨hagrees.extends _, hsettled.holds_of_agrees hcase hagrees⟩
    · obtain ⟨hn, ht⟩ := not_or.1 hcase
      obtain ⟨middle, hcopied, hagrees⟩ := hmade ht
      exact ⟨hcopied.wrote.ext.trans (hagrees.extends []),
        hsettled.holds_of_copied (not_not.1 hn) ht hcopied hagrees⟩
  · obtain ⟨hfirst, hsecond⟩ := hafter hdocument hdocument'
    obtain ⟨_, hdone, hsame, _⟩ := hsettled.again (hmay.1 hfirst)
    exact ⟨hdone (hmay'.1 hsecond), hsame (Or.inl fun hn => helse (hsettled.onCopy.2 hn))⟩

/-- A license that its owner may only read, a readme and a build output. -/
def lockedLicense : Disk :=
  Disk.placeFile (Disk.locationOf (.ofString "LICENSE.md")) { content := Text.ofString "MIT", mode := 0o444 }
    (Disk.placeFile (Disk.locationOf (.ofString "README.md")) { content := Text.ofString "R", mode := 0o644 }
      (Disk.place (Disk.locationOf (.ofString "out")) .directory .empty))

/-- A license that is a link to where the readme is copied. -/
def linkedLicense : Disk :=
  Disk.place (Disk.locationOf (.ofString "L")) (.link (.ofString "out/README.md"))
    (Disk.placeFile (Disk.locationOf (.ofString "out/README.md"))
      { content := Text.ofString "old", mode := 0o644 }
      (Disk.placeFile (Disk.locationOf (.ofString "README.md"))
        { content := Text.ofString "R", mode := 0o644 } .empty))

/-- The assembly of both. -/
def assembling (license : String) (d : Disk) : Account BundleFailure Unit :=
  assemble (.ofString "out") (.ofString license) (.ofString "README.md") d

/-- The first license is copied once and not again. The second one is copied again, with other contents. -/
theorem assembled_twice_otherwise :
    ((assembling "LICENSE.md" lockedLicense).result = .ok () ∧
      (assembling "LICENSE.md" (assembling "LICENSE.md" lockedLicense).disk).result =
        .error (.copyFailed (.ofString "LICENSE.md") (.ofString "out/LICENSE.md") (.os .accessDenied))) ∧
    (assembling "L" linkedLicense).result = .ok () ∧
      (assembling "L" (assembling "L" linkedLicense).disk).result = .ok () ∧
      ¬ Agrees (assembling "L" linkedLicense).disk
          (assembling "L" (assembling "L" linkedLicense).disk).disk := by
  have hlocked : (assembling "LICENSE.md" lockedLicense).result = .ok () := by decide +kernel
  have hlinked : (assembling "L" linkedLicense).result = .ok () := by decide +kernel
  have hcopies : copyOf? (.ofString "out") (.ofString "LICENSE.md") = some (.ofString "out/LICENSE.md") ∧
      copyOf? (.ofString "out") (.ofString "L") = some (.ofString "out/L") ∧
      copyOf? (.ofString "out") (.ofString "README.md") = some (.ofString "out/README.md") := by
    decide +kernel
  obtain ⟨hlockedCopy, hlinkedCopy, hreadmeCopy⟩ := hcopies
  refine ⟨⟨hlocked, ?_⟩, hlinked, ?_⟩
  · obtain ⟨p, q, hp, hq, hrefused, -⟩ := assemble_again hlocked
    obtain rfl := Option.some.inj (hlockedCopy.symm.trans hp)
    exact (hrefused (by decide +kernel)).1
  · obtain ⟨p, q, hp, hq, -, hagain, -⟩ := assemble_again hlinked
    obtain rfl := Option.some.inj (hlinkedCopy.symm.trans hp)
    obtain rfl := Option.some.inj (hreadmeCopy.symm.trans hq)
    obtain ⟨-, hdone, -, -, hsame⟩ := hagain (by decide +kernel)
    refine ⟨hdone (by decide +kernel), fun hagrees => ?_⟩
    have honCopy :
        (assembling "L" linkedLicense).disk.SameFile (.ofString "L") (.ofString "out/README.md") := by
      decide +kernel
    have hother : (assembling "L" linkedLicense).disk.holding? (.ofString "out/L") ≠
        (assembling "L" linkedLicense).disk.holding? (.ofString "out/README.md") := by decide +kernel
    exact hother (hsame.1 hagrees honCopy)

end Bundle

end ReleaseBundle
