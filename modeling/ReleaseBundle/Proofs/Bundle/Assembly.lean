import ReleaseBundle.Bundle.Assembly
import ReleaseBundle.Proofs.Disk.Growth
import ReleaseBundle.Proofs.Outcome

/-!
# What assembling does to the disk

A copy opens the source, opens and empties the destination, sets its permission bits and only then
reads. After each of these steps the disk differs from the first one by one file, the one that the
destination leads to, so a copy that fails half-way is described like a complete one. The source
comes out as a parameter of the description: if the destination led to the source itself, there was
nothing left to read.
-/

namespace ReleaseBundle

namespace Disk

variable {d e : Disk} {p : Path} {mode t : Nat} {content bytes : Bytes}

theorem wrote_of_openForWriting (h : d.openForWriting p mode = .ok (e, t)) :
    Wrote d p [] mode t (e.setMode t mode) := by
  unfold openForWriting at h
  split at h
  · cases h
  · split at h
    · cases h
    · next at_ number hlocate =>
      split at h
      · cases h
        have : Wrote d p [] mode t _ := .onto (stat_eq_ok_iff_locate.2 hlocate)
        simpa [setMode] using this
      · cases h
    · cases h
    · next dir name hlocate =>
      cases h
      have : Wrote d p [] mode d.freshNumber _ := .fresh hlocate
      simpa [setMode, createFile_eq_staged, data_staged, staged] using this

theorem Wrote.appendTo (h : Wrote d p content mode t e) (bytes : Bytes) :
    Wrote d p (content ++ bytes) mode t (e.appendTo t bytes) := by
  cases h with
  | onto hstat =>
    have : Wrote d p (content ++ bytes) mode t _ := .onto hstat
    simpa [Disk.appendTo] using this
  | fresh hfree =>
    rw [appendTo_staged]
    exact .fresh hfree

end Disk

namespace Bundle

open Disk (Wrote Extends)

variable {d e : Disk} {source destination output license readme : Path} {n t : Nat}

/-! ## One copy -/

/-- The disk after the file `n` was copied to a path; `t` is the file that the path leads to. A file
that is copied onto itself is emptied. -/
structure Copied (d : Disk) (source destination : Path) (n t : Nat) (e : Disk) : Prop where
  source : ∃ at_, d.stat source = .ok (at_, .file n)
  readable : (d.data n).ownerReads = true ∧ (d.data n).readFault = none
  wrote : Wrote d destination (if t = n then [] else (d.data n).content) (d.data n).mode t e

/-- The disk after work on a file at a path that may have stopped at any point. -/
def Touched (d : Disk) (p : Path) (e : Disk) : Prop :=
  e = d ∨ ∃ content mode t, Wrote d p content mode t e

theorem Touched.ext {p : Path} (h : Touched d p e) : Extends d e [p] [] := by
  rcases h with rfl | ⟨content, mode, t, h⟩
  · exact (Extends.refl _).mono (List.nil_subset _) (List.Subset.refl _)
  · exact h.ext

theorem Copied.touched (h : Copied d source destination n t e) : Touched d destination e :=
  Or.inr ⟨_, _, _, h.wrote⟩

/-- The destination that is found is the one that is written. -/
theorem Copied.number_eq {l : Location} {m : Nat} (h : Copied d source destination n t e)
    (hstat : d.stat destination = .ok (l, .file m)) : t = m := by
  have hwrote := h.wrote
  obtain ⟨at_, hafter⟩ := hwrote.stat
  rw [hwrote.ext.stat hstat] at hafter
  cases hafter
  rfl

theorem copyContents_ends (source destination : Path) (d : Disk) :
    (copyContents source destination).Ends d
      (fun _ e => ∃ n t, Copied d source destination n t e)
      (fun _ e => Touched d destination e) := by
  simp only [copyContents, Job.ends_bind]
  refine Job.ends_inspect.2 ⟨fun opened hopened => ?_, fun _ _ => Or.inl rfl⟩
  cases opened with
  | directory => exact Or.inl rfl
  | file n f =>
    obtain ⟨hsource, rfl, hreads⟩ := Disk.openPath_eq_file_iff.1 hopened
    simp only [Job.ends_bind]
    refine Job.ends_attempt.2 ⟨fun opened t htarget => ?_, fun _ _ => Or.inl rfl⟩
    have hwrote := Disk.wrote_of_openForWriting htarget
    refine Job.ends_change.2 (Job.ends_inspect.2 ⟨fun content hcontent => ?_, fun _ _ => ?_⟩)
    · obtain ⟨hfault, hread⟩ := FileData.read_eq_ok_iff.1 hcontent
      refine Job.ends_change.2 ⟨n, t, hsource, ⟨hreads, ?_⟩, ?_⟩
      · exact (hwrote.readFault n).symm.trans hfault
      · have hcontent : content = if t = n then [] else (d.data n).content := by
          split
          · next hself =>
            subst hself
            exact hread.symm.trans hwrote.data_self.1
          · next helse => rw [← hread, hwrote.data_of_ne (Ne.symm helse)]
        rw [← hcontent]
        exact hwrote.appendTo content
    · exact Or.inr ⟨[], _, t, hwrote⟩

theorem copyFile_ends (source destination : Path) (d : Disk) :
    (copyFile source destination).Ends d
      (fun _ e => ∃ n t, Copied d source destination n t e)
      (fun _ e => Touched d destination e) := by
  simp only [copyFile, Job.ends_bind, Job.ends_mapError]
  refine Job.ends_inspect.2 ⟨fun _ _ => ?_, fun _ _ => Or.inl rfl⟩
  exact copyContents_ends source destination d

/-! ## The whole assembly -/

/-- Where a file goes that is copied into a directory under its own name. -/
def copyOf? (output source : Path) : Option Path := source.fileName?.map output.child

/-- The paths that assembling writes to. -/
def copies (output license readme : Path) : List Path :=
  [license, readme].filterMap (copyOf? output)

theorem copyInto_ends (output source : Path) (d : Disk) :
    (copyInto output source).Ends d
      (fun _ e => ∃ p n t, copyOf? output source = some p ∧ Copied d source p n t e)
      (fun _ e => e = d ∨ ∃ p, copyOf? output source = some p ∧ Touched d p e) := by
  unfold copyInto
  split
  · exact Or.inl rfl
  · next name hname =>
    have hcopy : copyOf? output source = some (output.child name) := by simp [copyOf?, hname]
    simp only [Job.ends_bind, Job.ends_log]
    refine (copyFile_ends source (output.child name) d).mono ?_ ?_
    · rintro _ e ⟨n, t, h⟩
      exact ⟨_, n, t, hcopy, h⟩
    · intro _ e h
      exact Or.inr ⟨_, hcopy, h⟩

/-- The disk after a bundle was completed. -/
structure Assembled (d : Disk) (output license readme : Path) (e : Disk) : Prop where
  complete : missing? d output license readme = none
  copied : ∃ p q middle n t n' t', copyOf? output license = some p ∧ copyOf? output readme = some q ∧
    Copied d license p n t middle ∧ Copied middle readme q n' t' e

/-- What may have become of a disk when a file was copied into a directory or not. -/
def MayCopy (output source : Path) (d e : Disk) : Prop :=
  e = d ∨ ∃ p, copyOf? output source = some p ∧ Touched d p e

theorem MayCopy.ext (h : MayCopy output source d e) :
    Extends d e (copyOf? output source).toList [] := by
  rcases h with rfl | ⟨p, hp, h⟩
  · exact (Extends.refl _).mono (List.nil_subset _) (List.Subset.refl _)
  · rw [hp]
    exact h.ext

theorem assemble_ends (output license readme : Path) (d : Disk) :
    (assemble output license readme).Ends d
      (fun _ e => Assembled d output license readme e)
      (fun _ e => ∃ middle, MayCopy output license d middle ∧ MayCopy output readme middle e) := by
  simp only [assemble, Job.ends_bind]
  refine Job.ends_inspect.2 ⟨fun _ hcomplete => ?_, fun _ _ => ⟨d, Or.inl rfl, Or.inl rfl⟩⟩
  have hcomplete : missing? d output license readme = none := by
    split at hcomplete
    · cases hcomplete
    · next h => exact h
  refine (copyInto_ends output license d).mono ?_ fun _ e h => ⟨e, h, Or.inl rfl⟩
  rintro _ middle ⟨p, n, t, hp, hfirst⟩
  refine (copyInto_ends output readme middle).mono ?_ fun _ e h => ⟨middle, ?_, h⟩
  · rintro _ e ⟨q, n', t', hq, hsecond⟩
    exact ⟨hcomplete, p, q, middle, n, t, n', t', hp, hq, hfirst, hsecond⟩
  · exact Or.inr ⟨p, hp, hfirst.touched⟩

theorem copies_eq (output license readme : Path) :
    copies output license readme =
      (copyOf? output license).toList ++ (copyOf? output readme).toList := by
  cases h : copyOf? output license <;> cases h' : copyOf? output readme <;> simp [copies, h, h']

theorem assemble_steps (output license readme : Path) (d : Disk) :
    ∃ middle, MayCopy output license d middle ∧
      MayCopy output readme middle (assemble output license readme d).disk := by
  cases hresult : (assemble output license readme d).result with
  | error x => exact (assemble_ends output license readme d).of_error hresult
  | ok a =>
    obtain ⟨p, q, middle, n, t, n', t', hp, hq, hfirst, hsecond⟩ :=
      ((assemble_ends output license readme d).of_ok hresult).copied
    exact ⟨middle, Or.inr ⟨p, hp, hfirst.touched⟩, Or.inr ⟨q, hq, hsecond.touched⟩⟩

/-- Assembling changes no more than the two copies, also when it fails. -/
theorem assemble_extends (output license readme : Path) (d : Disk) :
    Extends d (assemble output license readme d).disk (copies output license readme) [] := by
  obtain ⟨middle, hfirst, hsecond⟩ := assemble_steps output license readme d
  rw [copies_eq]
  exact hfirst.ext.trans hsecond.ext

theorem MayCopy.data {at_ : Location} (h : MayCopy output source d e)
    (hnode : d.node? at_ = some (.file n))
    (helse : ∀ p, copyOf? output source = some p → ∀ l, d.stat p ≠ .ok (l, .file n)) :
    e.data n = d.data n ∧ ∀ q l, e.stat q = .ok (l, .file n) → d.stat q = .ok (l, .file n) := by
  rcases h with rfl | ⟨p, hp, rfl | ⟨content, mode, t, hwrote⟩⟩
  · exact ⟨rfl, fun _ _ h => h⟩
  · exact ⟨rfl, fun _ _ h => h⟩
  · have hne := hwrote.number_ne hnode (helse p hp)
    exact ⟨hwrote.data_of_ne hne, fun q l h => hwrote.stat_before (by simpa using hne) h⟩

/-- A file that no copy leads to keeps its contents. -/
theorem assemble_data {at_ : Location} (hnode : d.node? at_ = some (.file n))
    (helse : ∀ p ∈ copies output license readme, ∀ l, d.stat p ≠ .ok (l, .file n)) :
    (assemble output license readme d).disk.data n = d.data n := by
  obtain ⟨middle, hfirst, hsecond⟩ := assemble_steps output license readme d
  rw [copies_eq] at helse
  obtain ⟨hdata, hbefore⟩ := hfirst.data hnode fun p hp => helse p (by simp [hp])
  have hnode' : middle.node? at_ = some (.file n) := hfirst.ext.kept _ _ hnode
  refine (hsecond.data hnode' fun p hp l hl => ?_).1.trans hdata
  exact helse p (by simp [hp]) l (hbefore p l hl)

/-! ## Copies that succeed -/

theorem openForWriting_file {p : Path} {at_ : Location} {mode : Nat} (hstat : d.stat p = .ok (at_, .file t)) :
    d.openForWriting p mode =
      if (d.data t).ownerWrites = true then
        .ok (d.setFile t { d.data t with content := [], program := none }, t)
      else .error (.os .accessDenied) := by
  unfold Disk.openForWriting
  rw [if_neg (by simp [Disk.asksForDirectory_of_file hstat]), Disk.stat_eq_ok_iff_locate.1 hstat]

/-- What copying over an existing file comes to. The right to write decides, and then whether the
source can be read. -/
theorem copyContents_file {from_ to_ : Location} (hsource : d.stat source = .ok (from_, .file n))
    (hreads : (d.data n).ownerReads = true) (htarget : d.stat destination = .ok (to_, .file t)) :
    ((d.data t).ownerWrites = false →
      (copyContents source destination d).result = .error (.os .accessDenied) ∧
        (copyContents source destination d).disk = d) ∧
    ((d.data t).ownerWrites = true → (d.data n).readFault = none →
      (copyContents source destination d).result = .ok ()) := by
  have hopen : d.openPath source = .ok (.file n (d.data n)) :=
    Disk.openPath_eq_file_iff.2 ⟨⟨from_, hsource⟩, rfl, hreads⟩
  have hwrite : d.openForWriting destination (d.data n).mode = _ := openForWriting_file htarget
  constructor
  · intro hwrites
    rw [hwrites, if_neg (by simp)] at hwrite
    constructor <;>
      simp [copyContents, bind, Job.bind, Job.inspect, hopen, Job.attempt, hwrite]
  · intro hwrites hfault
    rw [hwrites, if_pos rfl] at hwrite
    have hread : ∀ e : Disk, (e.data n).readFault = none → (e.data n).read = .ok (e.data n).content :=
      fun e he => FileData.read_eq_ok_iff.2 ⟨he, rfl⟩
    have hstill : (((d.setFile t { d.data t with content := [], program := none }).setMode t
        (d.data n).mode).data n).readFault = none := by
      by_cases hself : n = t
      · subst hself
        simpa [Disk.setMode] using hfault
      · simpa [Disk.setMode, Disk.data_setFile_of_ne hself] using hfault
    simp [copyContents, bind, Job.bind, Job.inspect, hopen, Job.attempt, hwrite, Job.change,
      hread _ hstill]

theorem copyInto_file {from_ to_ : Location} (hcopy : copyOf? output source = some destination)
    (hsource : d.stat source = .ok (from_, .file n)) (hreads : (d.data n).ownerReads = true)
    (htarget : d.stat destination = .ok (to_, .file t)) :
    ((d.data t).ownerWrites = false →
      (copyInto output source d).result =
          .error (.copyFailed source destination (.os .accessDenied)) ∧
        (copyInto output source d).disk = d) ∧
    ((d.data t).ownerWrites = true → (d.data n).readFault = none →
      (copyInto output source d).result = .ok ()) := by
  obtain ⟨name, hname, rfl⟩ := Option.map_eq_some_iff.1 hcopy
  have hfile : d.isFile source = true := Disk.isFile_iff.2 ⟨from_, n, hsource⟩
  obtain ⟨hrefused, hdone⟩ := copyContents_file hsource hreads htarget
  constructor
  · intro hwrites
    obtain ⟨hresult, hdisk⟩ := hrefused hwrites
    constructor <;>
      simp [copyInto, hname, copyFile, bind, Job.bind, Job.inspect, hfile, Job.mapError, hresult,
        hdisk]
  · intro hwrites hfault
    simp [copyInto, hname, copyFile, bind, Job.bind, Job.inspect, hfile, Job.mapError,
      hdone hwrites hfault, Job.log, Job.report]

/-- A complete bundle is assembled if both copies succeed, the second one on the disk that the first
one leaves. -/
theorem assemble_ok (hcomplete : missing? d output license readme = none)
    (hfirst : (copyInto output license d).result = .ok ())
    (hsecond : (copyInto output readme (copyInto output license d).disk).result = .ok ()) :
    (assemble output license readme d).result = .ok () := by
  simp [assemble, bind, Job.bind, Job.inspect, hcomplete, hfirst, hsecond]

/-- An assembly that succeeds is made of two copies that do. -/
theorem assemble_parts (h : (assemble output license readme d).result = .ok ()) :
    missing? d output license readme = none ∧ (copyInto output license d).result = .ok () ∧
      (copyInto output readme (copyInto output license d).disk).result = .ok () ∧
      (assemble output license readme d).disk =
        (copyInto output readme (copyInto output license d).disk).disk := by
  cases hmissing : missing? d output license readme with
  | some failure => simp [assemble, bind, Job.bind, Job.inspect, hmissing] at h
  | none =>
    cases hfirst : (copyInto output license d).result with
    | error x => simp [assemble, bind, Job.bind, Job.inspect, hmissing, hfirst] at h
    | ok a =>
      refine ⟨rfl, rfl, ?_, ?_⟩
      · simpa [assemble, bind, Job.bind, Job.inspect, hmissing, hfirst] using h
      · simp [assemble, bind, Job.bind, Job.inspect, hmissing, hfirst]

/-- The first copy that fails ends the assembly. -/
theorem assemble_error {x : BundleFailure} (hcomplete : missing? d output license readme = none) :
    ((copyInto output license d).result = .error x →
      (assemble output license readme d).result = .error x ∧
        (assemble output license readme d).disk = (copyInto output license d).disk) ∧
    ((copyInto output license d).result = .ok () →
      (copyInto output readme (copyInto output license d).disk).result = .error x →
      (assemble output license readme d).result = .error x ∧
        (assemble output license readme d).disk =
          (copyInto output readme (copyInto output license d).disk).disk) := by
  constructor
  · intro hfirst
    constructor <;> simp [assemble, bind, Job.bind, Job.inspect, hcomplete, hfirst]
  · intro hfirst hsecond
    constructor <;> simp [assemble, bind, Job.bind, Job.inspect, hcomplete, hfirst, hsecond]

end Bundle

end ReleaseBundle
