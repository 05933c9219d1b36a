import ReleaseBundle.Proofs.Bundle.Assembly
import ReleaseBundle.Proofs.Disk.Agreement

/-!
# Copying over copies

A copy over an existing file succeeds exactly if its owner may write it, provided that the source can be
read. Assembling a bundle that was assembled before is two such copies, and one that is up to date is not
changed by either.
-/

namespace ReleaseBundle.Bundle

variable {d e : Disk} {source destination output license readme p q : Path} {n t n' t' m u : Nat}

/-- A file that can be read, and an existing file to copy it over. -/
structure Ready (d : Disk) (source destination : Path) (n t : Nat) : Prop where
  source : ∃ at_, d.stat source = .ok (at_, .file n)
  reads : (d.data n).ownerReads = true
  fault : (d.data n).readFault = none
  target : ∃ at_, d.stat destination = .ok (at_, .file t)

/-- What could be read can be read after a copy. What it was made of is read already, and the copy has its
permission bits. -/
theorem Copied.reads (h : Copied d source destination n t e) (hreads : (d.data m).ownerReads = true) :
    (e.data m).ownerReads = true := by
  by_cases hm : m = t
  · rw [hm, FileData.ownerReads, h.wrote.data_self.2.1]
    exact h.readable.1
  · rwa [h.wrote.data_of_ne hm]

/-- A copy of anything else changes nothing about that. -/
theorem Ready.later (h : Ready d source destination n t) (hcopied : Copied d p q m u e) :
    Ready e source destination n t where
  source := h.source.imp fun _ => hcopied.wrote.ext.stat
  reads := hcopied.reads h.reads
  fault := (hcopied.wrote.readFault n).trans h.fault
  target := h.target.imp fun _ => hcopied.wrote.ext.stat

/-- A copy that was made can be made again. -/
theorem Copied.ready (h : Copied d source destination n t e) : Ready e source destination n t where
  source := h.source.imp fun _ => h.wrote.ext.stat
  reads := h.reads h.readable.1
  fault := (h.wrote.readFault n).trans h.readable.2
  target := h.wrote.stat

theorem Ready.copyInto (h : Ready d source destination n t)
    (hcopy : copyOf? output source = some destination) :
    ((d.data t).ownerWrites = false →
      (copyInto output source d).result =
          .error (.copyFailed source destination (.os .accessDenied)) ∧
        (copyInto output source d).disk = d) ∧
    ((d.data t).ownerWrites = true → (copyInto output source d).result = .ok () ∧
      Copied d source destination n t (copyInto output source d).disk) := by
  obtain ⟨from_, hsource⟩ := h.source
  obtain ⟨to_, htarget⟩ := h.target
  obtain ⟨hrefused, hdone⟩ := copyInto_file hcopy hsource h.reads htarget
  refine ⟨hrefused, fun hwrites => ?_⟩
  have hresult := hdone hwrites h.fault
  obtain ⟨p, m, u, hp, hcopied⟩ := (copyInto_ends output source d).of_ok hresult
  obtain rfl : p = destination := Option.some.inj (hp.symm.trans hcopy)
  obtain rfl : u = t := hcopied.number_eq htarget
  obtain ⟨from', hsource'⟩ := hcopied.source
  rw [hsource] at hsource'
  cases hsource'
  exact ⟨hresult, hcopied⟩

/-- Assembling over copies that are there: each copy may be written or it stops the assembly. -/
theorem assemble_over (hcomplete : missing? d output license readme = none)
    (hp : copyOf? output license = some p) (hq : copyOf? output readme = some q)
    (hfirst : Ready d license p n t) (hsecond : Ready d readme q n' t') :
    ((d.data t).ownerWrites = false →
      (assemble output license readme d).result =
          .error (.copyFailed license p (.os .accessDenied)) ∧
        (assemble output license readme d).disk = d) ∧
    ((d.data t).ownerWrites = true → ∃ middle, Copied d license p n t middle ∧
      ((middle.data t').ownerWrites = false →
        (assemble output license readme d).result =
            .error (.copyFailed readme q (.os .accessDenied)) ∧
          (assemble output license readme d).disk = middle) ∧
      ((middle.data t').ownerWrites = true →
        (assemble output license readme d).result = .ok () ∧
          Copied middle readme q n' t' (assemble output license readme d).disk)) := by
  obtain ⟨hrefused, hdone⟩ := hfirst.copyInto hp
  constructor
  · intro hwrites
    obtain ⟨hresult, hdisk⟩ := hrefused hwrites
    obtain ⟨herror, hsame⟩ := (assemble_error hcomplete).1 hresult
    exact ⟨herror, hsame.trans hdisk⟩
  · intro hwrites
    obtain ⟨hresult, hcopied⟩ := hdone hwrites
    refine ⟨_, hcopied, ?_⟩
    obtain ⟨hrefused', hdone'⟩ := (hsecond.later hcopied).copyInto hq
    constructor
    · intro hwrites'
      obtain ⟨hresult', hdisk'⟩ := hrefused' hwrites'
      obtain ⟨herror, hsame⟩ := (assemble_error hcomplete).2 hresult hresult'
      exact ⟨herror, hsame.trans hdisk'⟩
    · intro hwrites'
      obtain ⟨hresult', hcopied'⟩ := hdone' hwrites'
      have hok := assemble_ok hcomplete hresult hresult'
      obtain ⟨_, _, _, hdisk⟩ := assemble_parts hok
      exact ⟨hok, hdisk ▸ hcopied'⟩

/-! ## Copies that are up to date -/

/-- A file with a copy that was not changed since it was made. A file that was copied onto itself is
empty. -/
structure Doubled (d : Disk) (source destination : Path) (n t : Nat) : Prop
    extends Ready d source destination n t where
  content : (d.data t).content = if t = n then [] else (d.data n).content
  mode : (d.data t).mode = (d.data n).mode
  program : (d.data t).program = none

/-- A copy that can be found as before, with its source, is up to date as before. -/
theorem Doubled.transport (h : Doubled d source destination n t)
    (hsource : ∀ l, d.stat source = .ok (l, .file n) → e.stat source = .ok (l, .file n))
    (htarget : ∀ l, d.stat destination = .ok (l, .file t) → e.stat destination = .ok (l, .file t))
    (hn : e.data n = d.data n) (ht : e.data t = d.data t) : Doubled e source destination n t where
  source := h.source.imp hsource
  reads := by rw [hn]; exact h.reads
  fault := by rw [hn]; exact h.fault
  target := h.target.imp htarget
  content := by rw [hn, ht]; exact h.content
  mode := by rw [hn, ht]; exact h.mode
  program := by rw [ht]; exact h.program

theorem Doubled.later {content : Bytes} {mode m : Nat} (h : Doubled d source destination n t)
    (hwrote : Disk.Wrote d p content mode m e) (hn : n ≠ m) (ht : t ≠ m) :
    Doubled e source destination n t :=
  h.transport (fun _ => hwrote.ext.stat) (fun _ => hwrote.ext.stat) (hwrote.data_of_ne hn)
    (hwrote.data_of_ne ht)

theorem Doubled.agrees (h : Doubled d source destination n t) (hagrees : Disk.Agrees d e) :
    Doubled e source destination n t :=
  h.transport (fun _ => hagrees.stat) (fun _ => hagrees.stat) (hagrees.data n) (hagrees.data t)

/-- What is put into another place leaves a copy up to date. -/
theorem Doubled.elsewhere {at_ : Location} {m : Nat} {f : FileData} (h : Doubled d source destination n t)
    (hreplaced : Disk.Replaced d e at_ m f) (hplain : d.Plain) (hnoDir : d.node? at_ ≠ some .directory)
    (hsource : ∀ l node, d.stat source = .ok (l, node) → l ≠ at_)
    (htarget : ∀ l node, d.stat destination = .ok (l, node) → l ≠ at_) :
    Doubled e source destination n t := by
  have hdata : ∀ p, (∀ l node, d.stat p = .ok (l, node) → l ≠ at_) →
      ∀ i, (∃ l, d.stat p = .ok (l, .file i)) → e.data i = d.data i := by
    rintro p helse i ⟨l, hstat⟩
    exact hreplaced.data l i (helse _ _ hstat) (Disk.node?_of_stat hstat)
  exact h.transport (fun l hl => hreplaced.stat_elsewhere hplain hnoDir (hsource _ _ hl) hl)
    (fun l hl => hreplaced.stat_elsewhere hplain hnoDir (htarget _ _ hl) hl)
    (hdata source hsource n h.source) (hdata destination htarget t h.target)

theorem Copied.doubled (h : Copied d source destination n t e) : Doubled e source destination n t where
  toReady := h.ready
  content := by
    rw [h.wrote.data_self.1]
    split
    · rfl
    · next helse => rw [h.wrote.data_of_ne (Ne.symm helse)]
  mode := by
    by_cases hn : n = t
    · rw [hn]
    · rw [h.wrote.data_self.2.1, h.wrote.data_of_ne hn]
  program := h.wrote.data_self.2.2

/-- To copy a file once more changes nothing. -/
theorem Copied.agrees (h : Copied d source destination n t e) (hdoubled : Doubled d source destination n t) :
    Disk.Agrees d e := by
  obtain ⟨at_, hstat⟩ := hdoubled.target
  exact h.wrote.agrees hstat hdoubled.content hdoubled.mode hdoubled.program

/-- Assembling again changes nothing. It succeeds if the owner may write the license and the readme, for
the copies have their permission bits. -/
theorem reassemble (hcomplete : missing? d output license readme = none)
    (hp : copyOf? output license = some p) (hq : copyOf? output readme = some q)
    (hfirst : Doubled d license p n t) (hsecond : Doubled d readme q n' t') :
    Disk.Agrees d (assemble output license readme d).disk ∧
    ((d.data n).ownerWrites = false →
      (assemble output license readme d).result = .error (.copyFailed license p (.os .accessDenied))) ∧
    ((d.data n).ownerWrites = true → (d.data n').ownerWrites = false →
      (assemble output license readme d).result = .error (.copyFailed readme q (.os .accessDenied))) ∧
    ((d.data n).ownerWrites = true → (d.data n').ownerWrites = true →
      (assemble output license readme d).result = .ok ()) := by
  have hmode : (d.data t).ownerWrites = (d.data n).ownerWrites := by
    rw [FileData.ownerWrites, FileData.ownerWrites, hfirst.mode]
  have hmode' : (d.data t').ownerWrites = (d.data n').ownerWrites := by
    rw [FileData.ownerWrites, FileData.ownerWrites, hsecond.mode]
  obtain ⟨hrefused, hdone⟩ := assemble_over hcomplete hp hq hfirst.toReady hsecond.toReady
  rw [hmode] at hrefused hdone
  cases hwrites : (d.data n).ownerWrites with
  | false =>
    obtain ⟨hresult, hdisk⟩ := hrefused hwrites
    rw [hdisk]
    exact ⟨.refl d, fun _ => hresult, by simp, by simp⟩
  | true =>
    obtain ⟨middle, hcopied, hrefused', hdone'⟩ := hdone hwrites
    have hmiddle := hcopied.agrees hfirst
    rw [hmiddle.data, hmode'] at hrefused' hdone'
    cases hwrites' : (d.data n').ownerWrites with
    | false =>
      obtain ⟨hresult, hdisk⟩ := hrefused' hwrites'
      rw [hdisk]
      exact ⟨hmiddle, by simp, fun _ _ => hresult, by simp⟩
    | true =>
      obtain ⟨hresult, hcopied'⟩ := hdone' hwrites'
      exact ⟨hmiddle.trans (hcopied'.agrees (hsecond.agrees hmiddle)), by simp, by simp,
        fun _ _ => hresult⟩

end ReleaseBundle.Bundle
