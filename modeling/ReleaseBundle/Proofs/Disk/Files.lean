import ReleaseBundle.Proofs.Disk.Growth

/-!
# The files that paths lead to

A path leads to a file through its number, so two paths can lead to one file: through a link, through
`..`, or through a second name in the table. What a path holds is read off that file, and whether two
paths are in each other's way is asked of the numbers.
-/

namespace ReleaseBundle

/-- What a copy takes over from a file: its contents and its permission bits. -/
structure Holding where
  bytes : Bytes
  mode : Nat
  deriving DecidableEq

/-- What a copy holds. A file that is copied onto itself is emptied. -/
def Holding.copied (h : Holding) (itself : Prop) [Decidable itself] : Holding :=
  if itself then { h with bytes := [] } else h

def FileData.holding (f : FileData) : Holding := ⟨f.content, f.mode⟩

namespace Disk

variable {d e : Disk} {p q : Path} {at_ l : Location} {n t : Nat}

/-- The bytes of the file that a path leads to, whoever may read them. -/
def bytesAt (d : Disk) (p : Path) : Option Bytes :=
  match d.stat p with
  | .ok (_, .file n) => some (d.data n).content
  | _ => none

theorem bytesAt_eq_some_iff {bytes : Bytes} :
    d.bytesAt p = some bytes ↔
      ∃ l n, d.stat p = .ok (l, .file n) ∧ (d.data n).content = bytes := by
  unfold bytesAt
  split
  · next l n h => simp [h, and_assoc]
  · next hnoFile =>
    simp only [reduceCtorEq, false_iff, not_exists, not_and]
    exact fun l n h => absurd h (hnoFile l n)

/-- The owner may write the file that a path leads to. -/
def Writable (d : Disk) (p : Path) : Prop := ∃ l n, d.stat p = .ok (l, .file n) ∧ (d.data n).ownerWrites = true

theorem writable_iff (hstat : d.stat p = .ok (l, .file n)) :
    d.Writable p ↔ (d.data n).ownerWrites = true := by
  constructor
  · rintro ⟨l', n', hstat', hwrites⟩
    rw [hstat] at hstat'
    cases hstat'
    exact hwrites
  · exact fun hwrites => ⟨l, n, hstat, hwrites⟩

/-- Two paths lead to one file. -/
def SameFile (d : Disk) (p q : Path) : Prop :=
  ∃ l l' n, d.stat p = .ok (l, .file n) ∧ d.stat q = .ok (l', .file n)

/-- The number of the file that a path leads to. -/
def fileNumber? (d : Disk) (p : Path) : Option Nat :=
  match d.stat p with
  | .ok (_, .file n) => some n
  | _ => none

theorem fileNumber?_eq_some_iff : d.fileNumber? p = some n ↔ ∃ l, d.stat p = .ok (l, .file n) := by
  unfold fileNumber?
  split
  · next l m h => simp [h]
  · next hnoFile =>
    simp only [reduceCtorEq, false_iff, not_exists]
    exact fun l h => hnoFile l n h

theorem writable_iff_number : d.Writable p ↔ ∃ n ∈ d.fileNumber? p, (d.data n).ownerWrites = true := by
  constructor
  · rintro ⟨l, n, hstat, hwrites⟩
    exact ⟨n, fileNumber?_eq_some_iff.2 ⟨l, hstat⟩, hwrites⟩
  · rintro ⟨n, hnumber, hwrites⟩
    obtain ⟨l, hstat⟩ := fileNumber?_eq_some_iff.1 hnumber
    exact ⟨l, n, hstat, hwrites⟩

instance : Decidable (d.Writable p) := decidable_of_iff' _ writable_iff_number

theorem sameFile_iff : d.SameFile p q ↔ ∃ n ∈ d.fileNumber? p, d.fileNumber? q = some n := by
  constructor
  · rintro ⟨l, l', n, hp, hq⟩
    exact ⟨n, fileNumber?_eq_some_iff.2 ⟨l, hp⟩, fileNumber?_eq_some_iff.2 ⟨l', hq⟩⟩
  · rintro ⟨n, hp, hq⟩
    obtain ⟨l, hp⟩ := fileNumber?_eq_some_iff.1 hp
    obtain ⟨l', hq⟩ := fileNumber?_eq_some_iff.1 hq
    exact ⟨l, l', n, hp, hq⟩

instance : Decidable (d.SameFile p q) := decidable_of_iff' _ sameFile_iff

theorem sameFile_iff_number (hp : d.fileNumber? p = some t) (hq : d.fileNumber? q = some n) :
    d.SameFile p q ↔ t = n := by
  simp [sameFile_iff, hp, hq, eq_comm]

/-- What the file holds that a path leads to, whoever may read it. -/
def holding? (d : Disk) (p : Path) : Option Holding :=
  (d.fileNumber? p).map fun n => (d.data n).holding

theorem holding?_of_number (h : d.fileNumber? p = some n) :
    d.holding? p = some (d.data n).holding := by
  rw [holding?, h]
  rfl

/-! ## Writing one file -/

namespace Wrote

variable {content : Bytes} {mode : Nat}

theorem holding_self (h : Wrote d p content mode t e) : (e.data t).holding = ⟨content, mode⟩ := by
  obtain ⟨hcontent, hmode, _⟩ := h.data_self
  rw [FileData.holding, hcontent, hmode]

/-- The path leads to the file that was written. -/
theorem fileNumber?_self (h : Wrote d p content mode t e) : e.fileNumber? p = some t :=
  fileNumber?_eq_some_iff.2 h.stat

/-- A path that leads to a file still leads to it, and writing leads no other path to it. -/
theorem fileNumber?_iff (h : Wrote d p content mode t e) (hnode : d.node? l = some (.file n)) :
    e.fileNumber? q = some n ↔ d.fileNumber? q = some n := by
  simp only [fileNumber?_eq_some_iff]
  constructor
  · rintro ⟨at_, hstat⟩
    have hcwd := h.cwd
    refine ⟨at_, ?_⟩
    cases h with
    | onto _ => exact stat_along hcwd.symm (fun _ _ _ hold => hold) hstat
    | fresh hfree =>
      have hne := ne_freshNumber hnode
      exact (Wrote.fresh hfree).stat_before (by simpa using hne) hstat
  · rintro ⟨at_, hstat⟩
    exact ⟨at_, h.ext.stat hstat⟩

/-- A file that was there is the one that was written exactly if the path led to it. -/
theorem number_eq_iff (h : Wrote d p content mode t e) (hnode : d.node? l = some (.file n)) :
    d.fileNumber? p = some n ↔ t = n := by
  rw [← h.fileNumber?_iff hnode, h.fileNumber?_self, Option.some.injEq]

end Wrote

end Disk

end ReleaseBundle
