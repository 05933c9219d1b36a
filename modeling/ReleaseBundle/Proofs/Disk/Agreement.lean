import ReleaseBundle.Manifest
import ReleaseBundle.Proofs.Disk.Below
import ReleaseBundle.Proofs.Disk.Plain

/-!
# Disks that look the same

Two tables can differ and still be the same disk to everyone who looks at it: the numbers behind the names
do not show. `Disk.seen` is what shows. A file that is written again with what it holds already does not
even change what is behind the numbers, and what is put into one place changes no path that leads
elsewhere.
-/

namespace ReleaseBundle.Disk

variable {d e : Disk} {p : Path} {at_ l top : Location} {node : Node} {n t mode : Nat} {content : Bytes}
  {name : Name} {f : FileData}

/-- What can be seen at a location. -/
inductive Sight where
  | directory
  | link (target : Path)
  | file (data : FileData)
  deriving DecidableEq

/-- What a location holds, with a file shown by its contents and permission bits. -/
def seen (d : Disk) (l : Location) : Option Sight :=
  (d.node? l).map fun
    | .directory => .directory
    | .link target => .link target
    | .file n => .file (d.data n)

/-- The same names, kinds, bytes and permission bits everywhere. -/
def LooksLike (d e : Disk) : Prop := e.cwd = d.cwd ∧ ∀ l, e.seen l = d.seen l

/-! ## Writing what is there -/

/-- The same names, and the same behind each number. -/
structure Agrees (d e : Disk) : Prop where
  cwd : e.cwd = d.cwd
  node? : ∀ l, e.node? l = d.node? l
  data : ∀ n, e.data n = d.data n

namespace Agrees

theorem refl (d : Disk) : Agrees d d := ⟨rfl, fun _ => rfl, fun _ => rfl⟩

theorem trans {m : Disk} (h : Agrees d m) (h' : Agrees m e) : Agrees d e where
  cwd := h'.cwd.trans h.cwd
  node? l := (h'.node? l).trans (h.node? l)
  data n := (h'.data n).trans (h.data n)

theorem stat (h : Agrees d e) (hstat : d.stat p = .ok (at_, node)) : e.stat p = .ok (at_, node) :=
  stat_grow h.cwd (fun l _ hnode => (h.node? l).trans hnode) hstat

theorem plain (h : Agrees d e) (hplain : d.Plain) : e.Plain := by
  intro l target hlink
  rw [h.node?] at hlink
  exact hplain l target hlink

theorem looksLike (h : Agrees d e) : LooksLike d e := by
  refine ⟨h.cwd, fun l => ?_⟩
  simp only [seen, h.node?, h.data]

end Agrees

/-- Nothing changes when a file is written that holds the same already. -/
theorem Wrote.agrees (h : Wrote d p content mode t e) (hstat : d.stat p = .ok (at_, .file t))
    (hcontent : (d.data t).content = content) (hmode : (d.data t).mode = mode)
    (hprogram : (d.data t).program = none) : Agrees d e := by
  cases h with
  | fresh hfree =>
    rw [stat_eq_ok_iff_locate, hfree] at hstat
    cases hstat
  | onto _ =>
    have hsame : ({ d.data t with content := content, mode := mode, program := none } : FileData) =
        d.data t := by
      rw [← hcontent, ← hmode, ← hprogram]
    refine ⟨rfl, fun l => node?_setFile .., fun n => ?_⟩
    rw [data_setFile, hsame]
    split
    · next hn => rw [hn]
    · rfl

/-! ## Hard links -/

/-- A file under a new number shares its contents with no other file. -/
theorem Unshared.put (hunshared : d.Unshared)
    (hnode : ∀ l, e.node? l = if l = at_ then some (.file d.freshNumber) else d.node? l) :
    e.Unshared := by
  intro l l' n hl hl'
  rw [hnode] at hl hl'
  split at hl <;> split at hl'
  · next h h' => rw [h, h']
  · cases hl
    exact absurd rfl (ne_freshNumber hl')
  · cases hl'
    exact absurd rfl (ne_freshNumber hl)
  · exact hunshared l l' n hl hl'

theorem Wrote.unshared (h : Wrote d p content mode t e) (hunshared : d.Unshared) : e.Unshared := by
  cases h with
  | onto _ => exact hunshared
  | fresh hfree =>
    obtain ⟨hdir, hname⟩ := locate_holds hfree
    exact hunshared.put (node?_staged _ hdir hname)

/-! ## One place -/

/-- What is put into one place is met by no path that leads elsewhere. -/
theorem Replaced.stat_elsewhere (h : Replaced d e at_ n f) (hplain : d.Plain)
    (hnoDir : d.node? at_ ≠ some .directory) (helse : l ≠ at_) (hstat : d.stat p = .ok (l, node)) :
    e.stat p = .ok (l, node) := by
  refine stat_along h.cwd (fun l' x hfile hnode => ?_) hstat
  refine h.keep (fun hat => ?_) hnode
  cases x with
  | directory => exact hnoDir (hat ▸ hnode)
  | link target => exact hplain _ _ hnode
  | file m => exact helse ((hfile m rfl).1.symm.trans hat)

/-- Putting the same file into the same place twice shows once. -/
theorem Replaced.looksLike {d' e' : Disk} {n' : Nat} (h : Replaced d e at_ n f) (hsame : Agrees e d')
    (h' : Replaced d' e' at_ n' f) : LooksLike e e' := by
  refine ⟨h'.cwd.trans hsame.cwd, fun l => ?_⟩
  have hkeep : ∀ l m, l ≠ at_ → e.node? l = some (.file m) → e'.data m = e.data m := by
    intro l m hl hnode
    rw [h'.data l m hl ((hsame.node? l).trans hnode), hsame.data]
  unfold seen
  rw [h'.node?]
  split
  · next hl =>
    rw [hl, h.node?_self]
    simp only [Option.map_some, h.content, h'.content]
  · next hl =>
    rw [hsame.node?]
    cases hnode : e.node? l with
    | none => rfl
    | some node =>
      cases node with
      | directory => rfl
      | link target => rfl
      | file m => simp only [Option.map_some, hkeep l m hl hnode]

/-! ## Below a directory -/

/-- Without links, what is found below a directory is there. -/
theorem suffix_of_stat_below (hplain : d.Plain) (hdir : d.stat p = .ok (top, .directory)) (rel : List Name)
    (hstat : d.stat (p.below rel) = .ok (l, node)) : top <:+ l := by
  have hp := bytes_ne_nil_of_stat hdir
  induction rel generalizing p top with
  | nil =>
    rw [Path.below_nil, hdir] at hstat
    cases hstat
    exact List.suffix_refl _
  | cons name rel ih =>
    have hchild := Path.bytes_child_ne_nil p name.slash_not_mem name.bytes_ne_nil
    have hplace : ∀ l node, d.stat (p.child name.bytes) = .ok (l, node) → l = name :: top := by
      intro l node hl
      obtain ⟨top', hdir', hcase⟩ := stat_child_cases hp hl
      rw [hdir] at hdir'
      cases hdir'
      rcases hcase with ⟨rfl, _⟩ | ⟨target, hlink⟩
      · rfl
      · exact absurd hlink (hplain _ _)
    have hinside : top <:+ name :: top := List.suffix_cons _ _
    rcases stat_of_below hchild hstat with ⟨rfl, hend⟩ | ⟨l', hopen⟩
    · rw [hplace _ _ hend]
      exact hinside
    · obtain rfl := hplace _ _ hopen
      exact hinside.trans (ih hopen hstat hchild)

end ReleaseBundle.Disk

namespace ReleaseBundle.Manifest

/-- A version that was found is found wherever the manifest has the same contents. -/
theorem findVersion_again {d e : Disk} {p : Path} {version : String}
    (hsame : ∀ l n, d.stat p = .ok (l, .file n) → e.stat p = .ok (l, .file n) ∧ e.data n = d.data n)
    (h : findVersion d p = .ok version) : findVersion e p = .ok version := by
  have htext : ∀ text, readText d p = .ok text → readText e p = .ok text := by
    intro text htext
    unfold readText Disk.contentsOf at htext ⊢
    cases hopen : d.openPath p with
    | error fault => simp [hopen, bind, Except.bind] at htext
    | ok opened =>
      cases opened with
      | directory => simp [hopen, bind, Except.bind, Disk.Opened.read] at htext
      | file n f =>
        obtain ⟨⟨l, hstat⟩, rfl, hreads⟩ := Disk.openPath_eq_file_iff.1 hopen
        obtain ⟨hstat', hdata⟩ := hsame l n hstat
        have hopen' : e.openPath p = .ok (.file n (d.data n)) :=
          Disk.openPath_eq_file_iff.2 ⟨⟨l, hstat'⟩, hdata, hreads⟩
        rw [hopen] at htext
        rw [hopen']
        exact htext
  unfold findVersion findVersionBy at h
  split at h
  · cases h
  · next text hread =>
    unfold findVersion findVersionBy
    rw [htext text hread]
    exact h

end ReleaseBundle.Manifest
