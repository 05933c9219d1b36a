import ReleaseBundle.Proofs.Disk.Route
import ReleaseBundle.Proofs.Path.Parts

/-!
# Disks that only grow

`Disk.Extends d e written made` bounds what happened between two disks by paths: nothing went away, the
files that are new or have other contents are the ones that a path of `written` leads to, and whatever
else is new is a directory that a path of `made` leads to. Bounds of successive steps add up, because
a path that leads somewhere still leads there when the disk has grown.

The two ways in which a release grows a disk, writing a file and creating a directory, are described
exactly, and the bound follows from the description.
-/

namespace ReleaseBundle.Disk

variable {d e f : Disk} {p : Path} {written written' made made' : List Path} {at_ dir l : Location}
  {name : Name} {node : Node} {n m : Nat}

/-- Nothing went away, and what is new or different is what some path of the lists leads to. -/
structure Extends (d e : Disk) (written made : List Path) : Prop where
  cwd : e.cwd = d.cwd
  kept : ∀ l node, d.node? l = some node → e.node? l = some node
  added : ∀ l node, e.node? l = some node → d.node? l = some node ∨
    (node = .directory ∧ ∃ p ∈ made, e.stat p = .ok (l, .directory)) ∨
    ∃ n, node = .file n ∧ ∃ p ∈ written, e.stat p = .ok (l, .file n)
  data : ∀ l n, d.node? l = some (.file n) →
    e.data n = d.data n ∨ ∃ p ∈ written, ∃ at_, e.stat p = .ok (at_, .file n)

namespace Extends

theorem refl (d : Disk) : Extends d d [] [] where
  cwd := rfl
  kept _ _ h := h
  added _ _ h := Or.inl h
  data _ _ _ := Or.inl rfl

theorem stat (h : Extends d e written made) (hstat : d.stat p = .ok (at_, node)) :
    e.stat p = .ok (at_, node) := stat_grow h.cwd h.kept hstat

theorem lstat (h : Extends d e written made) (hlstat : d.lstat p = .ok (at_, node)) :
    e.lstat p = .ok (at_, node) := lstat_grow h.cwd h.kept hlstat

theorem mono (h : Extends d e written made) (hwritten : written ⊆ written') (hmade : made ⊆ made') :
    Extends d e written' made' where
  cwd := h.cwd
  kept := h.kept
  added l node hnode := by
    rcases h.added l node hnode with hold | ⟨rfl, p, hp, hstat⟩ | ⟨n, rfl, p, hp, hstat⟩
    · exact Or.inl hold
    · exact Or.inr (Or.inl ⟨rfl, p, hmade hp, hstat⟩)
    · exact Or.inr (Or.inr ⟨n, rfl, p, hwritten hp, hstat⟩)
  data l n hnode := by
    rcases h.data l n hnode with hsame | ⟨p, hp, hstat⟩
    · exact Or.inl hsame
    · exact Or.inr ⟨p, hwritten hp, hstat⟩

theorem trans (h : Extends d e written made) (h' : Extends e f written' made') :
    Extends d f (written ++ written') (made ++ made') where
  cwd := h'.cwd.trans h.cwd
  kept l node hnode := h'.kept l node (h.kept l node hnode)
  added l node hnode := by
    rcases h'.added l node hnode with hmiddle | ⟨rfl, p, hp, hstat⟩ | ⟨n, rfl, p, hp, hstat⟩
    · rcases h.added l node hmiddle with hold | ⟨rfl, p, hp, hstat⟩ | ⟨n, rfl, p, hp, hstat⟩
      · exact Or.inl hold
      · exact Or.inr (Or.inl ⟨rfl, p, List.mem_append_left _ hp, h'.stat hstat⟩)
      · exact Or.inr (Or.inr ⟨n, rfl, p, List.mem_append_left _ hp, h'.stat hstat⟩)
    · exact Or.inr (Or.inl ⟨rfl, p, List.mem_append_right _ hp, hstat⟩)
    · exact Or.inr (Or.inr ⟨n, rfl, p, List.mem_append_right _ hp, hstat⟩)
  data l n hnode := by
    rcases h'.data l n (h.kept l _ hnode) with hsame | ⟨p, hp, hstat⟩
    · rcases h.data l n hnode with hold | ⟨p, hp, at_, hstat⟩
      · exact Or.inl (hsame.trans hold)
      · exact Or.inr ⟨p, List.mem_append_left _ hp, at_, h'.stat hstat⟩
    · exact Or.inr ⟨p, List.mem_append_right _ hp, hstat⟩

/-- A disk on which no file was written still has the contents of every file. -/
theorem data_eq (h : Extends d e [] made) (hnode : d.node? l = some (.file n)) :
    e.data n = d.data n := by
  rcases h.data l n hnode with hsame | ⟨p, hp, _⟩
  · exact hsame
  · cases hp

theorem isDirectory (h : Extends d e written made) (hdir : d.isDirectory p = true) :
    e.isDirectory p = true := by
  obtain ⟨at_, hstat⟩ := isDirectory_iff.1 hdir
  exact isDirectory_iff.2 ⟨at_, h.stat hstat⟩

end Extends

/-- A path to a free name leads to what is put there. -/
theorem stat_fill (hcwd : e.cwd = d.cwd)
    (hgrow : ∀ l node, d.node? l = some node → e.node? l = some node) {follow : Bool}
    (hfree : d.locate p follow = .ok (.vacant dir name)) (hnode : e.node? (name :: dir) = some node)
    (hnoLink : ∀ target, node ≠ .link target) : e.stat p = .ok (name :: dir, node) := by
  obtain ⟨hnone, hroute⟩ := locate_eq_ok_iff.1 hfree
  refine stat_eq_ok_iff.2 ⟨refusal?_grow hcwd hgrow hnone, ?_⟩
  rw [hcwd]
  exact hroute.fill hgrow hnode hnoLink true (fun _ => rfl)

/-! ## Slashes at the end -/

/-- Where a directory is, a slash at the end of its path makes no difference. -/
theorem route_steps_iff {links : Nat} {here : Location} :
    Route d true links here p.steps (.found at_ .directory) ↔
      Route d true links here p.base (.found at_ .directory) := by
  rw [Path.steps_eq]
  split
  · have hdot : ∀ dir more, Route d true more dir [[Path.dot]] (.found dir .directory) :=
      fun dir more => .stay (.arrived more dir)
    constructor
    · intro h
      obtain ⟨dir, more, hfront, hrest, _⟩ := h.cut (by simp)
      obtain rfl : at_ = dir := by simpa using hrest.unique (hdot dir more)
      exact hfront
    · intro h
      exact h.append (by simp) (hdot at_ 0)
  · rw [List.append_nil]

theorem stat_eq_directory_iff :
    d.stat p = .ok (at_, .directory) ↔
      d.refusal? p = none ∧ Route d true maxLinks (start d.cwd p) p.base (.found at_ .directory) := by
  rw [stat_eq_ok_iff, route_steps_iff]

/-- A slash at the end is only answered by a directory. -/
theorem endsInSlash_eq_false_of_file {links : Nat} {here : Location}
    (h : Route d true links here p.steps (.found at_ (.file n))) : p.endsInSlash = false := by
  rw [Path.steps_eq] at h
  split at h
  · obtain ⟨dir, more, _, hrest, _⟩ := h.cut (by simp)
    have hdot : Route d true more dir [[Path.dot]] (.found dir .directory) := .stay (.arrived more dir)
    cases hrest.unique hdot
  · next hend => simpa using hend

/-- A path that leads to a file asks for none, through however many links it goes. -/
theorem asksForDirectory_of_route {links : Nat} (more : Nat) {here : Location}
    (h : Route d true links (start here p) p.steps (.found at_ (.file n))) :
    d.asksForDirectory more here p = false := by
  induction more generalizing links here p with
  | zero => rfl
  | succ more ih =>
    rw [asksForDirectory, if_neg (by simp [endsInSlash_eq_false_of_file h])]
    split
    · next l target hlink =>
      obtain ⟨_, htarget⟩ := (resolve_eq_ok_iff.1 hlink).past_link h
      exact ih htarget
    · rfl

theorem asksForDirectory_of_file (h : d.stat p = .ok (at_, .file n)) :
    d.asksForDirectory maxLinks d.cwd p = false :=
  asksForDirectory_of_route maxLinks (stat_eq_ok_iff.1 h).2

/-! ## Writing a file -/

/-- What can become of a disk when a file is written at a path: an existing file gets other contents and
permission bits, or a free name becomes a file. The number of the file is `t`. -/
inductive Wrote (d : Disk) (p : Path) (content : Bytes) (mode : Nat) : Nat → Disk → Prop where
  | onto {at_ : Location} {t : Nat} : d.stat p = .ok (at_, .file t) →
    Wrote d p content mode t
      (d.setFile t { d.data t with content := content, mode := mode, program := none })
  | fresh {dir : Location} {name : Name} : d.locate p = .ok (.vacant dir name) →
    Wrote d p content mode d.freshNumber (d.staged dir name { content, mode })

namespace Wrote

variable {content : Bytes} {mode t : Nat}

theorem kept (h : Wrote d p content mode t e) (hnode : d.node? l = some node) :
    e.node? l = some node := by
  cases h with
  | onto _ => exact hnode
  | fresh hfree =>
    obtain ⟨hdir, hname⟩ := locate_holds hfree
    exact node?_staged_of_some _ hdir hname hnode

theorem cwd (h : Wrote d p content mode t e) : e.cwd = d.cwd := by
  cases h with
  | onto _ => rfl
  | fresh _ => simp

/-- The path leads to the file that was written. -/
theorem stat (h : Wrote d p content mode t e) : ∃ at_, e.stat p = .ok (at_, .file t) := by
  have hcwd := h.cwd
  have hkept := fun l node (hnode : d.node? l = some node) => h.kept hnode
  cases h with
  | onto hstat => exact ⟨_, stat_grow hcwd hkept hstat⟩
  | @fresh dir name hfree =>
    obtain ⟨hdir, hname⟩ := locate_holds hfree
    exact ⟨name :: dir, stat_fill hcwd hkept hfree (node?_staged_self _ hdir hname) (by simp)⟩

theorem data_self (h : Wrote d p content mode t e) :
    (e.data t).content = content ∧ (e.data t).mode = mode ∧ (e.data t).program = none := by
  cases h with
  | onto _ => simp
  | fresh _ => simp [data_staged]

theorem data_of_ne (h : Wrote d p content mode t e) (hne : m ≠ t) : e.data m = d.data m := by
  cases h with
  | onto _ => exact data_setFile_of_ne hne _
  | fresh _ => rw [data_staged, if_neg hne]

/-- Whether a file can be read is not changed by writing. -/
theorem readFault (h : Wrote d p content mode t e) (m : Nat) :
    (e.data m).readFault = (d.data m).readFault := by
  by_cases hm : m = t
  · subst hm
    cases h with
    | onto _ => simp
    | fresh _ => simp [data_staged, data_freshNumber, FileData.blank]
  · rw [h.data_of_ne hm]

theorem added (h : Wrote d p content mode t e) (hnode : e.node? l = some node) :
    d.node? l = some node ∨ node = .file t ∧ e.stat p = .ok (l, .file t) := by
  have hcwd := h.cwd
  have hkept := fun l node (hnode : d.node? l = some node) => h.kept hnode
  cases h with
  | onto _ => exact Or.inl hnode
  | @fresh dir name hfree =>
    obtain ⟨hdir, hname⟩ := locate_holds hfree
    have hnew := node?_staged_self { content, mode } hdir hname
    by_cases hl : l = name :: dir
    · subst hl
      rw [hnew, Option.some.injEq] at hnode
      subst hnode
      exact Or.inr ⟨rfl, stat_fill hcwd hkept hfree hnew (by simp)⟩
    · rw [node?_staged _ hdir hname, if_neg hl] at hnode
      exact Or.inl hnode

/-- Nothing but the file that was written can be found in a new way. -/
theorem stat_before (h : Wrote d p content mode t e) {q : Path} (hnode : node ≠ .file t)
    (hstat : e.stat q = .ok (at_, node)) : d.stat q = .ok (at_, node) := by
  refine stat_along h.cwd.symm (fun l x hfile hx => ?_) hstat
  rcases h.added hx with hold | ⟨rfl, _⟩
  · exact hold
  · exact absurd (hfile t rfl).2.symm hnode

/-- A file that was there is written only where the path leads to it. -/
theorem number_ne (h : Wrote d p content mode t e) (hnode : d.node? l = some (.file n))
    (helse : ∀ l, d.stat p ≠ .ok (l, .file n)) : n ≠ t := by
  cases h with
  | onto hstat =>
    rintro rfl
    exact helse _ hstat
  | fresh _ => exact ne_freshNumber hnode

theorem ext (h : Wrote d p content mode t e) : Extends d e [p] [] where
  cwd := h.cwd
  kept _ _ hnode := h.kept hnode
  added l node hnode := by
    rcases h.added hnode with hold | ⟨rfl, hstat⟩
    · exact Or.inl hold
    · exact Or.inr (Or.inr ⟨t, rfl, p, List.mem_singleton_self p, hstat⟩)
  data l n hnode := by
    by_cases hn : n = t
    · obtain ⟨at_, hstat⟩ := h.stat
      exact Or.inr ⟨p, List.mem_singleton_self p, at_, by rw [hn]; exact hstat⟩
    · exact Or.inl (h.data_of_ne hn)

end Wrote

/-! ## Creating a directory -/

theorem extends_add_directory (hdir : d.node? dir = some .directory)
    (hfree : d.node? (name :: dir) = none)
    (hstat : (d.add dir name .directory).stat p = .ok (name :: dir, .directory)) :
    Extends d (d.add dir name .directory) [] [p] where
  cwd := by simp
  kept _ _ hnode := node?_add_of_some hdir hfree hnode
  added l node hnode := by
    rw [node?_add hdir hfree] at hnode
    split at hnode
    · next hl =>
      cases hnode
      exact Or.inr (Or.inl ⟨rfl, p, by simp, by rw [hl]; exact hstat⟩)
    · exact Or.inl hnode
  data l n _ := Or.inl (data_add ..)

end ReleaseBundle.Disk
