import ReleaseBundle.Disk.Change

/-!
# What the operations on the table do

Every operation on a disk is described by what it does to `node?` and to `data`, and from there on
the table itself is not looked at. A file that is written under a name of its own until it is complete
gets a description as a whole: `Disk.staged` is a disk with one more file, writing to that file only
changes its contents, and taking its name away gives back the disk there was before, entry by entry.
-/

namespace ReleaseBundle

theorem lookup_cons_of_ne {α β : Type} [BEq α] [LawfulBEq α] {a b : α} (h : a ≠ b) (v : β)
    (es : List (α × β)) : ((b, v) :: es).lookup a = es.lookup a := by
  rw [List.lookup_cons, beq_eq_false_iff_ne.2 h]

theorem lookup_assign (k a : Nat) (v : FileData) (es : List (Nat × FileData)) :
    (assign k v es).lookup a = if a = k then some v else es.lookup a := by
  induction es with
  | nil =>
    by_cases h : a = k
    · simp [assign, h]
    · simp [assign, h, lookup_cons_of_ne h]
  | cons e es ih =>
    obtain ⟨b, w⟩ := e
    by_cases hb : b = k
    · subst hb
      by_cases h : a = b
      · simp [assign, h]
      · simp [assign, h, lookup_cons_of_ne h]
    · by_cases h : a = b
      · subst h
        simp [assign, hb]
      · simp [assign, hb, lookup_cons_of_ne h, ih]

theorem assign_assign (k : Nat) (v w : FileData) (es : List (Nat × FileData)) :
    assign k w (assign k v es) = assign k w es := by
  induction es with
  | nil => simp [assign]
  | cons e es ih => by_cases h : e.1 = k <;> simp [assign, h, ih]

/-- A key that is not in the table comes to its end. -/
theorem assign_of_not_mem {k : Nat} {es : List (Nat × FileData)} (v : FileData)
    (h : k ∉ es.map Prod.fst) : assign k v es = es ++ [(k, v)] := by
  induction es with
  | nil => rfl
  | cons e es ih =>
    simp only [List.map_cons, List.mem_cons, not_or] at h
    simp [assign, Ne.symm h.1, ih h.2]

namespace Disk

variable {d : Disk} {at_ dir l : Location} {name : Name} {node : Node} {n m : Nat}

/-- Two disks with the same tables and the same current directory are one disk. -/
theorem ext_tables {d e : Disk} (nodes : d.nodes = e.nodes) (files : d.files = e.files)
    (cwd : d.cwd = e.cwd) : d = e := by
  cases d
  cases e
  simp_all

@[simp] theorem node?_nil (d : Disk) : d.node? [] = some .directory := rfl

/-- Only directories hold anything. -/
theorem node?_below (h : d.node? dir ≠ some .directory) (name : Name) :
    d.node? (name :: dir) = none := by
  cases hn : d.node? (name :: dir) with
  | none => rfl
  | some node => exact absurd (node?_parent hn) h

/-- No directory has two entries of one name. -/
theorem nodup_children (d : Disk) (dir : Location) : ((d.children dir).map Prod.fst).Nodup := by
  have hnodes : d.nodes.Pairwise fun a b => a.1 ≠ b.1 := List.pairwise_map.1 d.nodup
  refine List.pairwise_map.2 (hnodes.filterMap _ fun a a' hne b hb b' hb' heq => ?_)
  obtain ⟨_ | ⟨name, l⟩, node⟩ := a
  · cases hb
  obtain ⟨_ | ⟨name', l'⟩, node'⟩ := a'
  · cases hb'
  simp only [Option.ite_none_right_eq_some, Option.some.injEq] at hb hb'
  obtain ⟨rfl, rfl⟩ := hb
  obtain ⟨rfl, rfl⟩ := hb'
  exact hne (by rw [show name = name' from heq])

theorem children_eq_nil (h : d.node? at_ ≠ some .directory) : d.children at_ = [] := by
  refine List.eq_nil_iff_forall_not_mem.2 fun c hc => ?_
  have := mem_children.1 (show (c.1, c.2) ∈ d.children at_ from hc)
  rw [node?_below h] at this
  cases this

theorem mem_numbers (h : d.node? at_ = some (.file n)) : n ∈ d.numbers := by
  cases at_ with
  | nil => simp at h
  | cons name dir =>
    rw [node?_cons_eq_some_iff] at h
    exact List.mem_filterMap.2 ⟨_, h, rfl⟩

/-! ## New numbers -/

theorem lt_freshNumber_of_mem (h : n ∈ d.numbers ++ d.files.map Prod.fst) : n < d.freshNumber := by
  have le_foldl : ∀ (l : List Nat) (k : Nat), k ≤ l.foldl max k ∧ ∀ a ∈ l, a ≤ l.foldl max k := by
    intro l
    induction l with
    | nil => intro k; simp
    | cons b l ih =>
      intro k
      obtain ⟨hk, hl⟩ := ih (max k b)
      refine ⟨Nat.le_trans (Nat.le_max_left k b) hk, fun a ha => ?_⟩
      rcases List.mem_cons.1 ha with rfl | ha
      · exact Nat.le_trans (Nat.le_max_right k a) hk
      · exact hl a ha
  exact Nat.lt_succ_of_le ((le_foldl _ 0).2 n h)

theorem ne_freshNumber (h : d.node? at_ = some (.file n)) : n ≠ d.freshNumber :=
  Nat.ne_of_lt (lt_freshNumber_of_mem (List.mem_append_left _ (mem_numbers h)))

theorem freshNumber_not_mem_numbers (d : Disk) : d.freshNumber ∉ d.numbers :=
  fun h => Nat.lt_irrefl _ (lt_freshNumber_of_mem (List.mem_append_left _ h))

theorem freshNumber_not_mem_files (d : Disk) : d.freshNumber ∉ d.files.map Prod.fst :=
  fun h => Nat.lt_irrefl _ (lt_freshNumber_of_mem (List.mem_append_right _ h))

theorem data_freshNumber (d : Disk) : d.data d.freshNumber = FileData.blank := by
  have := (lookup_eq_none_iff d.freshNumber).2 d.freshNumber_not_mem_files
  simp [data, this]

/-! ## Contents -/

@[simp] theorem node?_setFile (d : Disk) (n : Nat) (f : FileData) (l : Location) :
    (d.setFile n f).node? l = d.node? l := rfl

@[simp] theorem cwd_setFile (d : Disk) (n : Nat) (f : FileData) : (d.setFile n f).cwd = d.cwd := rfl

theorem data_setFile (d : Disk) (n m : Nat) (f : FileData) :
    (d.setFile n f).data m = if m = n then f else d.data m := by
  simp only [data, setFile, lookup_assign]
  split <;> rfl

@[simp] theorem data_setFile_self (d : Disk) (n : Nat) (f : FileData) :
    (d.setFile n f).data n = f := by simp [data_setFile]

theorem data_setFile_of_ne (h : m ≠ n) (f : FileData) : (d.setFile n f).data m = d.data m := by
  simp [data_setFile, h]

@[simp] theorem setFile_setFile (d : Disk) (n : Nat) (f g : FileData) :
    (d.setFile n f).setFile n g = d.setFile n g :=
  ext_tables rfl (assign_assign n f g d.files) rfl

/-! ## New entries -/

@[simp] theorem files_add (d : Disk) (dir : Location) (name : Name) (node : Node) :
    (d.add dir name node).files = d.files := by
  unfold add
  split <;> rfl

@[simp] theorem cwd_add (d : Disk) (dir : Location) (name : Name) (node : Node) :
    (d.add dir name node).cwd = d.cwd := by
  unfold add
  split <;> rfl

@[simp] theorem data_add (d : Disk) (dir : Location) (name : Name) (node : Node) (m : Nat) :
    (d.add dir name node).data m = d.data m := by
  simp [data]

theorem nodes_add (hdir : d.node? dir = some .directory) (hfree : d.node? (name :: dir) = none) :
    (d.add dir name node).nodes = (name :: dir, node) :: d.nodes := by
  unfold add
  rw [dif_pos ⟨hdir, hfree⟩]

theorem node?_add (hdir : d.node? dir = some .directory) (hfree : d.node? (name :: dir) = none)
    (l : Location) :
    (d.add dir name node).node? l = if l = name :: dir then some node else d.node? l := by
  cases l with
  | nil => simp
  | cons a as =>
    rw [node?_cons, nodes_add hdir hfree, List.lookup_cons, node?_cons]
    by_cases h : a :: as = name :: dir
    · simp [h]
    · simp only [h, if_false, beq_eq_false_iff_ne.2 h]

theorem node?_add_self (hdir : d.node? dir = some .directory) (hfree : d.node? (name :: dir) = none) :
    (d.add dir name node).node? (name :: dir) = some node := by
  rw [node?_add hdir hfree, if_pos rfl]

/-- A new entry takes nothing away. -/
theorem node?_add_of_some {x : Node} (hdir : d.node? dir = some .directory)
    (hfree : d.node? (name :: dir) = none) (h : d.node? l = some x) :
    (d.add dir name node).node? l = some x := by
  have helse : l ≠ name :: dir := by
    rintro rfl
    rw [hfree] at h
    cases h
  rw [node?_add hdir hfree, if_neg helse, h]

/-! ## Entries that go -/

@[simp] theorem cwd_erase (d : Disk) (at_ : Location) : (d.erase at_).cwd = d.cwd := by
  unfold erase
  split <;> rfl

@[simp] theorem files_erase (d : Disk) (at_ : Location) : (d.erase at_).files = d.files := by
  unfold erase
  split <;> rfl

@[simp] theorem data_erase (d : Disk) (at_ : Location) (m : Nat) :
    (d.erase at_).data m = d.data m := by
  simp [data]

theorem nodes_erase (h : d.node? at_ ≠ some .directory) :
    (d.erase at_).nodes = d.nodes.filter fun e => e.1 ≠ at_ := by
  unfold erase
  rw [dif_pos (children_eq_nil h)]

theorem node?_erase (h : d.node? at_ ≠ some .directory) (l : Location) :
    (d.erase at_).node? l = if l = at_ then none else d.node? l := by
  cases l with
  | nil =>
    have : ([] : Location) ≠ at_ := by
      rintro rfl
      simp at h
    simp [this]
  | cons a as =>
    by_cases hl : a :: as = at_
    · rw [if_pos hl, node?_cons, lookup_eq_none_iff, nodes_erase h]
      simp [hl]
    · rw [if_neg hl]
      cases hn : d.node? (a :: as) with
      | none =>
        rw [node?_cons, lookup_eq_none_iff] at hn ⊢
        rw [nodes_erase h]
        exact fun hm => hn ((List.filter_sublist.map _).subset hm)
      | some node =>
        rw [node?_cons_eq_some_iff] at hn ⊢
        rw [nodes_erase h]
        exact List.mem_filter.2 ⟨hn, by simpa using hl⟩

@[simp] theorem node?_release (d : Disk) (n : Nat) (l : Location) :
    (d.release n).node? l = d.node? l := by
  unfold release
  split <;> rfl

@[simp] theorem cwd_release (d : Disk) (n : Nat) : (d.release n).cwd = d.cwd := by
  unfold release
  split <;> rfl

theorem lookup_filter_ne {k m : Nat} (h : m ≠ k) (es : List (Nat × FileData)) :
    (es.filter fun e => e.1 ≠ k).lookup m = es.lookup m := by
  induction es with
  | nil => rfl
  | cons e es ih =>
    obtain ⟨b, w⟩ := e
    by_cases hb : b = k
    · subst hb
      rw [List.filter_cons_of_neg (by simp), ih, lookup_cons_of_ne h]
    · rw [List.filter_cons_of_pos (by simpa using hb), List.lookup_cons, List.lookup_cons, ih]

/-- Forgetting contents that no name refers to leaves the contents of all names alone. -/
theorem data_release (h : d.node? at_ = some (.file m)) : (d.release n).data m = d.data m := by
  unfold release
  split
  · rfl
  · next hn =>
    have : m ≠ n := by
      rintro rfl
      exact hn (List.contains_iff_mem.2 (mem_numbers h))
    simp only [data, lookup_filter_ne this]

/-! ## A file in the making -/

/-- The disk `d` with one more file, under a number that nothing used. -/
def staged (d : Disk) (dir : Location) (name : Name) (f : FileData) : Disk :=
  (d.add dir name (.file d.freshNumber)).setFile d.freshNumber f

theorem createFile_eq_staged (d : Disk) (dir : Location) (name : Name) (mode : Nat) :
    d.createFile dir name mode = d.staged dir name { content := [], mode := mode } := rfl

@[simp] theorem cwd_staged (d : Disk) (dir : Location) (name : Name) (f : FileData) :
    (d.staged dir name f).cwd = d.cwd := by
  simp [staged]

theorem node?_staged (f : FileData) (hdir : d.node? dir = some .directory)
    (hfree : d.node? (name :: dir) = none) (l : Location) :
    (d.staged dir name f).node? l =
      if l = name :: dir then some (.file d.freshNumber) else d.node? l :=
  node?_add hdir hfree l

theorem node?_staged_self (f : FileData) (hdir : d.node? dir = some .directory)
    (hfree : d.node? (name :: dir) = none) :
    (d.staged dir name f).node? (name :: dir) = some (.file d.freshNumber) :=
  node?_add_self hdir hfree

theorem node?_staged_of_some (f : FileData) (hdir : d.node? dir = some .directory)
    (hfree : d.node? (name :: dir) = none) (h : d.node? l = some node) :
    (d.staged dir name f).node? l = some node :=
  node?_add_of_some hdir hfree h

/-- Whatever is not a file was there before. -/
theorem node?_of_staged {f : FileData} (hdir : d.node? dir = some .directory)
    (hfree : d.node? (name :: dir) = none) (hnoFile : ∀ m, node ≠ .file m)
    (h : (d.staged dir name f).node? l = some node) : d.node? l = some node := by
  rw [node?_staged f hdir hfree] at h
  split at h
  · cases h
    exact absurd rfl (hnoFile _)
  · exact h

theorem data_staged (d : Disk) (dir : Location) (name : Name) (f : FileData) (m : Nat) :
    (d.staged dir name f).data m = if m = d.freshNumber then f else d.data m := by
  simp [staged, data_setFile]

/-- Writing to the file changes nothing else. -/
theorem appendTo_staged (d : Disk) (dir : Location) (name : Name) (f : FileData) (bytes : Bytes) :
    (d.staged dir name f).appendTo d.freshNumber bytes =
      d.staged dir name { f with content := f.content ++ bytes } := by
  simp [appendTo, staged]

theorem overwrite_staged (d : Disk) (dir : Location) (name : Name) (f : FileData) (bytes : Bytes) :
    (d.staged dir name f).overwrite d.freshNumber bytes = d.staged dir name { f with content := bytes } := by
  simp [overwrite, staged]

/-- Without the file the disk is what it was. -/
theorem unlink_staged (f : FileData) (hdir : d.node? dir = some .directory)
    (hfree : d.node? (name :: dir) = none) : (d.staged dir name f).unlink (name :: dir) = d := by
  have hnode := node?_staged_self f hdir hfree
  have hnodes : (d.staged dir name f).nodes = (name :: dir, .file d.freshNumber) :: d.nodes :=
    nodes_add hdir hfree
  have hfiles : (d.staged dir name f).files = d.files ++ [(d.freshNumber, f)] := by
    simp only [staged, setFile, files_add]
    exact assign_of_not_mem f d.freshNumber_not_mem_files
  have herased : ((d.staged dir name f).erase (name :: dir)).nodes = d.nodes := by
    rw [nodes_erase (by simp [hnode]), hnodes, List.filter_cons_of_neg (by simp)]
    refine List.filter_eq_self.2 fun e he => ?_
    rw [node?_cons, lookup_eq_none_iff] at hfree
    simpa using fun heq => hfree (List.mem_map.2 ⟨e, he, heq⟩)
  have hunused : d.freshNumber ∉ ((d.staged dir name f).erase (name :: dir)).numbers := by
    unfold numbers
    rw [herased]
    exact d.freshNumber_not_mem_numbers
  unfold unlink
  rw [hnode]
  simp only [release, List.contains_iff_mem, if_neg hunused]
  refine ext_tables herased ?_ (by simp)
  simp only [files_erase, hfiles, List.filter_append]
  rw [List.filter_eq_self.2]
  · simp
  · intro e he
    have : e.1 ≠ d.freshNumber := fun heq =>
      d.freshNumber_not_mem_files (List.mem_map.2 ⟨e, he, heq⟩)
    simpa using this

/-! ## Moving a file -/

@[simp] theorem cwd_unlink (d : Disk) (at_ : Location) : (d.unlink at_).cwd = d.cwd := by
  unfold unlink
  split <;> simp

theorem node?_unlink (h : d.node? at_ ≠ some .directory) (l : Location) :
    (d.unlink at_).node? l = if l = at_ then none else d.node? l := by
  unfold unlink
  split
  · rw [node?_release, node?_erase h]
  · exact node?_erase h l
  · next hfile hlink =>
    cases hn : d.node? at_ with
    | none =>
      split
      · next hl => rw [hl, hn]
      · rfl
    | some node =>
      cases node with
      | directory => exact absurd hn h
      | link target => exact absurd hn (hlink target)
      | file n => exact absurd hn (hfile n)

/-- The contents of whatever still has a name survive. -/
theorem data_unlink (h : d.node? at_ ≠ some .directory) (hl : l ≠ at_)
    (hn : d.node? l = some (.file m)) : (d.unlink at_).data m = d.data m := by
  have hstill : (d.erase at_).node? l = some (.file m) := by rw [node?_erase h, if_neg hl, hn]
  unfold unlink
  split
  · rw [data_release hstill, data_erase]
  · rw [data_erase]
  · rfl

end Disk

/-- The location that a spot is about. -/
def Spot.location : Spot → Location
  | .found at_ _ => at_
  | .vacant dir name => name :: dir

namespace Disk

variable {d : Disk} {at_ dir l source : Location} {name : Name} {n m : Nat}

/-- The disk `e` is the disk `d` after the file number `n` was moved from `source` to `at_`. -/
structure Moved (d e : Disk) (source at_ : Location) (n : Nat) : Prop where
  cwd : e.cwd = d.cwd
  node? : ∀ l, e.node? l = if l = at_ then some (.file n) else if l = source then none else d.node? l
  data : ∀ {l m}, e.node? l = some (.file m) → e.data m = d.data m

/-- A file that is moved to where it is stays there. -/
theorem Moved.refl (hsource : d.node? source = some (.file n)) : Moved d d source source n where
  cwd := rfl
  node? l := by
    split
    · next hl => rw [hl, hsource]
    · rfl
  data _ := rfl

theorem moved_add {e : Disk} (hsource : d.node? source = some (.file n))
    (hdir : d.node? dir = some .directory) (hat : name :: dir ≠ source)
    (hnode : ∀ l, e.node? l = if l = name :: dir then none else if l = source then none else d.node? l)
    (hcwd : e.cwd = d.cwd)
    (hdata : ∀ {l m}, l ≠ name :: dir → d.node? l = some (.file m) → e.data m = d.data m) :
    Moved d (e.add dir name (.file n)) source (name :: dir) n := by
  have hdir' : e.node? dir = some .directory := by
    have hne : dir ≠ source := by
      rintro rfl
      rw [hdir] at hsource
      cases hsource
    have hlonger : dir ≠ name :: dir := fun h => by simpa using congrArg List.length h
    rw [hnode, if_neg hlonger, if_neg hne, hdir]
  have hfree : e.node? (name :: dir) = none := by simp [hnode]
  refine ⟨by simpa using hcwd, fun l => ?_, fun {l m} h => ?_⟩
  · rw [node?_add hdir' hfree, hnode]
    split <;> simp_all
  · rw [data_add]
    rw [node?_add hdir' hfree, hnode] at h
    split at h
    · cases h
      exact hdata (Ne.symm hat) hsource
    · next hl =>
      split at h
      · cases h
      · exact hdata hl h

/-- A file that is moved to a path ends where the path leads, with a link at its end left alone, and
takes the place of what was there. -/
theorem rename_cases {e : Disk} {p : Path} (hsource : d.node? source = some (.file n))
    (h : d.rename source p = .ok e) :
    ∃ spot, d.locate p false = .ok spot ∧ (∀ at_, spot ≠ .found at_ .directory) ∧
      Moved d e source spot.location n := by
  simp only [rename, hsource] at h
  split at h
  · cases h
  · split at h
    · cases h
    · cases h
    · next at_ node hnode hlocate =>
      refine ⟨_, hlocate, fun _ heq => ?_, ?_⟩
      · cases heq
        exact hnode rfl
      have hat : d.node? at_ = some node := locate_holds hlocate
      have hnotDir : d.node? at_ ≠ some .directory := by
        rw [hat]
        intro heq
        cases heq
        exact hnode rfl
      split at h
      · next heq =>
        cases h
        subst heq
        exact Moved.refl hsource
      · next hne =>
        split at h
        · cases h
        · next name dir =>
          cases h
          refine moved_add hsource (node?_parent hat) hne (fun l => ?_) (by simp) ?_
          · have hsource' : (d.unlink (name :: dir)).node? source ≠ some .directory := by
              rw [node?_unlink hnotDir, if_neg (Ne.symm hne), hsource]
              simp
            rw [node?_erase hsource', node?_unlink hnotDir]
            split <;> split <;> simp_all
          · intro l m hl hm
            rw [data_erase, data_unlink hnotDir hl hm]
    · next dir name hlocate =>
      cases h
      obtain ⟨hdir, hfree⟩ : d.node? dir = some .directory ∧ d.node? (name :: dir) = none :=
        locate_holds hlocate
      have hne : name :: dir ≠ source := by
        rintro rfl
        rw [hfree] at hsource
        cases hsource
      refine ⟨.vacant dir name, hlocate, (fun _ heq => nomatch heq), ?_⟩
      refine moved_add hsource hdir hne (fun l => ?_) (by simp) fun _ _ => by rw [data_erase]
      rw [node?_erase (by simp [hsource])]
      by_cases hl : l = name :: dir
      · simp [hl, hfree, hne]
      · simp [hl]

end Disk

end ReleaseBundle
