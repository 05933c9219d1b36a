import Mathlib.Data.List.Forall2
import ReleaseBundle.Bundle.Packing
import ReleaseBundle.Proofs.Archive.Writing
import ReleaseBundle.Proofs.Disk.Growth
import ReleaseBundle.Proofs.Moments

/-!
# What packing does to the disk

Up to the last step an archive is written, the disk differs from the first one by new directories and
by the staging file, whose contents grow. A failure takes the staging file away again and leaves the
directories. The last step puts the staging file where the path of the archive leads; from then on the
disk is `Replaced` in one place.
-/

namespace ReleaseBundle

namespace Disk

variable {d e ground : Disk} {p : Path} {at_ dir : Location} {name : Name} {n : Nat}

/-- The disk `e` is the disk `d` with the file `n` in the place `at_`, whatever was there before. -/
structure Replaced (d e : Disk) (at_ : Location) (n : Nat) (f : FileData) : Prop where
  cwd : e.cwd = d.cwd
  node? : ∀ l, e.node? l = if l = at_ then some (.file n) else d.node? l
  content : e.data n = f
  data : ∀ l m, l ≠ at_ → d.node? l = some (.file m) → e.data m = d.data m

theorem Replaced.keep {l : Location} {f : FileData} {node : Node} (h : Replaced d e at_ n f) (hl : l ≠ at_)
    (hnode : d.node? l = some node) : e.node? l = some node := by rw [h.node?, if_neg hl, hnode]

theorem Replaced.refusal? {f : FileData} (h : Replaced d e at_ n f) (hat : d.node? at_ ≠ some .directory) :
    e.refusal? p = d.refusal? p := by
  refine refusal?_congr h.cwd ?_
  rw [h.node?]
  split
  · next hcwd => simp [hcwd, hat]
  · rfl

theorem Replaced.node?_self {f : FileData} (h : Replaced d e at_ n f) : e.node? at_ = some (.file n) := by
  rw [h.node?, if_pos rfl]

/-- A path names a place, also when nothing stands there: it does not go through what stands there. -/
def Names (d : Disk) (p : Path) (at_ : Location) : Prop :=
  ∃ dir name, at_ = name :: dir ∧ (d.unlink at_).locate p false = .ok (.vacant dir name)

theorem refusal?_unlink (hat : d.node? at_ ≠ some .directory) :
    (d.unlink at_).refusal? p = d.refusal? p := by
  refine refusal?_congr (cwd_unlink d at_) ?_
  rw [node?_unlink hat]
  split
  · next hcwd => simp [hcwd, hat]
  · rfl

/-- A path that is not refused names a place if its parts lead there when the place is empty. -/
theorem names_iff (hat : d.node? (name :: dir) ≠ some .directory) (hnone : d.refusal? p = none) :
    d.Names p (name :: dir) ↔
      (d.unlink (name :: dir)).resolve false maxLinks (start d.cwd p) p.steps = .ok (.vacant dir name) := by
  simp only [Names, locate, refusal?_unlink hat, hnone, cwd_unlink]
  constructor
  · rintro ⟨_, _, hsame, hlocate⟩
    cases hsame
    exact hlocate
  · exact fun hlocate => ⟨_, _, rfl, hlocate⟩

/-- Moving a staging file puts it into one place and leaves no trace where it was written. -/
theorem Moved.replaced {f : FileData} (hdir : d.node? dir = some .directory)
    (hfree : d.node? (name :: dir) = none)
    (h : Moved (d.staged dir name f) e (name :: dir) at_ d.freshNumber) :
    Replaced d e at_ d.freshNumber f where
  cwd := by simpa using h.cwd
  node? l := by
    rw [h.node?, node?_staged f hdir hfree]
    split
    · rfl
    · split
      · next hl => rw [hl, hfree]
      · rfl
  content := by
    have hnew : e.node? at_ = some (.file d.freshNumber) := by rw [h.node?, if_pos rfl]
    rw [h.data hnew, data_staged, if_pos rfl]
  data l m hl hnode := by
    have hother : l ≠ name :: dir := by
      rintro rfl
      rw [hfree] at hnode
      cases hnode
    have hstill : e.node? l = some (.file m) := by
      rw [h.node?, if_neg hl, if_neg hother, node?_staged f hdir hfree, if_neg hother, hnode]
    rw [h.data hstill, data_staged, if_neg (ne_freshNumber hnode)]

/-! ## Directories -/

/-- A directory is created where the name is free. -/
theorem makeDirectory_cases (h : d.makeDirectory p = .ok e) :
    d.refusal? p = none ∧ ∃ dir name, d.locate p.withoutSlashes false = .ok (.vacant dir name) ∧
      e = d.add dir name .directory := by
  unfold makeDirectory at h
  split at h
  · cases h
  · next hnone =>
    split at h
    · cases h
    · cases h
    · next dir name hlocate =>
      cases h
      exact ⟨hnone, dir, name, hlocate, rfl⟩

theorem makeDirectory_adds (h : d.makeDirectory p = .ok e) : ∃ l, e.node? l ≠ d.node? l := by
  obtain ⟨_, dir, name, hlocate, rfl⟩ := makeDirectory_cases h
  obtain ⟨hdir, hfree⟩ := locate_holds hlocate
  exact ⟨name :: dir, by simp [node?_add_self hdir hfree, hfree]⟩

theorem makeDirectory_extends (h : d.makeDirectory p = .ok e) : Extends d e [] [p] := by
  obtain ⟨hnone, dir, name, hlocate, rfl⟩ := makeDirectory_cases h
  obtain ⟨hdir, hfree⟩ := locate_holds hlocate
  have hgrow : ∀ l node, d.node? l = some node →
      (d.add dir name .directory).node? l = some node :=
    fun l node => node?_add_of_some hdir hfree
  have hstat := stat_fill (by simp) hgrow hlocate (node?_add_self hdir hfree) (by simp)
  refine extends_add_directory hdir hfree ?_
  rw [stat_eq_directory_iff] at hstat ⊢
  refine ⟨refusal?_grow (by simp) hgrow hnone, ?_⟩
  have hroute := hstat.2
  rwa [Path.withoutSlashes_base, start, Path.withoutSlashes_isAbsolute] at hroute

end Disk

namespace Bundle

open Disk (Extends Replaced)

variable {d e ground : Disk} {dir : Location} {name : Name} {f : Format} {medium : Medium}

namespace Medium

variable {α : Type} {r : Request} {change : Disk → Except Fault (Disk × α)}
  {done : α → Disk → Prop} {failed : Fault → Disk → Prop}

/-- A change of names that is granted is made; one that is refused changes nothing. -/
theorem ends_grant (medium : Medium) (hdone : ∀ e a, change d = .ok (e, a) → done a e)
    (hfailed : ∀ x, failed x d) : (medium.grant r change).Ends d done failed := by
  refine Job.ends_attempt.2 ⟨fun e a h => ?_, fun x _ => hfailed x⟩
  split at h
  · cases h
  · exact hdone e a h

/-- A medium on which no request fails grants whatever is possible. -/
theorem ends_grant_reliable :
    (reliable.grant r change).Ends d done failed ↔
      (∀ e a, change d = .ok (e, a) → done a e) ∧ ∀ x, change d = .error x → failed x d :=
  Job.ends_attempt

end Medium

theorem makeDirectory_ends (medium : Medium) (p : Path) (d : Disk) :
    (makeDirectory medium p).Ends d (fun _ e => Extends d e [] [p] ∧ ∃ l, e.node? l ≠ d.node? l)
      (fun _ e => e = d) := by
  refine medium.ends_grant (fun e _ h => ?_) fun _ => rfl
  cases hmade : d.makeDirectory p with
  | error fault => simp [hmade, Except.map] at h
  | ok d' =>
    simp only [hmade, Except.map, Except.ok.injEq, Prod.mk.injEq] at h
    rw [← h.1]
    exact ⟨Disk.makeDirectory_extends hmade, Disk.makeDirectory_adds hmade⟩

theorem makeDirectory_throughout (medium : Medium) (p : Path) (d : Disk) :
    (makeDirectory medium p).Throughout d (fun m => Extends d m [] [p]) := by
  have hnothing : Extends d d [] [p] :=
    (Extends.refl d).mono (List.Subset.refl _) (List.nil_subset _)
  refine Job.throughout_attempt hnothing ((makeDirectory_ends medium p d).mono ?_ fun _ _ _ => trivial)
  rintro _ e ⟨hextends, l, hnew⟩ m hm
  rcases hm.of_node?_ne hnew with rfl | rfl
  · exact hnothing
  · exact hextends

theorem unlessDirectory_throughout {P : Disk → Prop} (p : Path) (fault : Fault) (h : P d) :
    (unlessDirectory p fault).Throughout d P :=
  Job.throughout_inspect h

/-- At every moment nothing but the directory and those above it was created. -/
theorem makeDirectories_throughout (medium : Medium) (p : Path) (d : Disk) :
    (makeDirectories medium p).Throughout d (fun m => Extends d m [] (p :: p.ancestors)) := by
  induction hlength : p.bytes.length using Nat.strongRecOn generalizing p d with
  | ind length ih =>
    have hnothing : Extends d d [] (p :: p.ancestors) :=
      (Extends.refl d).mono (List.nil_subset _) (List.nil_subset _)
    have honly : ∀ m, Extends d m [] [p] → Extends d m [] (p :: p.ancestors) :=
      fun m h => h.mono (List.Subset.refl _) (by simp)
    rw [makeDirectories]
    split
    · exact Job.throughout_pure hnothing
    · refine Job.throughout_bindJob
        (Job.throughout_outcome ((makeDirectory_throughout medium p d).mono honly)) ?_
      refine Job.ends_outcome.2 ((makeDirectory_ends medium p d).mono (fun _ e h => ?_) (fun fault e h => ?_))
      · exact Job.throughout_pure (honly e h.1)
      · subst h
        split
        · exact Job.throughout_pure hnothing
        · split
          · exact Job.throughout_fail hnothing
          · next parent hparent =>
            have hshorter : parent.bytes.length < length := hlength ▸ Path.length_parent hparent
            have hsub : parent :: parent.ancestors ⊆ p :: p.ancestors := by
              rw [Path.ancestors_of_parent hparent]
              exact List.subset_cons_self _ _
            have hbelow := ih _ hshorter parent e rfl
            refine Job.throughout_bindJob
              (hbelow.mono fun m h => h.mono (List.Subset.refl _) hsub) ?_
            refine hbelow.ends.mono (fun _ m habove => ?_) (fun _ _ _ => trivial)
            have hthen : ∀ m', Extends m m' [] [p] → Extends e m' [] (p :: p.ancestors) := fun m' h =>
              (habove.trans h).mono (List.Subset.refl _) (List.append_subset.2 ⟨hsub, by simp⟩)
            refine Job.throughout_bindJob
              (Job.throughout_outcome ((makeDirectory_throughout medium p m).mono hthen)) ?_
            refine Job.ends_outcome.2
              ((makeDirectory_ends medium p m).mono (fun _ m' h => ?_) (fun _ m' h => ?_))
            · exact Job.throughout_pure (hthen m' h.1)
            · subst h
              have hsoFar := habove.mono (List.Subset.refl _) hsub
              split
              · exact Job.throughout_pure hsoFar
              · exact unlessDirectory_throughout p _ hsoFar
        · exact unlessDirectory_throughout p _ hnothing

theorem makeParent_throughout (medium : Medium) (archive : Path) (d : Disk) :
    (makeParent medium archive).Throughout d (fun m => Extends d m [] archive.ancestors) := by
  unfold makeParent
  split
  · next parent hparent =>
    have hancestors : archive.ancestors = parent :: parent.ancestors := by
      unfold parentOf? at hparent
      split at hparent
      · next hsome =>
        split at hparent
        · cases hparent
        · cases hparent
          exact Path.ancestors_of_parent hsome
      · cases hparent
    rw [hancestors]
    exact makeDirectories_throughout medium parent d
  · exact Job.throughout_pure ((Extends.refl d).mono (List.nil_subset _) (List.nil_subset _))

theorem makeParent_ends (medium : Medium) (archive : Path) (d : Disk) :
    (makeParent medium archive).Ends d (fun _ e => Extends d e [] archive.ancestors)
      (fun _ e => Extends d e [] archive.ancestors) :=
  (makeParent_throughout medium archive d).ends

/-! ## The staging file -/

theorem freeName?_eq_some {k : Name} (h : freeName? d dir = some k) :
    d.node? (k :: dir) = none ∧ ∃ i, k.bytes = stagingName i := by
  obtain ⟨i, _, hi⟩ := List.exists_of_findSome?_eq_some h
  split at hi
  · next name hname =>
    split at hi
    · next hfree =>
      cases hi
      exact ⟨hfree, i, Name.ofBytes?_eq_some_iff.1 hname⟩
    · cases hi
  · cases hi

/-- The contents and the permission bits of a staging file. -/
def stagingFile (content : Bytes) : FileData := { content := content, mode := 0o600 }

/-- A place for a staging file in the directory that a path leads to. -/
structure StagingPlace (d : Disk) (p : Path) (dir : Location) (name : Name) : Prop where
  directory : d.stat p = .ok (dir, .directory)
  chosen : freeName? d dir = some name

namespace StagingPlace

variable {p : Path}

theorem node? (h : StagingPlace d p dir name) : d.node? dir = some .directory :=
  Disk.node?_of_stat h.directory

theorem free (h : StagingPlace d p dir name) : d.node? (name :: dir) = none :=
  (freeName?_eq_some h.chosen).1

theorem hidden (h : StagingPlace d p dir name) : ∃ i, name.bytes = stagingName i :=
  (freeName?_eq_some h.chosen).2

variable {l : Location} {node : Node}

theorem node?_self (h : StagingPlace d p dir name) (file : FileData) :
    (d.staged dir name file).node? (name :: dir) = some (.file d.freshNumber) :=
  Disk.node?_staged_self file h.node? h.free

theorem keep (h : StagingPlace d p dir name) (file : FileData) (hnode : d.node? l = some node) :
    (d.staged dir name file).node? l = some node :=
  Disk.node?_staged_of_some file h.node? h.free hnode

theorem before {file : FileData} (h : StagingPlace d p dir name) (hnoFile : ∀ m, node ≠ .file m)
    (hnode : (d.staged dir name file).node? l = some node) : d.node? l = some node :=
  Disk.node?_of_staged h.node? h.free hnoFile hnode

/-- The staging file stands in nobody's way. -/
theorem refusal? (h : StagingPlace d p dir name) (file : FileData) (q : Path) :
    (d.staged dir name file).refusal? q = d.refusal? q := by
  refine Disk.refusal?_congr (Disk.cwd_staged d dir name file) ?_
  rw [Disk.node?_staged file h.node? h.free]
  split
  · next hcwd => simp [hcwd, h.free]
  · rfl

/-- With and without the staging file the disk differs in the place of that file. -/
theorem node?_ne (h : StagingPlace d p dir name) (file : FileData) :
    d.node? (name :: dir) ≠ (d.staged dir name file).node? (name :: dir) := by
  rw [h.free, h.node?_self]
  simp

end StagingPlace

theorem createStaging_ends (medium : Medium) (p : Path) (d : Disk) :
    (createStaging medium p).Ends d
      (fun s e => ∃ dir name, StagingPlace d p dir name ∧ s = ⟨name :: dir, d.freshNumber⟩ ∧
        e = d.staged dir name (stagingFile []))
      (fun _ e => e = d) := by
  refine medium.ends_grant (fun e s h => ?_) fun _ => rfl
  split at h
  · cases h
  · next dir hstat =>
    split at h
    · next name hname =>
      cases h
      exact ⟨dir, name, ⟨hstat, hname⟩, rfl, rfl⟩
    · cases h
  · cases h

/-- What is packed is listed first, before anything is created. -/
theorem collected_of_ok {source : Path} {entries : List Entry}
    (h : (if d.isDirectory source then collect d source else .error (.sourceNotDirectory source)) =
      .ok entries) : d.isDirectory source = true ∧ collect d source = .ok entries := by
  split at h
  · next hsource => exact ⟨hsource, h⟩
  · cases h

/-- The items that the entries became, each read while the staging file held some part of the
archive. -/
def Items (ground : Disk) (dir : Location) (name : Name) (f : Format) (entries : List Entry)
    (items : List Item) : Prop :=
  List.Forall₂ (fun e i => ∃ written, item f e (ground.staged dir name (stagingFile written)) = .ok i)
    entries items

/-- A write appends to the staging file, or fails with anything in it. -/
theorem write_ends (medium : Medium) (r : Request) (bytes written : Bytes) :
    (Staging.write ⟨name :: dir, ground.freshNumber⟩ medium r bytes).Ends
      (ground.staged dir name (stagingFile written))
      (fun _ e => e = ground.staged dir name (stagingFile (written ++ bytes)))
      (fun _ e => ∃ part, e = ground.staged dir name (stagingFile part)) := by
  simp only [Staging.write, Job.ends_bind]
  refine Job.ends_look.2 ?_
  split
  · exact Disk.appendTo_staged ground dir name (stagingFile written) bytes
  · next left fault _ =>
    simp only [Job.ends_bind]
    exact ⟨left, Disk.overwrite_staged ground dir name (stagingFile written) left⟩

/-- A request that nothing is written for. -/
theorem write_nothing_ends (medium : Medium) (r : Request) (written : Bytes) :
    (Staging.write ⟨name :: dir, ground.freshNumber⟩ medium r []).Ends
      (ground.staged dir name (stagingFile written))
      (fun _ e => e = ground.staged dir name (stagingFile written))
      (fun _ e => ∃ part, e = ground.staged dir name (stagingFile part)) := by
  refine (write_ends medium r [] written).mono (fun _ e h => ?_) fun _ _ h => h
  rwa [List.append_nil] at h

/-- The head of an entry is accounted for with its contents. -/
theorem writeHead_ends (medium : Medium) (f : Format) (entry : Entry) (written : Bytes) :
    (writeHead medium f ⟨name :: dir, ground.freshNumber⟩ entry).Ends
      (ground.staged dir name (stagingFile written))
      (fun _ e => e = ground.staged dir name (stagingFile written))
      (fun _ e => ∃ part, e = ground.staged dir name (stagingFile part)) := by
  unfold writeHead
  split
  · exact Job.ends_mapError.2 (write_nothing_ends medium _ written)
  · rfl

theorem writeEnd_ends (medium : Medium) (f : Format) (w : Archive.Writer) (written : Bytes) :
    (writeEnd medium f ⟨name :: dir, ground.freshNumber⟩ w).Ends
      (ground.staged dir name (stagingFile written))
      (fun _ e => e = ground.staged dir name (stagingFile (written ++ w.finish)))
      (fun _ e => ∃ part, e = ground.staged dir name (stagingFile part)) := by
  cases f with
  | zip =>
    rw [writeEnd, Job.ends_mapError]
    exact write_ends medium .complete w.finish written
  | tarGz =>
    simp only [writeEnd, Job.ends_bind, Job.ends_mapError]
    refine (write_nothing_ends medium _ written).mono (fun _ e h => ?_) fun _ _ h => h
    subst h
    exact write_ends medium .compress w.finish written

theorem flush_ends (medium : Medium) (p : Path) (written : Bytes) :
    (flush medium ⟨name :: dir, ground.freshNumber⟩ p).Ends (ground.staged dir name (stagingFile written))
      (fun _ e => e = ground.staged dir name (stagingFile written))
      (fun _ e => ∃ part, e = ground.staged dir name (stagingFile part)) := by
  simp only [flush, Job.ends_bind]
  refine Job.ends_look.2 ?_
  exact Job.ends_mapError.2 (write_nothing_ends medium _ written)

theorem writeEntries_ends (medium : Medium) (w : Archive.Writer) (entries : List Entry) (written : Bytes) :
    (writeEntries medium f ⟨name :: dir, ground.freshNumber⟩ w entries).Ends
      (ground.staged dir name (stagingFile written))
      (fun _ e => ∃ items, Items ground dir name f entries items ∧
        e = ground.staged dir name (stagingFile (written ++ w.output items)))
      (fun _ e => ∃ part, e = ground.staged dir name (stagingFile part)) := by
  induction entries generalizing w written with
  | nil =>
    exact (writeEnd_ends medium f w written).mono (fun _ e h => ⟨[], List.Forall₂.nil, h⟩) fun _ _ h => h
  | cons entry entries ih =>
    simp only [writeEntries, Job.ends_bind]
    refine (writeHead_ends medium f entry written).mono (fun _ e h => ?_) fun _ _ h => h
    subst h
    refine Job.ends_inspect.2 ⟨fun i hitem => ?_, fun _ _ => ⟨written, rfl⟩⟩
    rw [Job.ends_mapError]
    refine (write_ends medium (.contents entry) (w.add i).2 written).mono (fun _ e h => ?_) fun _ _ h => h
    subst h
    refine (ih (w.add i).1 (written ++ (w.add i).2)).mono (fun _ e h => ?_) (fun _ _ h => h)
    obtain ⟨items, hitems, he⟩ := h
    refine ⟨i :: items, List.Forall₂.cons ⟨written, hitem⟩ hitems, ?_⟩
    rw [he, Archive.Writer.output, List.append_assoc]

theorem persist_ends (medium : Medium) {f : FileData} {archive : Path} (hdir : ground.node? dir = some .directory)
    (hfree : ground.node? (name :: dir) = none) :
    (persist medium ⟨name :: dir, ground.freshNumber⟩ archive).Ends (ground.staged dir name f)
      (fun _ e => ∃ spot, (ground.staged dir name f).locate archive false = .ok spot ∧
        (∀ at_, spot ≠ .found at_ .directory) ∧
        Replaced ground e spot.location ground.freshNumber f)
      (fun _ e => e = ground.staged dir name f) := by
  rw [persist, Job.ends_mapError]
  refine medium.ends_grant (fun e _ h => ?_) fun _ => rfl
  cases hmoved : (ground.staged dir name f).rename (name :: dir) archive with
  | error fault => simp [hmoved, Except.map] at h
  | ok d' =>
    simp only [hmoved, Except.map, Except.ok.injEq, Prod.mk.injEq] at h
    rw [← h.1]
    have hsource := Disk.node?_staged_self f hdir hfree
    obtain ⟨spot, hlocate, hnoDir, hmove⟩ := Disk.rename_cases hsource hmoved
    exact ⟨spot, hlocate, hnoDir, hmove.replaced hdir hfree⟩

/-! ## The whole archive -/

/-- The disk after an archive was written on a medium: `ground` is the disk with the directories for it, and
the archive stands in the place `at_`. -/
structure Packed (medium : Medium) (d : Disk) (source archive : Path) (f : Format) (entries : List Entry)
    (items : List Item) (ground : Disk) (at_ : Location) (e : Disk) : Prop where
  directory : d.isDirectory source = true
  collected : collect d source = .ok entries
  made : (makeParent medium archive d).disk = ground
  grown : Extends d ground [] archive.ancestors
  staged : ∃ dir name spot, StagingPlace ground (stagingDirectory archive) dir name ∧
    Items ground dir name f entries items ∧
    (ground.staged dir name (stagingFile (Archive.encode f items))).locate archive false = .ok spot ∧
    (∀ l, spot ≠ .found l .directory) ∧ spot.location = at_
  replaced : Replaced ground e at_ ground.freshNumber (stagingFile (Archive.encode f items))

theorem writeArchiveOn_ends (medium : Medium) (source destination : Path) (f : Format) (d : Disk) :
    (writeArchiveOn medium source destination f).Ends d
      (fun archive e => archive = f.archivePath destination ∧
        ∃ entries items ground at_, Packed medium d source archive f entries items ground at_ e)
      (fun _ e => Extends d e [] (f.archivePath destination).ancestors) := by
  have hnothing : Extends d d [] (f.archivePath destination).ancestors :=
    (Extends.refl d).mono (List.nil_subset _) (List.nil_subset _)
  simp only [writeArchiveOn, Job.ends_bind]
  refine Job.ends_inspect.2 ⟨fun entries hentries => ?_, fun _ _ => hnothing⟩
  obtain ⟨hsource, hcollected⟩ := collected_of_ok hentries
  rw [Job.ends_mapError]
  refine ((makeParent_ends medium _ d).and (Job.ends_self _ d)).mono (fun _ ground h => ?_) (fun _ _ h => h.1)
  obtain ⟨hground, _, hmade⟩ := h
  rw [Job.ends_mapError]
  refine (createStaging_ends medium _ ground).mono (fun s e h => ?_) (fun _ e h => h ▸ hground)
  obtain ⟨dir, name, hplace, rfl, rfl⟩ := h
  have hclean : ∀ part, (ground.staged dir name (stagingFile part)).unlink (name :: dir) = ground :=
    fun part => Disk.unlink_staged (stagingFile part) hplace.node? hplace.free
  have hspoiled : ∀ e : Disk, (∃ part, e = ground.staged dir name (stagingFile part)) →
      Extends d (e.unlink (name :: dir)) [] (f.archivePath destination).ancestors := by
    rintro e ⟨part, rfl⟩
    rw [hclean]
    exact hground
  rw [Job.ends_orUndo]
  simp only [Job.ends_bind]
  refine (writeEntries_ends medium (.start f) entries []).mono (fun _ e h => ?_) fun _ e h => hspoiled e h
  obtain ⟨items, hitems, rfl⟩ := h
  rw [List.nil_append, Archive.Writer.output_start]
  refine (flush_ends medium _ _).mono (fun _ e h => ?_) fun _ e h => hspoiled e h
  subst h
  refine (persist_ends medium hplace.node? hplace.free).mono (fun _ e h => ?_)
    fun _ e h => hspoiled e ⟨_, h⟩
  obtain ⟨spot, hlocate, hnoDir, hreplaced⟩ := h
  exact ⟨rfl, entries, items, ground, spot.location, hsource, hcollected, hmade.symm, hground,
    ⟨dir, name, spot, hplace, hitems, hlocate, hnoDir, rfl⟩, hreplaced⟩

/-- The same on a medium on which no request fails. -/
theorem writeArchive_ends (source destination : Path) (f : Format) (d : Disk) :
    (writeArchive source destination f).Ends d
      (fun archive e => archive = f.archivePath destination ∧
        ∃ entries items ground at_, Packed .reliable d source archive f entries items ground at_ e)
      (fun _ e => Extends d e [] (f.archivePath destination).ancestors) :=
  writeArchiveOn_ends .reliable source destination f d

end Bundle

end ReleaseBundle
