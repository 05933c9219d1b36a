import ReleaseBundle.Proofs.Archive.Unpacking
import ReleaseBundle.Proofs.Bundle.Coverage
import ReleaseBundle.Proofs.Bundle.Packing

/-!
# What an archive holds

The entries of a bundle are read one after the other while a staging file grows beside the archive, on a
disk that is larger than the one they were listed on. None of that is seen by the reads, so every item
holds what its entry leads to, and unpacking the archive gives the tree below the bundle as it was when
the bundle was listed.
-/

namespace ReleaseBundle

/-- What a path leads to when links are followed: nothing, a directory, or a file with its bytes. -/
def Disk.followed (d : Disk) (p : Path) : Option (Option Bytes) :=
  match d.stat p with
  | .ok (_, .directory) => some none
  | .ok (_, .file n) => some (some (d.data n).content)
  | _ => none

/-- Whether a path leads to a file that its owner may execute. -/
def Disk.executes (d : Disk) (p : Path) : Bool :=
  match d.stat p with
  | .ok (_, .file n) => (d.data n).ownerExecutes
  | _ => false

theorem Disk.executes_of_followed {d : Disk} {p : Path} (h : d.followed p = none) : d.executes p = false := by
  unfold followed at h
  unfold executes
  split at h
  · cases h
  · cases h
  · next hstat =>
    split
    · next at_ n hfile => exact absurd hfile (hstat at_ n)
    · rfl

namespace Bundle

open Archive (Holds Storable Stored)
open Disk (Extends)

variable {d ground : Disk} {source archive : Path} {rootName : String} {rel : List Name} {dir at_ : Location}
  {name : Name} {f : Format} {e : Entry} {i : Item} {made : List Path} {written : Bytes}

theorem tooLarge?_eq_none_iff {content : Bytes} : tooLarge? f content = none ↔ Holds f content := by
  cases f with
  | zip => simp [tooLarge?, Holds]
  | tarGz => simp [tooLarge?, Holds]

/-- What was there before the directories for the archive and the staging file is found as before. -/
theorem stat_staged {p : Path} {node : Node} (hgrown : Extends d ground [] made)
    (hplace : StagingPlace ground archive dir name) (hstat : d.stat p = .ok (at_, node)) :
    (ground.staged dir name (stagingFile written)).stat p = .ok (at_, node) := by
  exact Disk.stat_grow (by simp) (fun l x => hplace.keep _) (hgrown.stat hstat)

/-- What an entry is read as: a directory, or a file with its contents and its permission. -/
theorem item_cases (hlisted : Listed d source rootName rel e) (hgrown : Extends d ground [] made)
    (hplace : StagingPlace ground archive dir name) (hcwd : d.refusal? source = none)
    (h : item f e (ground.staged dir name (stagingFile written)) = .ok i) :
    i.name = e.name ∧
      ((i.payload = .directory ∧ ∃ l, d.stat e.source = .ok (l, .directory)) ∨
        ∃ l n, d.stat e.source = .ok (l, .file n) ∧
          i.payload = .file (d.data n).content (d.data n).ownerExecutes ∧ Holds f (d.data n).content) := by
  unfold item at h
  split at h
  · next hdirectory =>
    obtain ⟨l, hstat⟩ := hlisted.directory hdirectory
    have hitem : i = ⟨e.name, .directory⟩ := by
      unfold directoryItem at h
      split at h
      · exact (Except.ok.inj h).symm
      · split at h
        · cases h
        · exact (Except.ok.inj h).symm
    subst hitem
    exact ⟨rfl, Or.inl ⟨rfl, l, hstat⟩⟩
  · next hfile =>
    unfold fileItem at h
    split at h
    · cases h
    next opened hopened =>
    split at h
    · cases h
    next content hread =>
    split at h
    · cases h
    next hsmall =>
    cases h
    cases opened with
    | directory => cases hread
    | file m data =>
      obtain ⟨⟨l', hstaged⟩, hdata, _⟩ := Disk.openPath_eq_file_iff.1 hopened
      obtain ⟨_, hcontent⟩ := FileData.read_eq_ok_iff.1 hread
      -- the path is refused on neither disk, because they have the same current directory
      have hnone : d.refusal? e.source = none := by
        obtain ⟨hnul, hnil, hlength, _⟩ :=
          Disk.refusal?_eq_none_iff.1 (Disk.stat_eq_ok_iff.1 hstaged).1
        refine Disk.refusal?_eq_none_iff.2 ⟨hnul, hnil, hlength, fun hrelative => ?_⟩
        rw [hlisted.source, Path.isAbsolute_below] at hrelative
        exact (Disk.refusal?_eq_none_iff.1 hcwd).2.2.2 hrelative
      obtain ⟨l, n, hstat⟩ := hlisted.file (by simpa using hfile) hnone
      have hnode : ground.node? l = some (.file n) := Disk.node?_of_stat (hgrown.stat hstat)
      rw [stat_staged hgrown hplace hstat] at hstaged
      cases hstaged
      rw [Disk.data_staged, if_neg (Disk.ne_freshNumber hnode),
        hgrown.data_eq (Disk.node?_of_stat hstat)] at hdata
      refine ⟨rfl, Or.inr ⟨_, _, hstat, ?_, ?_⟩⟩
      · rw [hdata, hcontent]
        rfl
      · rw [hdata, hcontent]
        exact tooLarge?_eq_none_iff.1 hsmall

/-- An item holds what its entry leads to. -/
theorem item_followed (hlisted : Listed d source rootName rel e) (hgrown : Extends d ground [] made)
    (hplace : StagingPlace ground archive dir name) (hcwd : d.refusal? source = none)
    (h : item f e (ground.staged dir name (stagingFile written)) = .ok i) :
    i.name = e.name ∧ d.followed e.source = some i.payload.content? ∧
      (∀ content executable, i.payload = .file content executable →
        Holds f content ∧ d.executes e.source = executable) ∧
      d.refusal? e.source = none := by
  obtain ⟨hname, ⟨hpayload, l, hstat⟩ | ⟨l, n, hstat, hpayload, hholds⟩⟩ :=
    item_cases hlisted hgrown hplace hcwd h
  · refine ⟨hname, ?_, ?_, (Disk.stat_eq_ok_iff.1 hstat).1⟩
    · simp only [Disk.followed, hstat, hpayload, Payload.content?]
    · intro content executable hfile
      rw [hpayload] at hfile
      cases hfile
  · refine ⟨hname, ?_, ?_, (Disk.stat_eq_ok_iff.1 hstat).1⟩
    · simp only [Disk.followed, hstat, hpayload, Payload.content?]
    · intro content executable hfile
      rw [hpayload] at hfile
      cases hfile
      exact ⟨hholds, by simp only [Disk.executes, hstat]⟩

/-! ## The whole tree -/

/-- The list holds the tree below a directory under the name `root`: each place that leads somewhere once,
with what is there, and nothing else. Nothing in the tree is passed over because it leads nowhere. -/
structure Mirrors (d : Disk) (source : Path) (root : Bytes) (stored : List Stored) : Prop where
  nodup : (stored.map Stored.name).Nodup
  mem_iff : ∀ s : Stored, s ∈ stored ↔ ∃ rel : List Name,
    s.name = Path.glue (root :: rel.map Name.bytes) ∧ d.followed (source.below rel) = some s.content
  whole : ∀ (rel : List Name) (l : Location) (name : Name) (node : Node),
    d.stat (source.below rel) = .ok (l, .directory) → d.node? (name :: l) = some node →
    ∃ content, d.followed (source.below (rel ++ [name])) = some content

/-- The item is what a place below the bundle was packed as. -/
structure PackedAs (d : Disk) (source : Path) (rootName : String) (f : Format) (rel : List Name)
    (i : Item) : Prop where
  name : Text.ofString i.name = Path.glue (Text.ofString rootName :: rel.map Name.bytes)
  content : d.followed (source.below rel) = some i.payload.content?
  size : ∀ content executable, i.payload = .file content executable → Holds f content
  executable : ∀ content executable, i.payload = .file content executable →
    d.executes (source.below rel) = executable
  path : d.refusal? (source.below rel) = none

theorem packedAs_of_items {rels : List (List Name)} {entries : List Entry} {items : List Item}
    (hlisted : List.Forall₂ (Listed d source rootName) rels entries)
    (hitems : Items ground dir name f entries items) (hgrown : Extends d ground [] made)
    (hplace : StagingPlace ground archive dir name) (hcwd : d.refusal? source = none) :
    List.Forall₂ (PackedAs d source rootName f) rels items := by
  unfold Items at hitems
  induction hlisted generalizing items with
  | nil =>
    cases hitems
    exact .nil
  | @cons rel e rels entries hfirst _ ih =>
    cases hitems with
    | cons hitem hrest =>
      obtain ⟨written, hitem⟩ := hitem
      obtain ⟨hname, hcontent, hfile, hpath⟩ := item_followed hfirst hgrown hplace hcwd hitem
      rw [hfirst.source] at hcontent hfile hpath
      refine .cons ⟨by rw [hname, hfirst.name], hcontent, fun c x hpayload => ?_, fun c x hpayload => ?_,
        hpath⟩ (ih hrest)
      · exact (hfile c x hpayload).1
      · exact (hfile c x hpayload).2

theorem bytes_injective {a b : List Name} (h : a.map Name.bytes = b.map Name.bytes) : a = b :=
  List.map_injective_iff.2 (fun x y hxy => by cases x; cases y; cases hxy; rfl) h

/-- Names of places have parts without slashes, so no two places have the same name. -/
theorem parts_of_place {root : Bytes} (hslash : Path.slash ∉ root) (hnil : root ≠ []) (rel : List Name) :
    ∀ t ∈ root :: rel.map Name.bytes, t ≠ [] ∧ Path.slash ∉ t := by
  intro t ht
  rcases List.mem_cons.1 ht with rfl | ht
  · exact ⟨hnil, hslash⟩
  · obtain ⟨name, _, rfl⟩ := List.mem_map.1 ht
    exact ⟨name.bytes_ne_nil, name.slash_not_mem⟩

theorem place_injective {root : Bytes} (hslash : Path.slash ∉ root) (hnil : root ≠ []) {a b : List Name}
    (h : Path.glue (root :: a.map Name.bytes) = Path.glue (root :: b.map Name.bytes)) : a = b := by
  have hsplit := congrArg Path.splitSlash h
  rw [Path.splitSlash_glue fun t ht => (parts_of_place hslash hnil a t ht).2,
    Path.splitSlash_glue fun t ht => (parts_of_place hslash hnil b t ht).2] at hsplit
  exact bytes_injective (List.cons.inj hsplit).2

theorem mem_of_forall₂ {α β : Type} {R : α → β → Prop} {as : List α} {bs : List β}
    (h : List.Forall₂ R as bs) :
    (∀ a ∈ as, ∃ b ∈ bs, R a b) ∧ ∀ b ∈ bs, ∃ a ∈ as, R a b := by
  induction h with
  | nil => simp
  | cons hfirst _ ih =>
    refine ⟨fun a ha => ?_, fun b hb => ?_⟩
    · rcases List.mem_cons.1 ha with rfl | ha
      · exact ⟨_, List.mem_cons_self, hfirst⟩
      · obtain ⟨b, hb, hr⟩ := ih.1 a ha
        exact ⟨b, List.mem_cons_of_mem _ hb, hr⟩
    · rcases List.mem_cons.1 hb with rfl | hb
      · exact ⟨_, List.mem_cons_self, hfirst⟩
      · obtain ⟨a, ha, hr⟩ := ih.2 b hb
        exact ⟨a, List.mem_cons_of_mem _ ha, hr⟩

variable {rels : List (List Name)} {entries : List Entry} {items : List Item}

/-- What leads somewhere is listed. -/
theorem Complete.mem_of_followed (h : Complete d source rootName rels entries) (hsource : source.bytes ≠ [])
    {content : Option Bytes} (hcontent : d.followed (source.below rel) = some content) : rel ∈ rels := by
  unfold Disk.followed at hcontent
  split at hcontent
  · next hstat => exact h.mem hsource hstat
  · next hstat => exact h.mem hsource hstat
  · cases hcontent

/-- The places that are listed are those that lead somewhere. -/
theorem Complete.mem_iff (h : Complete d source rootName rels entries) (hsource : source.bytes ≠ [])
    (hpacked : List.Forall₂ (PackedAs d source rootName f) rels items) :
    rel ∈ rels ↔ ∃ content, d.followed (source.below rel) = some content := by
  constructor
  · intro hrel
    obtain ⟨i, _, hitem⟩ := (mem_of_forall₂ hpacked).1 rel hrel
    exact ⟨_, hitem.content⟩
  · rintro ⟨content, hcontent⟩
    exact h.mem_of_followed hsource hcontent

/-- Once all entries are items, the items mirror the tree. -/
theorem Complete.mirrors (h : Complete d source rootName rels entries) (hsource : source.bytes ≠ [])
    (hslash : Path.slash ∉ Text.ofString rootName) (hnil : Text.ofString rootName ≠ [])
    (hpacked : List.Forall₂ (PackedAs d source rootName f) rels items) :
    Mirrors d source (Text.ofString rootName) (items.map Stored.ofItem) where
  nodup := by
    have hnames : (items.map Stored.ofItem).map Stored.name =
        rels.map fun rel => Path.glue (Text.ofString rootName :: rel.map Name.bytes) := by
      rw [List.map_map]
      clear h
      induction hpacked with
      | nil => rfl
      | cons hfirst _ ih => rw [List.map_cons, List.map_cons, ih, ← hfirst.name]; rfl
    rw [hnames]
    exact List.Nodup.map (fun a b hab => place_injective hslash hnil hab) h.nodup
  mem_iff := by
    intro s
    constructor
    · intro hs
      obtain ⟨i, hi, rfl⟩ := List.mem_map.1 hs
      obtain ⟨rel, _, hrel⟩ := (mem_of_forall₂ hpacked).2 i hi
      exact ⟨rel, hrel.name, hrel.content⟩
    · rintro ⟨rel, hname, hcontent⟩
      obtain ⟨i, hi, hitem⟩ := (mem_of_forall₂ hpacked).1 rel ((h.mem_iff hsource hpacked).2 ⟨_, hcontent⟩)
      refine List.mem_map.2 ⟨i, hi, ?_⟩
      rw [hitem.content, Option.some.injEq] at hcontent
      cases s
      simp only [Stored.ofItem, Stored.mk.injEq]
      exact ⟨hitem.name.trans hname.symm, hcontent⟩
  whole := by
    intro rel l name node hstat hnode
    have hin := h.closed rel (h.mem hsource hstat) l name node hstat hnode
    obtain ⟨i, _, hitem⟩ := (mem_of_forall₂ hpacked).1 _ hin
    exact ⟨_, hitem.content⟩

/-- A slash for each name at most doubles what the names take. -/
theorem sum_names_le (rel : List Name) :
    (rel.map fun name => name.bytes.length + 1).sum ≤
      2 * (rel.map fun name => name.bytes.length).sum := by
  induction rel with
  | nil => simp
  | cons name rel ih =>
    have := List.length_pos_iff.2 name.bytes_ne_nil
    simp only [List.map_cons, List.sum_cons]
    omega

/-- Paths are short, so the names of items fit their fields. -/
theorem PackedAs.storable (h : PackedAs d source rootName f rel i)
    (hroot : source.fileName? = some (Text.ofString rootName)) (hsource : (0 : UInt8) ∉ source.bytes) :
    Storable f i := by
  obtain ⟨hwithin, hslash, hnil, _⟩ := Path.fileName?_spec hroot
  refine ⟨fun hnul => ?_, ?_, ?_, h.size⟩
  · rw [h.name] at hnul
    rcases Path.mem_glue hnul with hnul | ⟨t, ht, hnul⟩
    · cases hnul
    · rcases List.mem_cons.1 ht with rfl | ht
      · exact hsource (hwithin.subset hnul)
      · obtain ⟨name, _, rfl⟩ := List.mem_map.1 ht
        exact name.nul_not_mem hnul
  · obtain ⟨_, _, hlength, _⟩ := Disk.refusal?_eq_none_iff.1 h.path
    have hbelow := Path.length_below source rel
    have hrootLength := hwithin.length_le
    have hglue := Path.length_glue (Text.ofString rootName :: rel.map Name.bytes)
    have hnames := sum_names_le rel
    have hlimits : Disk.maxPathLength = 4096 ∧ Zip.max16 = 65535 := ⟨rfl, rfl⟩
    simp only [List.map_cons, List.sum_cons, List.map_map, Function.comp_def] at hglue
    rw [h.name]
    omega
  · rw [h.name]
    exact (Path.getLast?_glue (parts_of_place hslash hnil rel)).2

variable {out : Disk} {medium : Medium}

/-- What was packed: the places below the bundle, each as its item. -/
theorem Packed.places (h : Packed medium d source archive f entries items ground at_ out) :
    ∃ rootName rels, source.fileName? = some (Text.ofString rootName) ∧
      Complete d source rootName rels entries ∧ List.Forall₂ (PackedAs d source rootName f) rels items := by
  obtain ⟨rootName, rels, hroot, hcomplete⟩ := complete_of_collect h.directory h.collected
  obtain ⟨l, hstat⟩ := Disk.isDirectory_iff.1 h.directory
  obtain ⟨dir, name, _, hplace, hitems, _⟩ := h.staged
  have hnone := (Disk.stat_eq_ok_iff.1 hstat).1
  exact ⟨rootName, rels, hroot, hcomplete, packedAs_of_items hcomplete.listed hitems h.grown hplace hnone⟩

/-- An archive that was written is unpacked to the items that were written. -/
theorem Packed.unpack?_encode (h : Packed medium d source archive f entries items ground at_ out) :
    Archive.unpack? f (Archive.encode f items) = some (items.map Stored.ofItem) := by
  obtain ⟨rootName, rels, hroot, _, hpacked⟩ := h.places
  obtain ⟨l, hstat⟩ := Disk.isDirectory_iff.1 h.directory
  obtain ⟨hnul, _⟩ := Disk.refusal?_eq_none_iff.1 (Disk.stat_eq_ok_iff.1 hstat).1
  refine Archive.unpack?_encode fun i hi => ?_
  obtain ⟨rel, _, hrel⟩ := (mem_of_forall₂ hpacked).2 i hi
  exact hrel.storable hroot hnul

/-- The items are the tree below the bundle. -/
theorem Packed.mirrors (h : Packed medium d source archive f entries items ground at_ out) :
    ∃ root, source.fileName? = some root ∧ Mirrors d source root (items.map Stored.ofItem) := by
  obtain ⟨rootName, rels, hroot, hcomplete, hpacked⟩ := h.places
  obtain ⟨l, hstat⟩ := Disk.isDirectory_iff.1 h.directory
  obtain ⟨_, hslash, hrootNil, _⟩ := Path.fileName?_spec hroot
  exact ⟨_, hroot, hcomplete.mirrors (Disk.bytes_ne_nil_of_stat hstat) hslash hrootNil hpacked⟩

/-- Unpacking an archive that was written gives the tree below the bundle. -/
theorem Packed.unpacks (h : Packed medium d source archive f entries items ground at_ out) :
    ∃ root stored, source.fileName? = some root ∧
      Archive.unpack? f (Archive.encode f items) = some stored ∧ Mirrors d source root stored := by
  obtain ⟨root, hroot, hmirrors⟩ := h.mirrors
  exact ⟨root, _, hroot, h.unpack?_encode, hmirrors⟩

end Bundle

end ReleaseBundle
