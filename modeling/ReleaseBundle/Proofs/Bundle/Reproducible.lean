import ReleaseBundle.Disk.Difference
import ReleaseBundle.Proofs.Bundle.AllOrNothing
import ReleaseBundle.Proofs.Bundle.Fresh
import ReleaseBundle.Proofs.Bundle.Order
import ReleaseBundle.Proofs.Bytes.Encoding

/-!
# Archives can be reproduced

The archive of a bundle depends on its tree alone. The entries are listed in the order of their places,
and the places are those that lead somewhere when links are followed. What is stored of a place is its
name below the bundle and what it leads to, and a tar file stores whether the owner may execute a file.
So two bundles of one name with equal trees become the same bytes, wherever they are, in whatever order
their directories are listed, whatever else is known about their files and whatever else is on the disks.
-/

namespace ReleaseBundle.Bundle

variable {d d' : Disk} {source source' archive archive' destination destination' : Path}
  {rootName rootName' : String} {rel : List Name} {rels rels' : List (List Name)} {f : Format} {i i' : Item}
  {items items' : List Item} {entries entries' : List Entry} {ground e e' : Disk} {at_ at' : Location}
  {medium medium' : Medium}

/-! ## Items of one place -/

/-- What is packed of a place are its name below the bundle and what it leads to. -/
theorem PackedAs.same (h : PackedAs d source rootName f rel i) (h' : PackedAs d' source' rootName f rel i')
    (htree : d.followed (source.below rel) = d'.followed (source'.below rel)) :
    i.name = i'.name ∧ i.payload.content? = i'.payload.content? := by
  rw [h.content, h'.content] at htree
  exact ⟨Text.ofString_injective (h.name.trans h'.name.symm), Option.some.inj htree⟩

/-- A zip member is made of the name and the content of an item. -/
theorem ofItem_eq (hname : i.name = i'.name) (hcontent : i.payload.content? = i'.payload.content?) :
    Zip.Member.ofItem i = Zip.Member.ofItem i' := by
  obtain ⟨name, payload⟩ := i
  obtain ⟨name', payload'⟩ := i'
  cases payload <;> cases payload' <;> simp_all [Zip.Member.ofItem, Payload.content?]

/-- With the permission to execute, an item is made of nothing else. -/
theorem PackedAs.item_eq (h : PackedAs d source rootName f rel i) (h' : PackedAs d' source' rootName f rel i')
    (htree : d.followed (source.below rel) = d'.followed (source'.below rel))
    (hexecutes : d.executes (source.below rel) = d'.executes (source'.below rel)) : i = i' := by
  obtain ⟨hname, hcontent⟩ := h.same h' htree
  have hpayload : i.payload = i'.payload := by
    cases hfirst : i.payload with
    | directory =>
      cases hsecond : i'.payload with
      | directory => rfl
      | file content' executable' => simp [hfirst, hsecond, Payload.content?] at hcontent
    | file content executable =>
      cases hsecond : i'.payload with
      | directory => simp [hfirst, hsecond, Payload.content?] at hcontent
      | file content' executable' =>
        have hsame : content = content' := by simpa [hfirst, hsecond, Payload.content?] using hcontent
        rw [h.executable _ _ hfirst, h'.executable _ _ hsecond] at hexecutes
        rw [hsame, hexecutes]
  obtain ⟨name, payload⟩ := i
  obtain ⟨name', payload'⟩ := i'
  rw [Item.mk.injEq]
  exact ⟨hname, hpayload⟩

/-! ## Bundles that look the same -/

/-- Two bundles have one name and look the same when links are followed. For a tar file they also agree in
which files their owner may execute. -/
structure SameBundle (f : Format) (d : Disk) (source : Path) (d' : Disk) (source' : Path) : Prop where
  name : source.fileName? = source'.fileName?
  tree : ∀ rel, d.followed (source.below rel) = d'.followed (source'.below rel)
  executable : f = .tarGz → ∀ rel, d.executes (source.below rel) = d'.executes (source'.below rel)

theorem forall₂_of_common {α β γ : Type} {R : α → β → Prop} {S : α → γ → Prop} {T : β → γ → Prop}
    {as : List α} {bs : List β} {cs : List γ} (ht : ∀ a b c, R a b → S a c → T b c)
    (h : List.Forall₂ R as bs) (h' : List.Forall₂ S as cs) : List.Forall₂ T bs cs := by
  induction h generalizing cs with
  | nil =>
    cases h'
    exact .nil
  | cons hfirst _ ih =>
    cases h' with
    | cons hother hrest => exact .cons (ht _ _ _ hfirst hother) (ih hrest)

/-- Places that were packed in the same order become one archive. -/
theorem SameBundle.encode_eq (h : SameBundle f d source d' source')
    (hpacked : List.Forall₂ (PackedAs d source rootName f) rels items)
    (hpacked' : List.Forall₂ (PackedAs d' source' rootName f) rels items') :
    Archive.encode f items = Archive.encode f items' := by
  cases f with
  | zip =>
    have hmembers : items.map Zip.Member.ofItem = items'.map Zip.Member.ofItem := by
      rw [← List.forall₂_eq_eq_eq, List.forall₂_map_left_iff, List.forall₂_map_right_iff]
      refine forall₂_of_common (fun rel i i' hi hi' => ?_) hpacked hpacked'
      obtain ⟨hname, hcontent⟩ := hi.same hi' (h.tree rel)
      exact ofItem_eq hname hcontent
    simp only [Archive.encode, hmembers]
  | tarGz =>
    have hitems : items = items' := by
      rw [← List.forall₂_eq_eq_eq]
      refine forall₂_of_common (fun rel i i' hi hi' => ?_) hpacked hpacked'
      exact hi.item_eq hi' (h.tree rel) (h.executable rfl rel)
    rw [hitems]

/-- Nothing is seen at a place that is not listed, so it is enough to look at those that are. -/
theorem SameBundle.of_complete (hname : source.fileName? = source'.fileName?)
    (h : Complete d source rootName rels entries) (h' : Complete d' source' rootName' rels entries')
    (hsource : source.bytes ≠ []) (hsource' : source'.bytes ≠ [])
    (htree : ∀ rel ∈ rels, d.followed (source.below rel) = d'.followed (source'.below rel))
    (hexecutes : ∀ rel ∈ rels, d.executes (source.below rel) = d'.executes (source'.below rel)) :
    SameBundle f d source d' source' := by
  have hnone : ∀ rel ∉ rels,
      d.followed (source.below rel) = none ∧ d'.followed (source'.below rel) = none := by
    intro rel hrel
    rw [Option.eq_none_iff_forall_ne_some, Option.eq_none_iff_forall_ne_some]
    exact ⟨fun _ hcontent => hrel (h.mem_of_followed hsource hcontent),
      fun _ hcontent => hrel (h'.mem_of_followed hsource' hcontent)⟩
  refine ⟨hname, fun rel => ?_, fun _ rel => ?_⟩
  · by_cases hrel : rel ∈ rels
    · exact htree rel hrel
    · obtain ⟨hfirst, hsecond⟩ := hnone rel hrel
      rw [hfirst, hsecond]
  · by_cases hrel : rel ∈ rels
    · exact hexecutes rel hrel
    · obtain ⟨hfirst, hsecond⟩ := hnone rel hrel
      rw [Disk.executes_of_followed hfirst, Disk.executes_of_followed hsecond]

/-! ## Archives -/

/-- The places of what was packed are in order, and they are those that lead somewhere. -/
theorem Packed.ordered (h : Packed medium d source archive f entries items ground at_ e) :
    ∃ rootName rels, source.fileName? = some (Text.ofString rootName) ∧ rels.Pairwise Before ∧
      (∀ rel, rel ∈ rels ↔ ∃ content, d.followed (source.below rel) = some content) ∧
      List.Forall₂ (PackedAs d source rootName f) rels items := by
  obtain ⟨rootName, rels, hroot, hcomplete, hpacked⟩ := h.places
  obtain ⟨l, hstat⟩ := Disk.isDirectory_iff.1 h.directory
  have hsource := Disk.bytes_ne_nil_of_stat hstat
  exact ⟨rootName, rels, hroot, hcomplete.ordered h.directory h.collected,
    fun rel => hcomplete.mem_iff hsource hpacked, hpacked⟩

/-- Bundles that look the same become one archive. -/
theorem Packed.encode_eq (h : Packed medium d source archive f entries items ground at_ e) {ground' : Disk}
    (h' : Packed medium' d' source' archive' f entries' items' ground' at' e')
    (hsame : SameBundle f d source d' source') :
    Archive.encode f items = Archive.encode f items' := by
  obtain ⟨rootName, rels, hroot, horder, hmem, hpacked⟩ := h.ordered
  obtain ⟨rootName', rels', hroot', horder', hmem', hpacked'⟩ := h'.ordered
  obtain rfl : rootName = rootName' := by
    have hnames := hsame.name
    rw [hroot, hroot', Option.some.injEq] at hnames
    exact Text.ofString_injective hnames
  obtain rfl : rels = rels' := by
    apply horder.eq_of_mem_iff horder'
    intro rel
    rw [hmem, hmem', hsame.tree]
  exact hsame.encode_eq hpacked hpacked'

/-- Two bundles that look the same are packed as the same bytes. These bytes are the contents of the files
that take the places of the archives, and nothing else can be read from the paths of the archives. -/
theorem writeArchive_reproducible (hsame : SameBundle f d source d' source')
    (h : (writeArchive source destination f d).result = .ok archive)
    (h' : (writeArchive source' destination' f d').result = .ok archive') :
    ∃ content,
      (∃ ground at_ n, InPlace d archive ground at_ n (stagingFile content)
        (writeArchive source destination f d).disk) ∧
      (∃ ground at_ n, InPlace d' archive' ground at_ n (stagingFile content)
        (writeArchive source' destination' f d').disk) ∧
      (∀ bytes, (writeArchive source destination f d).disk.contentsOf archive = .ok bytes →
        bytes = content) ∧
      ∀ bytes, (writeArchive source' destination' f d').disk.contentsOf archive' = .ok bytes →
        bytes = content := by
  obtain ⟨rfl, entries, items, ground, at_, hpacked⟩ :=
    (writeArchive_ends source destination f d).of_ok h
  obtain ⟨rfl, entries', items', ground', at', hpacked'⟩ :=
    (writeArchive_ends source' destination' f d').of_ok h'
  have hencode := hpacked.encode_eq hpacked' hsame
  refine ⟨Archive.encode f items, ⟨ground, at_, _, hpacked.inPlace⟩, ?_, fun _ hread => hpacked.read hread, ?_⟩
  · rw [hencode]
    exact ⟨ground', at', _, hpacked'.inPlace⟩
  · rw [hencode]
    exact fun _ hread => hpacked'.read hread

/-! ## One bundle on two disks -/

/-- The name of the first file of a small bundle. -/
def firstName : Name := ⟨Text.ofString "a", by decide⟩

/-- The name of its second file. -/
def secondName : Name := ⟨Text.ofString "b", by decide⟩

/-- The small bundle in the working directory, beside a directory for the archive. -/
def nearby : Disk :=
  Disk.place (Disk.locationOf (.ofString "d")) .directory
    (Disk.placeFile (Disk.locationOf (.ofString "W/b")) { content := Text.ofString "run", mode := 0o755 }
      (Disk.placeFile (Disk.locationOf (.ofString "W/a")) .blank .empty))

/-- The same bundle elsewhere. Its files were made in the other order and have other permissions, and it is
not alone. -/
def faraway : Disk :=
  Disk.placeFile (Disk.locationOf (.ofString "v/note")) .blank
    (Disk.placeFile (Disk.locationOf (.ofString "v/W/a")) { content := [], mode := 0o600 }
      (Disk.placeFile (Disk.locationOf (.ofString "v/W/b")) { content := Text.ofString "run", mode := 0o700 }
        .empty))

/-- What the small bundle holds. -/
def smallEntries (source : Path) : List Entry :=
  [⟨source, "W", true⟩, ⟨source.child firstName.bytes, "W/a", false⟩,
    ⟨source.child secondName.bytes, "W/b", false⟩]

/-- Where that is below the bundle. -/
def smallPlaces : List (List Name) := [[], [firstName], [secondName]]

/-- What it is archived as. -/
def smallItems : List Item :=
  [⟨"W", .directory⟩, ⟨"W/a", .file [] false⟩, ⟨"W/b", .file (Text.ofString "run") true⟩]

/-- A disk without links on which the small bundle can be packed: the bundle lies at `top`, and the name
`k` of its archive is free in the directory `dir`, where the staging file will be called `s`. -/
structure Offers (d : Disk) (source destination beside : Path) (top dir : Location) (m n : Nat)
    (k s : Name) : Prop where
  plain : d.Plain
  stat : d.stat source = .ok (top, .directory)
  children : (d.children top).Perm [(firstName, .file m), (secondName, .file n)]
  name : source.fileName? = some (Text.ofString "W")
  entries : ∀ e ∈ smallEntries source, entryName source "W" e.source = .ok e.name
  items : (smallEntries source).map (item .tarGz · d) = smallItems.map .ok
  parent : (Format.tarGz.archivePath destination).parent? = some beside
  slash : beside.endsInSlash = false
  directory : d.stat beside = .ok (dir, .directory)
  staging : freeName? d dir = some s
  free : d.locate (Format.tarGz.archivePath destination) false = .ok (.vacant dir k)
  other : k ≠ s

namespace Offers

variable {beside : Path} {top dir : Location} {m n : Nat} {k s : Name}

theorem collect (h : Offers d source destination beside top dir m n k s) :
    collect d source = .ok (smallEntries source) := by
  have hsorted : sortedChildren d top = [(firstName, .file m), (secondName, .file n)] := by
    refine sortedChildren_eq ?_ fun c => ?_
    · exact List.pairwise_pair.2 (by decide : firstName.bytes < secondName.bytes)
    · rw [← h.children.mem_iff]
      exact Disk.mem_children
  have hcalled := h.entries
  simp only [smallEntries, List.forall_mem_cons] at hcalled
  obtain ⟨hself, hfirst, hsecond, _⟩ := hcalled
  have htext : Text.decode? (Text.ofString "W") = some ['W'] := by decide +kernel
  refine collect_of_listing h.plain h.name htext h.stat hself ?_
  rw [hsorted]
  exact .file (.file _) hfirst (.file (.file _) hsecond (.done _))

theorem complete (h : Offers d source destination beside top dir m n k s) :
    ∃ rootName, Complete d source rootName smallPlaces (smallEntries source) := by
  have hdir := Disk.isDirectory_iff.2 ⟨_, h.stat⟩
  have hsource := Disk.bytes_ne_nil_of_stat h.stat
  obtain ⟨rootName, rels, _, hcomplete⟩ := complete_of_collect hdir h.collect
  have hrels : rels = smallPlaces := by
    apply places_unique hsource
    · exact hcomplete.listed.imp fun _ _ hlisted => hlisted.source
    · exact .cons rfl (.cons rfl (.cons rfl .nil))
  exact ⟨rootName, hrels ▸ hcomplete⟩

theorem archived (h : Offers d source destination beside top dir m n k s) :
    ∃ archive, (writeArchive source destination .tarGz d).result = .ok archive := by
  have hitems : List.Forall₂ (fun e i => item .tarGz e d = .ok i) (smallEntries source) smallItems := by
    have hmap := h.items
    rwa [← List.forall₂_eq_eq_eq, List.forall₂_map_left_iff, List.forall₂_map_right_iff] at hmap
  have hpackable := packable_of_free h.plain (Disk.isDirectory_iff.2 ⟨_, h.stat⟩) h.collect h.parent h.slash
    h.directory h.staging h.free h.other hitems
  obtain ⟨archive, hresult, _⟩ := hpackable.succeeds.succeeds
  exact ⟨archive, hresult⟩

end Offers

theorem nearby_offers : Offers nearby (.ofString "W") (.ofString "d/r") (.ofString "d")
    [⟨Text.ofString "W", by decide⟩] [⟨Text.ofString "d", by decide⟩] 1 2
    ⟨Text.ofString "r.tar.gz", by decide⟩ ⟨stagingName 0, by decide⟩ := by
  constructor <;> decide +kernel

theorem faraway_offers : Offers faraway (.ofString "v/W") (.ofString "v/r") (.ofString "v")
    [⟨Text.ofString "W", by decide⟩, ⟨Text.ofString "v", by decide⟩] [⟨Text.ofString "v", by decide⟩] 2 1
    ⟨Text.ofString "r.tar.gz", by decide⟩ ⟨stagingName 0, by decide⟩ := by
  constructor <;> decide +kernel

theorem nearby_faraway_same : SameBundle .tarGz nearby (.ofString "W") faraway (.ofString "v/W") := by
  obtain ⟨_, hnearby⟩ := nearby_offers.complete
  obtain ⟨_, hfaraway⟩ := faraway_offers.complete
  apply SameBundle.of_complete (by decide) hnearby hfaraway (by decide) (by decide) <;> decide +kernel

theorem small_bundle_reproducible :
    SameBundle .tarGz nearby (.ofString "W") faraway (.ofString "v/W") ∧
      ∃ archive archive' content,
        (writeArchive (.ofString "W") (.ofString "d/r") .tarGz nearby).result = .ok archive ∧
        (writeArchive (.ofString "v/W") (.ofString "v/r") .tarGz faraway).result = .ok archive' ∧
        (∃ ground at_ n, InPlace nearby archive ground at_ n (stagingFile content)
          (writeArchive (.ofString "W") (.ofString "d/r") .tarGz nearby).disk) ∧
        ∃ ground at_ n, InPlace faraway archive' ground at_ n (stagingFile content)
          (writeArchive (.ofString "v/W") (.ofString "v/r") .tarGz faraway).disk := by
  obtain ⟨archive, hnearby⟩ := nearby_offers.archived
  obtain ⟨archive', hfaraway⟩ := faraway_offers.archived
  obtain ⟨content, hfirst, hsecond, _⟩ := writeArchive_reproducible nearby_faraway_same hnearby hfaraway
  exact ⟨nearby_faraway_same, archive, archive', content, hnearby, hfaraway, hfirst, hsecond⟩

end ReleaseBundle.Bundle
