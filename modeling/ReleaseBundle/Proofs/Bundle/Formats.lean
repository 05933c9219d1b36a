import ReleaseBundle.Disk.Difference
import ReleaseBundle.Proofs.Bundle.AllOrNothing
import ReleaseBundle.Proofs.Bundle.Fresh
import ReleaseBundle.Proofs.Bundle.Order
import ReleaseBundle.Proofs.Bytes.Encoding

/-!
# The formats carry the same bundle

What is listed does not depend on the format, and what an entry is read as depends on it only in how a
failure is told. So whichever format a bundle is packed in, the archive is unpacked to the same names in
the same order with the same contents, although the two formats differ in how they mark a directory, in
what they do with a name that is too long for a header, and in what they keep of the permissions.
-/

namespace ReleaseBundle.Bundle

open Archive (Stored)

variable {d ground ground' e e' : Disk} {source archive archive' zip tar destination destination' : Path}
  {rootName : String} {rel : List Name} {rels : List (List Name)} {f f' : Format} {i i' : Item}
  {items items' : List Item} {entries entries' : List Entry} {at_ at' : Location} {medium : Medium}

/-! ## Two archives of one bundle -/

/-- A place is unpacked as its name and what it leads to, from either format. -/
theorem PackedAs.ofItem_eq (h : PackedAs d source rootName f rel i)
    (h' : PackedAs d source rootName f' rel i') : Stored.ofItem i = Stored.ofItem i' := by
  have hcontent := h.content
  rw [h'.content, Option.some.injEq] at hcontent
  rw [Stored.ofItem, Stored.ofItem, h.name, h'.name, hcontent]

theorem ofItem_eq_of_forall₂ (h : List.Forall₂ (PackedAs d source rootName f) rels items)
    (h' : List.Forall₂ (PackedAs d source rootName f') rels items') :
    items.map Stored.ofItem = items'.map Stored.ofItem := by
  induction h generalizing items' with
  | nil =>
    cases h'
    rfl
  | cons hfirst _ ih =>
    cases h' with
    | cons hfirst' hrest' => rw [List.map_cons, List.map_cons, hfirst.ofItem_eq hfirst', ih hrest']

/-- The same bundle is the same list of items, up to what the formats keep of the permissions. -/
theorem Packed.ofItem_eq (h : Packed medium d source archive f entries items ground at_ e)
    (h' : Packed medium d source archive' f' entries' items' ground' at' e') :
    items.map Stored.ofItem = items'.map Stored.ofItem := by
  obtain rfl : entries = entries' := by
    have hsame := h.collected
    rw [h'.collected, Except.ok.injEq] at hsame
    exact hsame.symm
  obtain ⟨rootName, rels, hroot, hcomplete, hitems⟩ := h.places
  obtain ⟨rootName', rels', hroot', hcomplete', hitems'⟩ := h'.places
  obtain rfl : rootName = rootName' := by
    rw [hroot, Option.some.injEq] at hroot'
    exact Text.ofString_injective hroot'
  obtain rfl : rels = rels' := by
    obtain ⟨l, hstat⟩ := Disk.isDirectory_iff.1 h.directory
    exact places_unique (Disk.bytes_ne_nil_of_stat hstat)
      (hcomplete.listed.imp fun _ _ hlisted => hlisted.source)
      (hcomplete'.listed.imp fun _ _ hlisted => hlisted.source)
  exact ofItem_eq_of_forall₂ hitems hitems'

/-- A bundle that can be packed in both formats is unpacked to the same names, in the same order and with
the same contents, from the zip file and from the tar file. They are what the tree below the bundle holds,
and nothing else can be read from the paths of the two archives. -/
theorem formats_carry_same_bundle (hzip : (writeArchive source destination .zip d).result = .ok zip)
    (htar : (writeArchive source destination' .tarGz d).result = .ok tar) :
    ∃ root stored, source.fileName? = some root ∧ Mirrors d source root stored ∧
      (∃ ground at_ n content,
        InPlace d zip ground at_ n (stagingFile content) (writeArchive source destination .zip d).disk ∧
        Archive.unpack? .zip content = some stored) ∧
      (∃ ground at_ n content,
        InPlace d tar ground at_ n (stagingFile content) (writeArchive source destination' .tarGz d).disk ∧
        Archive.unpack? .tarGz content = some stored) ∧
      (∀ bytes, (writeArchive source destination .zip d).disk.contentsOf zip = .ok bytes →
        Archive.unpack? .zip bytes = some stored) ∧
      ∀ bytes, (writeArchive source destination' .tarGz d).disk.contentsOf tar = .ok bytes →
        Archive.unpack? .tarGz bytes = some stored := by
  obtain ⟨rfl, entries, items, ground, at_, hpacked⟩ :=
    (writeArchive_ends source destination .zip d).of_ok hzip
  obtain ⟨rfl, entries', items', ground', at', hpacked'⟩ :=
    (writeArchive_ends source destination' .tarGz d).of_ok htar
  obtain ⟨root, hroot, hmirrors⟩ := hpacked.mirrors
  have hunpack := hpacked.unpack?_encode
  have hunpack' := hpacked'.unpack?_encode
  rw [← hpacked.ofItem_eq hpacked'] at hunpack'
  refine ⟨root, _, hroot, hmirrors, ⟨ground, at_, _, _, hpacked.inPlace, hunpack⟩,
    ⟨ground', at', _, _, hpacked'.inPlace, hunpack'⟩, fun bytes hread => ?_, fun bytes hread => ?_⟩
  · rw [hpacked.read hread, hunpack]
  · rw [hpacked'.read hread, hunpack']

/-! ## An assorted bundle -/

/-- Text of 99 bytes, most of it in letters of two bytes. -/
def lengthy : List Char := 'a' :: List.replicate 49 'é'

/-- The directory that is packed. -/
def bundleName : Name := ⟨Text.ofString "B", by decide⟩

/-- A name that takes 101 bytes below the bundle: the header of a tar file ends inside of its last letter. -/
def lengthyName : Name := ⟨Text.encode lengthy, by decide +kernel⟩

/-- The name of a directory with nothing in it. -/
def hollowName : Name := ⟨Text.ofString "e", by decide⟩

/-- The name of a file. -/
def plainName : Name := ⟨Text.ofString "z", by decide⟩

/-- A bundle of an empty file with a long name, an empty directory and a file, and a directory for the
archives beside it. -/
def assorted : Disk :=
  Disk.place (Disk.locationOf (.ofString "d")) .directory
    (Disk.placeFile [plainName, bundleName] { content := Text.ofString "run", mode := 0o755 }
      (Disk.place [hollowName, bundleName] .directory
        (Disk.placeFile [lengthyName, bundleName] .blank .empty)))

/-- What it holds. -/
def assortedEntries : List Entry :=
  [⟨.ofString "B", "B", true⟩,
    ⟨(Path.ofString "B").child lengthyName.bytes, "B" ++ "/" ++ String.ofList lengthy, false⟩,
    ⟨(Path.ofString "B").child hollowName.bytes, "B/e", true⟩,
    ⟨(Path.ofString "B").child plainName.bytes, "B/z", false⟩]

/-- What it is archived as. -/
def assortedItems : List Item :=
  [⟨"B", .directory⟩, ⟨"B" ++ "/" ++ String.ofList lengthy, .file [] false⟩, ⟨"B/e", .directory⟩,
    ⟨"B/z", .file (Text.ofString "run") true⟩]

theorem assorted_collected : collect assorted (.ofString "B") = .ok assortedEntries := by
  have hplain : assorted.Plain := by decide +kernel
  have hchildren : (assorted.children [bundleName]).Perm
      [(lengthyName, .file 1), (hollowName, .directory), (plainName, .file 2)] := by decide +kernel
  have hsorted : sortedChildren assorted [bundleName] =
      [(lengthyName, .file 1), (hollowName, .directory), (plainName, .file 2)] := by
    refine sortedChildren_eq (by decide +kernel) fun c => ?_
    rw [← hchildren.mem_iff]
    exact Disk.mem_children
  have hhollow : sortedChildren assorted [hollowName, bundleName] = [] := by
    have hnone : assorted.children [hollowName, bundleName] = [] := by decide +kernel
    rw [sortedChildren, hnone, List.mergeSort_nil]
  have hchars : Text.decode? (Text.ofString "B") = some ['B'] := by decide +kernel
  have htop : assorted.stat (.ofString "B") = .ok ([bundleName], .directory) := by decide +kernel
  have hinside : assorted.stat ((Path.ofString "B").child hollowName.bytes) =
      .ok ([hollowName, bundleName], .directory) := by decide +kernel
  have hcalled : ∀ e ∈ assortedEntries, entryName (.ofString "B") "B" e.source = .ok e.name := by
    decide +kernel
  simp only [assortedEntries, List.forall_mem_cons] at hcalled
  obtain ⟨hself, hlengthy, hhollowName, hplainName, _⟩ := hcalled
  have hempty : Listing assorted (.ofString "B") "B"
      ⟨[hollowName, bundleName], (Path.ofString "B").child hollowName.bytes⟩
      (sortedChildren assorted [hollowName, bundleName]) [] := by
    rw [hhollow]
    exact .done _
  have hlast : Listing assorted (.ofString "B") "B" ⟨[bundleName], .ofString "B"⟩ [(plainName, .file 2)]
      [⟨(Path.ofString "B").child plainName.bytes, "B/z", false⟩] :=
    .file (.file _) hplainName (.done _)
  have hrest : Listing assorted (.ofString "B") "B" ⟨[bundleName], .ofString "B"⟩
      [(hollowName, .directory), (plainName, .file 2)]
      (⟨(Path.ofString "B").child hollowName.bytes, "B/e", true⟩ ::
        ([] ++ [⟨(Path.ofString "B").child plainName.bytes, "B/z", false⟩])) :=
    .directory .directory hhollowName hinside hempty hlast
  refine collect_of_listing hplain (by decide +kernel) hchars htop hself ?_
  rw [hsorted]
  exact .file (.file _) hlengthy hrest

/-- The bundle can be packed in either format. -/
theorem assorted_archived (f : Format) :
    ∃ archive, (writeArchive (.ofString "B") (.ofString "d/r") f assorted).result = .ok archive := by
  have hplain : assorted.Plain := by decide +kernel
  have hdir : assorted.stat (.ofString "d") = .ok (Disk.locationOf (.ofString "d"), .directory) := by
    decide +kernel
  have hstaging : freeName? assorted (Disk.locationOf (.ofString "d")) = some ⟨stagingName 0, by decide⟩ := by
    decide +kernel
  have hitems : List.Forall₂ (fun e i => item f e assorted = .ok i) assortedEntries assortedItems := by
    have hmap : assortedEntries.map (item f · assorted) = assortedItems.map .ok := by
      cases f <;> decide +kernel
    rwa [← List.forall₂_eq_eq_eq, List.forall₂_map_left_iff, List.forall₂_map_right_iff] at hmap
  have hparent : (f.archivePath (.ofString "d/r")).parent? = some (.ofString "d") := by
    cases f <;> decide +kernel
  obtain ⟨k, hfree, hother⟩ : ∃ k, assorted.locate (f.archivePath (.ofString "d/r")) false =
      .ok (.vacant (Disk.locationOf (.ofString "d")) k) ∧ k ≠ ⟨stagingName 0, by decide⟩ := by
    cases f with
    | zip => exact ⟨⟨Text.ofString "r.zip", by decide⟩, by decide +kernel, by decide +kernel⟩
    | tarGz => exact ⟨⟨Text.ofString "r.tar.gz", by decide⟩, by decide +kernel, by decide +kernel⟩
  have hpackable := packable_of_free hplain (Disk.isDirectory_iff.2 ⟨[bundleName], by decide +kernel⟩)
    assorted_collected hparent (by decide +kernel) hdir hstaging hfree hother hitems
  obtain ⟨archive, hresult, _⟩ := hpackable.succeeds.succeeds
  exact ⟨archive, hresult⟩

/-- Both archives of the bundle can be written, and they hold the same four things. -/
theorem assorted_in_both_formats :
    ∃ zip tar stored,
      (writeArchive (.ofString "B") (.ofString "d/r") .zip assorted).result = .ok zip ∧
      (writeArchive (.ofString "B") (.ofString "d/r") .tarGz assorted).result = .ok tar ∧
      (∃ ground at_ n content,
        InPlace assorted zip ground at_ n (stagingFile content)
          (writeArchive (.ofString "B") (.ofString "d/r") .zip assorted).disk ∧
        Archive.unpack? .zip content = some stored) ∧
      ∃ ground at_ n content,
        InPlace assorted tar ground at_ n (stagingFile content)
          (writeArchive (.ofString "B") (.ofString "d/r") .tarGz assorted).disk ∧
        Archive.unpack? .tarGz content = some stored := by
  obtain ⟨zip, hzip⟩ := assorted_archived .zip
  obtain ⟨tar, htar⟩ := assorted_archived .tarGz
  obtain ⟨_, stored, _, _, hfirst, hsecond, _⟩ := formats_carry_same_bundle hzip htar
  exact ⟨zip, tar, stored, hzip, htar, hfirst, hsecond⟩

end ReleaseBundle.Bundle
