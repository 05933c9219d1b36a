import ReleaseBundle.Archive.Stream
import ReleaseBundle.Proofs.Archive.Tar
import ReleaseBundle.Proofs.Archive.Zip

/-!
# Archives can be unpacked

Unpacking an archive of either format gives back what was packed: the items in their order, under their
names and with their contents. The formats mark directories in different ways, a zip file by a slash
behind the name and a tar file by the kind of the record, so a name must not end in a slash itself.
-/

namespace ReleaseBundle

/-- What a payload is once it is unpacked. -/
def Payload.content? : Payload → Option Bytes
  | directory => none
  | file content _ => some content

namespace Archive

/-- What an item is once it is unpacked. -/
def Stored.ofItem (i : Item) : Stored := ⟨Text.ofString i.name, i.payload.content?⟩

/-- Whether the fields of a format can state the sizes of a content. -/
def Holds (f : Format) (content : Bytes) : Prop :=
  match f with
  | .zip => content.length ≤ Zip.max32 ∧ (Deflate.deflate content).length ≤ Zip.max32
  | .tarGz => content.length ≤ Tar.maxSize

/-- An item that a format can store. -/
structure Storable (f : Format) (i : Item) : Prop where
  text : 0 ∉ Text.ofString i.name
  name : (Text.ofString i.name).length < Zip.max16
  end_ : (Text.ofString i.name).getLast? ≠ some Path.slash
  size : ∀ content executable, i.payload = .file content executable → Holds f content

variable {f : Format} {i : Item} {items : List Item}

/-! ## Zip files -/

theorem nameFlags_le (name : Bytes) : Zip.nameFlags name ≤ Zip.max16 := by
  unfold Zip.nameFlags
  split <;> decide

theorem valid_ofItem (h : Storable .zip i) :
    (Zip.Member.ofItem i).Valid (i.payload.content?.getD []) := by
  have hname := h.name
  obtain ⟨name, payload⟩ := i
  cases payload with
  | directory =>
    exact {
      name := by
        simp only [Zip.Member.ofItem, List.length_append, List.length_singleton]
        exact hname
      flags := nameFlags_le _
      method := by simp [Zip.Member.ofItem]
      mode := by simp [Zip.Member.ofItem, Zip.max16]
      packed := by simp [Zip.Member.ofItem]
      size := rfl
      fits := by simp [Zip.Member.ofItem]
      crc := show 0 = Crc32.value [] by decide
      content := rfl }
  | file content executable =>
    obtain ⟨hsize, hpacked⟩ := h.size content executable rfl
    exact {
      name := Nat.le_of_lt hname
      flags := nameFlags_le _
      method := by simp [Zip.Member.ofItem, Zip.max16]
      mode := by simp [Zip.Member.ofItem, Zip.max16]
      packed := hpacked
      size := rfl
      fits := hsize
      crc := rfl
      content := Deflate.inflate?_deflate content }

theorem ofZip_read (h : Storable .zip i) (offset : Nat) :
    Stored.ofZip ((Zip.Member.ofItem i).read (i.payload.content?.getD []) offset) =
      Stored.ofItem i := by
  have hend := h.end_
  obtain ⟨name, payload⟩ := i
  cases payload with
  | directory =>
    simp [Stored.ofZip, Stored.ofItem, Zip.Member.read, Zip.Member.ofItem, Path.slash, Payload.content?]
  | file content executable => exact if_neg hend

theorem readFrom_ofItem (h : ∀ i ∈ items, Storable .zip i) (offset : Nat) :
    (Zip.readFrom offset
        (items.map fun i => (Zip.Member.ofItem i, i.payload.content?.getD []))).map Stored.ofZip =
      items.map Stored.ofItem := by
  induction items generalizing offset with
  | nil => rfl
  | cons i items ih =>
    obtain ⟨hfirst, hrest⟩ := List.forall_mem_cons.1 h
    simp only [List.map_cons, Zip.readFrom, ofZip_read hfirst, ih hrest]

theorem unpack?_zip (h : ∀ i ∈ items, Storable .zip i) :
    unpack? .zip (encode .zip items) = some (items.map Stored.ofItem) := by
  have hvalid : ∀ p ∈ items.map fun i => (Zip.Member.ofItem i, i.payload.content?.getD []),
      p.1.Valid p.2 := by
    intro p hp
    obtain ⟨i, hi, rfl⟩ := List.mem_map.1 hp
    exact valid_ofItem (h i hi)
  have hdecode := Zip.decode?_encode hvalid
  rw [List.map_map] at hdecode
  simp only [unpack?, encode, Option.map_eq_some_iff]
  exact ⟨_, hdecode, readFrom_ofItem h 0⟩

/-! ## Tar files -/

theorem fits_of_storable (h : Storable .tarGz i) : Tar.Fits i where
  text := h.text
  name := Nat.lt_trans h.name (by decide)
  size := by
    obtain ⟨name, payload⟩ := i
    cases payload with
    | directory => exact Nat.zero_le _
    | file content executable => exact h.size content executable rfl

theorem ofTar_read (i : Item) :
    Stored.ofTar (Text.ofString i.name) (Tar.itemRecord i).read = Stored.ofItem i := by
  obtain ⟨name, payload⟩ := i
  cases payload <;> rfl

theorem unpack?_tarGz (h : ∀ i ∈ items, Storable .tarGz i) :
    unpack? .tarGz (encode .tarGz items) = some (items.map Stored.ofItem) := by
  have hfits : ∀ i ∈ items, Tar.Fits i := fun i hi => fits_of_storable (h i hi)
  simp only [unpack?, encode, Gzip.decode?_encode, Tar.decode?_encode hfits, Tar.named_records hfits,
    Option.bind_eq_bind, Option.bind_some, Option.pure_def, List.map_map]
  congr 1
  exact List.map_congr_left fun i _ => ofTar_read i

/-- Unpacking gives back what was packed. -/
theorem unpack?_encode (h : ∀ i ∈ items, Storable f i) :
    unpack? f (encode f items) = some (items.map Stored.ofItem) := by
  cases f with
  | zip => exact unpack?_zip h
  | tarGz => exact unpack?_tarGz h

end Archive

end ReleaseBundle
