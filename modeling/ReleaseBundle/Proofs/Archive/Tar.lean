import ReleaseBundle.Archive.Tar
import Mathlib.Algebra.Group.Nat.Defs

/-!
# Tar files can be read back

A reader takes the fields of a header in the order in which they were written, adds up its bytes to compare
the checksum, and the size among the fields tells how much data follows. Numbers come back from their
digits, and a name comes back from its field as long as it does not end like what fills the field up. A
name that is too long for its field comes back from the record before it.
-/

namespace ReleaseBundle.Tar

open Bytes (take? take?_append_of_length)

/-! ## Numbers -/

theorem length_octal (width value : Nat) : (octal width value).length = width := by
  induction width generalizing value with
  | zero => rfl
  | succ width ih => simp [octal, ih]

@[simp] theorem length_octalField (width value : Nat) :
    (octalField (width + 1) value).length = width + 1 := by
  simp [octalField, length_octal]

theorem octal_digit (value : Nat) : (UInt8.ofNat (0x30 + value % 8)).toNat = 0x30 + value % 8 := by
  rw [UInt8.toNat_ofNat', Nat.mod_eq_of_lt (by omega)]

theorem readOctal_octal {width value : Nat} (h : value < 8 ^ width) (sofar : Nat) (rest : Bytes) :
    readOctal sofar (octal width value ++ rest) = readOctal (sofar * 8 ^ width + value) rest := by
  induction width generalizing value rest with
  | zero =>
    obtain rfl : value = 0 := by simpa using h
    simp [octal]
  | succ width ih =>
    have hdigit := octal_digit value
    have hnotNul : UInt8.ofNat (0x30 + value % 8) ≠ 0 := by
      intro hnul
      rw [hnul] at hdigit
      simp at hdigit
      omega
    have hrange : (0x30 : UInt8) ≤ UInt8.ofNat (0x30 + value % 8) ∧
        UInt8.ofNat (0x30 + value % 8) < 0x38 := by
      rw [UInt8.le_iff_toNat_le, UInt8.lt_iff_toNat_lt, hdigit]
      simp
      omega
    have hfront : value / 8 < 8 ^ width :=
      Nat.div_lt_of_lt_mul (by rwa [Nat.pow_succ, Nat.mul_comm] at h)
    rw [octal, List.append_assoc, ih hfront, List.singleton_append, readOctal, if_neg hnotNul,
      if_pos hrange, hdigit, Nat.pow_succ]
    congr 1
    generalize 8 ^ width = power
    rw [← Nat.mul_assoc]
    generalize sofar * power = base
    omega

theorem octal_lt {width value : Nat} {b : UInt8} (h : b ∈ octal width value) : b.toNat < 0x38 := by
  induction width generalizing value with
  | zero => cases h
  | succ width ih =>
    rcases List.mem_append.1 h with h | h
    · exact ih h
    · rw [List.mem_singleton.1 h, octal_digit]
      omega

/-- A number in octal digits is read back. -/
theorem number?_octalField {width value : Nat} (h : value < 8 ^ (width + 1)) (rest : Bytes) :
    number? (width + 2) (octalField (width + 2) value ++ rest) = some (value, rest) := by
  have hfield : take? (width + 2) (octalField (width + 2) value ++ rest) =
      some (octalField (width + 2) value, rest) := take?_append_of_length _ _ (by simp)
  have hread : readOctal 0 (octalField (width + 2) value) = some value := by
    show readOctal 0 (octal (width + 1) value ++ [0]) = some value
    rw [readOctal_octal h]
    simp [readOctal]
  have hoctal : ∀ digits, octalField (width + 2) value ≠ 0x80 :: digits := by
    intro digits heq
    have hmem : (0x80 : UInt8) ∈ octal (width + 1) value := by
      have hcons : octal (width + 1) value ++ [0] = 0x80 :: digits := heq
      rcases hoctal : octal (width + 1) value with _ | ⟨b, bs⟩
      · have hlength := length_octal (width + 1) value
        rw [hoctal] at hlength
        cases hlength
      · rw [hoctal, List.cons_append, List.cons.injEq] at hcons
        simp [hcons.1]
    exact absurd (octal_lt hmem) (by decide)
  simp [number?, hfield, hread]

theorem number?_eight {value : Nat} (h : value < 8 ^ 7) (rest : Bytes) :
    number? 8 (octalField 8 value ++ rest) = some (value, rest) :=
  have hdigits : value < 8 ^ (6 + 1) := h
  number?_octalField hdigits rest

/-- A size is read back, in digits or in binary. -/
theorem number?_wideField {value : Nat} (h : value ≤ maxSize) (rest : Bytes) :
    number? 12 (wideField value ++ rest) = some (value, rest) := by
  unfold wideField
  split
  · next hsmall =>
    have hdigits : value < 8 ^ (10 + 1) := hsmall
    exact number?_octalField hdigits rest
  · have hfield : take? 12 ([0x80, 0, 0, 0] ++ (Bytes.littleEndian 8 value).reverse ++ rest) =
        some ([0x80, 0, 0, 0] ++ (Bytes.littleEndian 8 value).reverse, rest) :=
      take?_append_of_length _ _ (by simp)
    have hzeros : ∀ bs, Bytes.ofLittleEndian (bs ++ [0, 0, 0]) = Bytes.ofLittleEndian bs := by
      intro bs
      induction bs with
      | nil => rfl
      | cons b bs ih => simp [Bytes.ofLittleEndian, ih]
    have hvalue := Bytes.ofLittleEndian_littleEndian 8 value (Nat.lt_succ_of_le h)
    simp only [number?, hfield, Option.bind_eq_bind, Option.bind_some]
    simp [hzeros, hvalue]

/-! ## Text -/

theorem length_textField {width : Nat} {text : Bytes} (h : text.length ≤ width) :
    (textField width text).length = width := by
  simp [textField]
  omega

/-- Filling text up with NULs is undone if the text has no NULs itself. -/
theorem untilPadding_append {text : Bytes} (h : 0 ∉ text) (k : Nat) :
    untilPadding (text ++ List.replicate k 0) = text := by
  have hdrop : ∀ front : Bytes, (List.replicate k 0 ++ front).dropWhile (· == 0) =
      front.dropWhile (· == 0) := by
    intro front
    induction k with
    | zero => rfl
    | succ k ih => simp [List.replicate_succ, ih]
  have hkeep : text.reverse.dropWhile (· == 0) = text.reverse := by
    cases hlast : text.reverse with
    | nil => rfl
    | cons b bs =>
      have hmem : b ∈ text := List.mem_reverse.1 (hlast ▸ List.mem_cons_self)
      have hnotNul : (b == 0) = false := beq_eq_false_iff_ne.2 fun hnul => h (hnul ▸ hmem)
      rw [List.dropWhile_cons, hnotNul]
      rfl
  rw [untilPadding, List.reverse_append, List.reverse_replicate, hdrop, hkeep, List.reverse_reverse]

/-! ## Records -/

/-- A record whose name and numbers fit their fields. -/
structure Record.Valid (r : Record) : Prop where
  name : r.name.length ≤ nameLimit
  text : 0 ∉ r.name
  mode : r.mode < 8 ^ 7
  size : r.data.length ≤ maxSize
  time : r.time ≤ maxSize

/-- What a reader makes of a record. -/
def Record.read (r : Record) : Entry := ⟨r.name, r.mode, 0, 0, r.time, r.kind, magic, r.data⟩

theorem ofFlag?_flag (k : Kind) : Kind.ofFlag? k.flag = some k := by
  cases k <;> rfl

theorem length_devices (r : Record) : r.devices.length = 16 := by
  unfold Record.devices
  split <;> simp

variable {r : Record} {rs : List Record}

/-! ## Checksums -/

@[simp] theorem length_wideField (value : Nat) : (wideField value).length = 12 := by
  unfold wideField
  split <;> simp

theorem length_front (h : r.Valid) : r.front.length = 148 := by
  have hname := length_textField h.name
  simp only [Record.front, List.length_append, hname, length_octalField, length_wideField]
  rfl

theorem length_back (r : Record) : r.back.length = 356 := by
  have hmagic : magic.length = 8 := rfl
  simp only [Record.back, List.length_append, List.length_singleton, List.length_replicate, hmagic, length_devices]

theorem length_header (h : r.Valid) : r.header.length = blockSize := by
  simp only [Record.header, List.length_append, length_front h, length_octalField, length_back, blockSize]

theorem foldl_total (bs : Bytes) (n : Nat) :
    bs.foldl (fun (n : Nat) (b : UInt8) => n + b.toNat) n = n + total bs := by
  induction bs generalizing n with
  | nil => rfl
  | cons b bs ih => rw [List.foldl_cons, ih, total, Nat.add_assoc]

theorem total_le (bs : Bytes) : total bs ≤ 255 * bs.length := by
  induction bs with
  | nil => exact Nat.zero_le _
  | cons b bs ih =>
    have := b.toNat_lt
    simp only [total, List.length_cons]
    omega

theorem checksum_eq (r : Record) : r.checksum = total r.front + 8 * 0x20 + total r.back := by
  simp [Record.checksum, foldl_total]

theorem blockSum_header (h : r.Valid) : blockSum r.header = r.checksum := by
  have hfront : r.header.take 148 = r.front := by
    rw [Record.header, List.append_assoc, List.take_left' (length_front h)]
  have hback : r.header.drop 156 = r.back := by
    have hlength : (r.front ++ octalField 8 r.checksum).length = 156 := by simp [length_front h]
    rw [Record.header, List.drop_left' hlength]
  rw [blockSum, hfront, hback, checksum_eq]

theorem checksum_lt (h : r.Valid) : r.checksum < 8 ^ 7 := by
  have hfront := total_le r.front
  have hback := total_le r.back
  rw [length_front h] at hfront
  rw [length_back] at hback
  rw [checksum_eq]
  omega

/-! ## Whole records -/

theorem readRecord?_encode (h : r.Valid) (rest : Bytes) :
    readRecord? (r.encode ++ rest) = some (r.read, rest) := by
  have htail : (List.replicate 64 0 ++ r.devices ++ List.replicate 167 0).length = 247 := by
    simp only [List.length_append, List.length_replicate, length_devices]
  generalize hrest : List.replicate 64 0 ++ r.devices ++ List.replicate 167 0 = tail at htail
  have hencode : r.encode ++ rest =
      textField nameLimit r.name ++ (octalField 8 r.mode ++ (octalField 8 0 ++ (octalField 8 0 ++
        (wideField r.data.length ++ (wideField r.time ++ (octalField 8 r.checksum ++
          ([r.kind.flag] ++ (List.replicate 100 0 ++ (magic ++ (tail ++
            (r.data ++ (padding r.data.length ++ rest)))))))))))) := by
    simp only [Record.encode, Record.header, Record.front, Record.back, ← hrest, List.append_assoc]
  have hname : untilPadding (textField nameLimit r.name) = r.name := untilPadding_append h.text _
  have hblock : take? blockSize (r.encode ++ rest) = some (r.header, r.data ++ padding r.data.length ++ rest) := by
    rw [Record.encode, List.append_assoc, List.append_assoc, ← List.append_assoc r.data]
    exact take?_append_of_length _ _ (length_header h)
  rw [readRecord?]
  refine Option.bind_eq_some_iff.2 ⟨_, hblock, ?_⟩
  rw [hencode]
  -- the fields are read one after the other
  refine Option.bind_eq_some_iff.2 ⟨_, take?_append_of_length _ _ (length_textField h.name), ?_⟩
  refine Option.bind_eq_some_iff.2 ⟨_, number?_eight h.mode _, ?_⟩
  refine Option.bind_eq_some_iff.2 ⟨_, number?_eight (by decide) _, ?_⟩
  refine Option.bind_eq_some_iff.2 ⟨_, number?_eight (by decide) _, ?_⟩
  refine Option.bind_eq_some_iff.2 ⟨_, number?_wideField h.size _, ?_⟩
  refine Option.bind_eq_some_iff.2 ⟨_, number?_wideField h.time _, ?_⟩
  refine Option.bind_eq_some_iff.2 ⟨_, number?_eight (checksum_lt h) _, ?_⟩
  refine Option.bind_eq_some_iff.2 ⟨(), if_pos (blockSum_header h).symm, ?_⟩
  refine Option.bind_eq_some_iff.2 ⟨_, take?_append_of_length [r.kind.flag] _ rfl, ?_⟩
  refine Option.bind_eq_some_iff.2 ⟨_, ofFlag?_flag r.kind, ?_⟩
  refine Option.bind_eq_some_iff.2 ⟨_, take?_append_of_length _ _ List.length_replicate, ?_⟩
  refine Option.bind_eq_some_iff.2 ⟨_, take?_append_of_length magic _ rfl, ?_⟩
  refine Option.bind_eq_some_iff.2 ⟨_, take?_append_of_length tail _ htail, ?_⟩
  refine Option.bind_eq_some_iff.2 ⟨_, take?_append_of_length r.data _ rfl, ?_⟩
  refine Option.bind_eq_some_iff.2 ⟨_, take?_append_of_length (padding r.data.length) rest rfl, ?_⟩
  rw [hname]
  rfl

theorem length_encode_pos (h : r.Valid) : 0 < r.encode.length := by
  have hheader := length_header h
  have : blockSize = 512 := rfl
  simp only [Record.encode, List.length_append]
  omega

theorem readRecords_encode (h : ∀ r ∈ rs, r.Valid) (sofar : List Entry) :
    readRecords sofar (rs.flatMap Record.encode ++ trailer) =
      some ((rs.map Record.read).reverse ++ sofar) := by
  induction rs generalizing sofar with
  | nil =>
    rw [readRecords]
    simp
  | cons r rs ih =>
    obtain ⟨hvalid, hrest⟩ := List.forall_mem_cons.1 h
    have hpos := length_encode_pos hvalid
    have hmore : r.encode ++ (rs.flatMap Record.encode ++ trailer) ≠ trailer := by
      intro heq
      have hlength := congrArg List.length heq
      simp only [List.length_append] at hlength
      omega
    rw [List.flatMap_cons, List.append_assoc, readRecords, if_neg hmore, readRecord?_encode hvalid]
    simp only
    rw [dif_pos (by simp only [List.length_append]; omega), ih hrest]
    simp

/-! ## Items -/

theorem wholeCharacters_prefix (bs : Bytes) : wholeCharacters bs <+: bs := by
  unfold wholeCharacters
  split
  · exact List.prefix_refl bs
  · generalize hfound : List.find? _ _ = found
    cases found with
    | none => exact List.nil_prefix
    | some front =>
      obtain ⟨n, _, rfl⟩ := List.mem_map.1 (List.mem_of_find?_eq_some hfound)
      exact List.take_prefix _ _

/-- A header holds a part of the name that fits. -/
theorem headerName_prefix (name : Bytes) :
    headerName name <+: name ∧ (headerName name).length ≤ nameLimit := by
  unfold headerName
  split
  · next hshort => exact ⟨List.prefix_refl name, hshort⟩
  · have hfront := wholeCharacters_prefix (name.take nameLimit)
    have hlength : (wholeCharacters (name.take nameLimit)).length ≤ nameLimit :=
      Nat.le_trans hfront.length_le (List.length_take_le _ _)
    have hname := hfront.trans (List.take_prefix nameLimit name)
    simp only
    split
    · exact ⟨(List.take_prefix _ _).trans hname,
        Nat.le_trans (List.take_prefix _ _).length_le hlength⟩
    · exact ⟨hname, hlength⟩

/-- An item whose name has no NUL and whose sizes can be stated. -/
structure Fits (i : Item) : Prop where
  text : 0 ∉ Text.ofString i.name
  name : (Text.ofString i.name).length < maxSize
  size : (itemRecord i).data.length ≤ maxSize

variable {i : Item} {items : List Item}

theorem valid_itemRecord (h : Fits i) : (itemRecord i).Valid := by
  obtain ⟨hbegins, hlength⟩ := headerName_prefix (Text.ofString i.name)
  have htext : 0 ∉ headerName (Text.ofString i.name) := fun hnul => h.text (hbegins.subset hnul)
  have hsize := h.size
  unfold itemRecord at hsize ⊢
  split at hsize
  · exact ⟨hlength, htext, by simp only; omega, hsize, by simp only; decide⟩
  · exact ⟨hlength, htext, by simp only; split <;> omega, hsize, by simp only; decide⟩

theorem valid_longNameRecord (h : Fits i) : (longNameRecord (Text.ofString i.name)).Valid where
  name := by
    have hlink : (Text.ofString "././@LongLink").length ≤ nameLimit := by decide
    exact hlink
  text := by
    have hlink : 0 ∉ Text.ofString "././@LongLink" := by decide
    exact hlink
  mode := by
    simp only [longNameRecord]
    omega
  size := by
    have := h.name
    simp only [longNameRecord, List.length_append, List.length_singleton]
    omega
  time := Nat.zero_le _

theorem kind_itemRecord (i : Item) : (itemRecord i).kind ≠ .longName := by
  unfold itemRecord
  split <;> simp

theorem named_cons {e : Entry} (h : e.kind ≠ .longName) (es : List Entry) :
    named (e :: es) = (e.name, e) :: named es := by
  cases es <;> simp [named, h]

theorem named_long {e : Entry} (h : e.kind = .longName) (e' : Entry) (es : List Entry) :
    named (e :: e' :: es) = (untilPadding e.data, e') :: named es := by
  simp [named, h]

/-- Every item is found under its whole name. -/
theorem named_records (h : ∀ i ∈ items, Fits i) :
    named ((items.flatMap records).map Record.read) =
      items.map fun i => (Text.ofString i.name, (itemRecord i).read) := by
  induction items with
  | nil => rfl
  | cons i items ih =>
    obtain ⟨hfits, hrest⟩ := List.forall_mem_cons.1 h
    have hkind : (itemRecord i).read.kind ≠ .longName := kind_itemRecord i
    rw [List.flatMap_cons, List.map_append, List.map_cons]
    by_cases hshort : (Text.ofString i.name).length ≤ nameLimit
    · have hname : (itemRecord i).read.name = Text.ofString i.name := by
        show (itemRecord i).name = _
        unfold itemRecord
        split <;> simp [headerName, hshort]
      simp only [records, if_pos hshort, List.map_cons, List.map_nil, List.cons_append, List.nil_append]
      rw [named_cons hkind, ih hrest, hname]
    · have hlong : (longNameRecord (Text.ofString i.name)).read.kind = .longName := rfl
      have hname : untilPadding (longNameRecord (Text.ofString i.name)).read.data =
          Text.ofString i.name := untilPadding_append hfits.text 1
      simp only [records, if_neg hshort, List.map_cons, List.map_nil, List.cons_append, List.nil_append]
      rw [named_long hlong, ih hrest, hname]

theorem decode?_encode (h : ∀ i ∈ items, Fits i) :
    decode? (encode items) = some ((items.flatMap records).map Record.read) := by
  have hencode : encode items = (items.flatMap records).flatMap Record.encode ++ trailer := by
    simp only [encode, List.flatMap_assoc]
    rfl
  have hvalid : ∀ r ∈ items.flatMap records, r.Valid := by
    intro r hr
    obtain ⟨i, hi, hr⟩ := List.mem_flatMap.1 hr
    simp only [records] at hr
    split at hr
    · rw [List.mem_singleton.1 hr]
      exact valid_itemRecord (h i hi)
    · rcases List.mem_cons.1 hr with rfl | hr
      · exact valid_longNameRecord (h i hi)
      · rw [List.mem_singleton.1 hr]
        exact valid_itemRecord (h i hi)
  rw [decode?, hencode, readRecords_encode hvalid]
  simp

end ReleaseBundle.Tar
