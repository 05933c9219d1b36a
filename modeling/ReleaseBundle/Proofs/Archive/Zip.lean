import ReleaseBundle.Archive.Zip
import ReleaseBundle.Proofs.Archive.Deflate
import Mathlib.Data.Option.Basic

/-!
# Zip files can be read back

A reader meets the records in the order in which they were written: the local records, from which it
takes the contents, then the directory, which has to agree with them, then the end records, which have to
say how long the directory is and where it starts. What it answers is what the members are, as long as
their numbers fit the fields that hold them and their contents are what they were packed from. How many
members there are, and how far they reach, is not bounded.
-/

namespace ReleaseBundle.Zip

open Bytes (field? field?_littleEndian littleEndian number? take? take?_append_of_length)

/-- A number is read as it was written if it fits its field. -/
theorem number?_two {value : Nat} (h : value ≤ max16) (rest : Bytes) :
    number? 2 (littleEndian 2 value ++ rest) = some (value, rest) :=
  Bytes.number?_littleEndian 2 value (Nat.lt_succ_of_le h) rest

theorem number?_four {value : Nat} (h : value ≤ max32) (rest : Bytes) :
    number? 4 (littleEndian 4 value ++ rest) = some (value, rest) :=
  Bytes.number?_littleEndian 4 value (Nat.lt_succ_of_le h) rest

/-- The member of a content whose numbers fit their fields. -/
structure Member.Valid (m : Member) (content : Bytes) : Prop where
  name : m.name.length ≤ max16
  flags : m.flags ≤ max16
  method : m.method ≤ max16
  mode : m.mode ≤ max16
  packed : m.packed.length ≤ max32
  size : m.size = content.length
  fits : m.size ≤ max32
  crc : m.crc = Crc32.value content
  content : unpack? m.method m.packed = some content

/-- What a reader makes of a member; only the length of the extra field depends on where it is. -/
def Member.read (m : Member) (content : Bytes) (offset : Nat) : Entry :=
  ⟨m.name, m.flags, m.method, 0, date, (offsetExtra offset).length, m.mode, m.crc, content⟩

variable {m : Member} {content : Bytes} {ms : List (Member × Bytes)}

theorem crc_le (content : Bytes) : Crc32.value content ≤ max32 :=
  Nat.le_of_lt_succ (Crc32.checksum content).toNat_lt

theorem length_offsetExtra (offset : Nat) : (offsetExtra offset).length ≤ max16 := by
  unfold offsetExtra
  split
  · simp
  · simp [max16]

/-- What the local and the directory record of a member both state. -/
def Member.fields (m : Member) (extraLength : Nat) : Shared :=
  ⟨version, m.flags, m.method, 0, date, m.crc, m.packed.length, m.size, m.name.length, extraLength⟩

/-- What a reader makes of the local record of a member. -/
def Member.atOffset (m : Member) (content : Bytes) (offset : Nat) : Local :=
  ⟨offset, m.fields 0, m.name, content⟩

theorem readShared?_shared (h : m.Valid content) {extra : Nat} (hextra : extra ≤ max16) (rest : Bytes) :
    readShared? (m.shared extra ++ rest) = some (m.fields extra, rest) := by
  have hcrc : m.crc ≤ max32 := h.crc ▸ crc_le content
  simp only [readShared?, Member.shared, List.append_assoc, Option.bind_eq_bind, Option.pure_def,
    number?_two (show version ≤ max16 by decide), number?_two h.flags, number?_two h.method,
    number?_two (show 0 ≤ max16 by decide), number?_two (show date ≤ max16 by decide),
    number?_four hcrc, number?_four h.packed, number?_four h.fits, number?_two h.name,
    number?_two hextra, Option.bind_some, Member.fields]

/-! ## Local records -/

theorem readLocal?_localRecord (h : m.Valid content) (offset : Nat) (rest : Bytes) :
    ∃ body, m.localRecord ++ rest = littleEndian 4 localSignature ++ body ∧
      readLocal? offset body = some (m.atOffset content offset, rest) := by
  refine ⟨m.shared 0 ++ (m.name ++ (m.packed ++ rest)), by simp [Member.localRecord], ?_⟩
  have hnothing : take? 0 (m.packed ++ rest) = some ([], m.packed ++ rest) :=
    take?_append_of_length [] _ rfl
  have hcheck : content.length = m.size ∧ Crc32.byDivision content = m.crc :=
    ⟨h.size.symm, (Crc32.byDivision_eq content).trans h.crc.symm⟩
  simp only [readLocal?, readShared?_shared h (Nat.zero_le _), Option.bind_eq_bind, Option.bind_some,
    Member.fields, take?_append_of_length m.name _ rfl, hnothing, take?_append_of_length m.packed rest rfl,
    h.content, hcheck, guard]
  simp [Member.atOffset, Member.fields]

/-- Reading stops in front of anything that begins with another signature. -/
theorem readLocals_stop {signature : Nat} (hfits : signature ≤ max32) (hother : signature ≠ localSignature)
    (sofar : List Local) (offset : Nat) (rest : Bytes) :
    readLocals sofar offset (littleEndian 4 signature ++ rest) =
      some (sofar, littleEndian 4 signature ++ rest) := by
  rw [readLocals, number?_four hfits]
  simp only [if_neg hother]

theorem length_localRecord_pos (m : Member) : 0 < m.localRecord.length := by
  simp only [Member.localRecord, List.length_append, Bytes.length_littleEndian]
  omega

/-- The local records of members that are written from `offset` on. -/
def localsFrom (offset : Nat) : List (Member × Bytes) → List Local
  | [] => []
  | p :: ms => p.1.atOffset p.2 offset :: localsFrom (offset + p.1.localRecord.length) ms

theorem length_localsFrom (offset : Nat) (ms : List (Member × Bytes)) :
    (localsFrom offset ms).length = ms.length := by
  induction ms generalizing offset with
  | nil => rfl
  | cons p ms ih => simp [localsFrom, ih]

/-- The local records come out last first. -/
theorem readLocals_localRecords (h : ∀ p ∈ ms, p.1.Valid p.2) {signature : Nat} (hfits : signature ≤ max32)
    (hother : signature ≠ localSignature) (sofar : List Local) (offset : Nat) (rest : Bytes) :
    readLocals sofar offset ((ms.map Prod.fst).flatMap Member.localRecord ++
        (littleEndian 4 signature ++ rest)) =
      some ((localsFrom offset ms).reverse ++ sofar, littleEndian 4 signature ++ rest) := by
  induction ms generalizing sofar offset with
  | nil => exact readLocals_stop hfits hother sofar offset rest
  | cons p ms ih =>
    obtain ⟨hvalid, hrest⟩ := List.forall_mem_cons.1 h
    rw [List.map_cons, List.flatMap_cons, List.append_assoc]
    obtain ⟨body, hbody, hread⟩ := readLocal?_localRecord hvalid offset
      ((ms.map Prod.fst).flatMap Member.localRecord ++ (littleEndian 4 signature ++ rest))
    have hshorter := length_localRecord_pos p.1
    have hlength := congrArg List.length hbody
    rw [List.length_append] at hlength
    rw [hbody, readLocals, number?_four (by decide)]
    simp only [hread, if_true]
    rw [dif_pos (by omega), ← hlength, Nat.add_sub_cancel, ih hrest]
    simp [localsFrom]

/-! ## The directory -/

/-- The directory of members that are written from `offset` on. -/
def directoryFrom (offset : Nat) : List Member → Bytes
  | [] => []
  | m :: ms => m.directoryRecord offset ++ directoryFrom (offset + m.localRecord.length) ms

theorem directory_foldl (w : Writer) (ms : List Member) :
    (ms.foldl Writer.add w).directory = w.directory ++ directoryFrom w.offset ms := by
  induction ms generalizing w with
  | nil => simp [directoryFrom]
  | cons m ms ih => simp [ih, Writer.add, directoryFrom]

/-- What a reader makes of members that were written from `offset` on. -/
def readFrom (offset : Nat) : List (Member × Bytes) → List Entry
  | [] => []
  | p :: ms => p.1.read p.2 offset :: readFrom (offset + p.1.localRecord.length) ms

theorem statesOffset_offsetExtra (offset : Nat) :
    statesOffset (min offset max32) (offsetExtra offset) offset = true := by
  unfold statesOffset offsetExtra
  split
  · next hsmall => simp [Nat.min_eq_left hsmall]
  · next hlarge =>
    have hsome : littleEndian 2 1 ++ littleEndian 2 8 ++ littleEndian 8 offset ≠ [] := by simp [littleEndian]
    rw [if_neg hsome, Nat.min_eq_right (Nat.le_of_not_le hlarge)]
    simp

theorem readDirectory?_directoryRecord (h : m.Valid content) (offset : Nat) (rest : Bytes) :
    ∃ body, m.directoryRecord offset ++ rest = littleEndian 4 centralSignature ++ body ∧
      readDirectory? (m.atOffset content offset) body = some (m.read content offset, rest) := by
  have hmode : m.mode * 65536 ≤ max32 := by
    have hbound : m.mode ≤ 65535 := h.mode
    have : max32 = 4294967295 := rfl
    omega
  have hnothing : take? 0 rest = some ([], rest) := take?_append_of_length [] _ rfl
  refine ⟨_, by simp only [Member.directoryRecord, List.append_assoc]; rfl, ?_⟩
  simp only [readDirectory?, readShared?_shared h (length_offsetExtra offset), Option.bind_eq_bind,
    Option.bind_some, number?_two (show unixSystem + version ≤ max16 by decide),
    number?_two (show 0 ≤ max16 by decide), field?_littleEndian, number?_four hmode,
    number?_four (Nat.min_le_right offset max32), Member.fields, take?_append_of_length m.name _ rfl,
    take?_append_of_length (offsetExtra offset) rest rfl, hnothing, Option.pure_def, Member.read,
    Member.atOffset, statesOffset_offsetExtra, guard]
  rw [Nat.mul_div_cancel _ (by decide)]
  simp

theorem readEntries_directoryFrom (h : ∀ p ∈ ms, p.1.Valid p.2) (offset : Nat) (rest : Bytes) :
    readEntries (localsFrom offset ms) (directoryFrom offset (ms.map Prod.fst) ++ rest) =
      some (readFrom offset ms, rest) := by
  induction ms generalizing offset with
  | nil => rfl
  | cons p ms ih =>
    obtain ⟨hvalid, hrest⟩ := List.forall_mem_cons.1 h
    simp only [List.map_cons, directoryFrom, List.append_assoc, localsFrom]
    obtain ⟨body, hbody, hread⟩ := readDirectory?_directoryRecord hvalid offset
      (directoryFrom (offset + p.1.localRecord.length) (ms.map Prod.fst) ++ rest)
    rw [hbody, readEntries, field?_littleEndian]
    simp [hread, ih hrest, readFrom]

/-! ## The end records -/

/-- A field of the classic end record that is too narrow is full. -/
theorem classicField?_min {wide : Bool} {width value : Nat}
    (h : wide = true ∨ value ≤ Bytes.capacity width - 1) (rest : Bytes) :
    classicField? wide width value (littleEndian width (min value (Bytes.capacity width - 1)) ++ rest) =
      some rest := by
  have hfits : min value (Bytes.capacity width - 1) < Bytes.capacity width :=
    Nat.lt_of_le_of_lt (Nat.min_le_right _ _) (Nat.sub_one_lt_of_lt (Bytes.capacity_pos width))
  have hstates : min value (Bytes.capacity width - 1) = value ∨
      wide = true ∧ min value (Bytes.capacity width - 1) = Bytes.capacity width - 1 := by
    rcases Nat.le_total value (Bytes.capacity width - 1) with hsmall | hlarge
    · exact .inl (Nat.min_eq_left hsmall)
    · rcases h with hwide | hsmall
      · exact .inr ⟨hwide, Nat.min_eq_right hlarge⟩
      · exact .inl (Nat.min_eq_left hsmall)
  generalize min value (Bytes.capacity width - 1) = field at hfits hstates
  simp [classicField?, Bytes.number?_littleEndian width field hfits, hstates, guard]

theorem classicField?_two {wide : Bool} {value : Nat} (h : wide = true ∨ value ≤ max16) (rest : Bytes) :
    classicField? wide 2 value (littleEndian 2 (min value max16) ++ rest) = some rest :=
  classicField?_min h rest

theorem classicField?_four {wide : Bool} {value : Nat} (h : wide = true ∨ value ≤ max32) (rest : Bytes) :
    classicField? wide 4 value (littleEndian 4 (min value max32) ++ rest) = some rest :=
  classicField?_min h rest

/-- What the end records of a writer say. -/
def Writer.states (w : Writer) : Directory := ⟨w.count, w.directory.length, w.offset⟩

theorem readClassicEnd?_classicEnd (w : Writer) :
    readClassicEnd? w.isWide w.states w.classicEnd = some [] := by
  have hcount : w.isWide = true ∨ w.count ≤ max16 := by
    simp only [Writer.isWide, Bool.or_eq_true, decide_eq_true_eq]
    omega
  have hlength : w.isWide = true ∨ w.directory.length ≤ max32 := by
    simp only [Writer.isWide, Bool.or_eq_true, decide_eq_true_eq]
    omega
  have hoffset : w.isWide = true ∨ w.offset ≤ max32 := by
    simp only [Writer.isWide, Bool.or_eq_true, decide_eq_true_eq]
    omega
  have hcomment := field?_littleEndian 2 0 []
  rw [List.append_nil] at hcomment
  simp only [readClassicEnd?, Writer.classicEnd, Writer.states, List.append_assoc, field?_littleEndian,
    classicField?_two hcount, classicField?_four hlength, classicField?_four hoffset, Option.bind_eq_bind,
    Option.bind_some, hcomment]

theorem readWideEnd?_wideEnd (w : Writer) (rest : Bytes) :
    ∃ body, w.wideEnd ++ rest = littleEndian 4 wideEndSignature ++ body ∧
      readWideEnd? w.states body = some rest := by
  refine ⟨_, by simp only [Writer.wideEnd, List.append_assoc]; rfl, ?_⟩
  have hversions : ∀ rest, take? 4 (littleEndian 2 version ++ (littleEndian 2 version ++ rest)) =
      some (littleEndian 2 version ++ littleEndian 2 version, rest) := by
    intro rest
    rw [← List.append_assoc]
    exact take?_append_of_length _ rest rfl
  simp only [readWideEnd?, Writer.states, field?_littleEndian, hversions, Option.bind_eq_bind, Option.bind_some]

/-- The end records of a writer are read to the end of the file. -/
theorem readEnd?_finish (w : Writer) :
    ∃ signature rest, (signature = endSignature ∨ signature = wideEndSignature) ∧
      w.finish = w.directory ++ (littleEndian 4 signature ++ rest) ∧
      readEnd? w.states (littleEndian 4 signature ++ rest) = some [] := by
  have hclassic := readClassicEnd?_classicEnd w
  cases hwide : w.isWide with
  | false =>
    obtain ⟨rest, hrest⟩ : ∃ rest, w.classicEnd = littleEndian 4 endSignature ++ rest :=
      ⟨_, by simp only [Writer.classicEnd, List.append_assoc]; rfl⟩
    have hnone : field? 4 wideEndSignature (littleEndian 4 endSignature ++ rest) = none := by
      have hother : littleEndian 4 endSignature ≠ littleEndian 4 wideEndSignature := by decide
      simp [field?, take?_append_of_length _ _ (Bytes.length_littleEndian 4 endSignature), hother]
    rw [hwide, hrest] at hclassic
    refine ⟨endSignature, rest, .inl rfl, by simp [Writer.finish, hwide, hrest], ?_⟩
    rw [readEnd?, hnone]
    exact hclassic
  | true =>
    obtain ⟨body, hbody, hread⟩ := readWideEnd?_wideEnd w w.classicEnd
    rw [hwide] at hclassic
    refine ⟨wideEndSignature, body, .inr rfl, by simp [Writer.finish, hwide, hbody], ?_⟩
    rw [readEnd?, field?_littleEndian]
    simp only [hread, Option.bind_eq_bind, Option.bind_some, hclassic]

/-! ## Whole files -/

theorem count_foldl (w : Writer) (ms : List Member) : (ms.foldl Writer.add w).count = w.count + ms.length := by
  induction ms generalizing w with
  | nil => rfl
  | cons m ms ih => simp only [List.foldl_cons, ih, Writer.add, List.length_cons]; omega

theorem offset_foldl (w : Writer) (ms : List Member) :
    (ms.foldl Writer.add w).offset = w.offset + (ms.flatMap Member.localRecord).length := by
  induction ms generalizing w with
  | nil => rfl
  | cons m ms ih => simp only [List.foldl_cons, ih, Writer.add, List.flatMap_cons, List.length_append]; omega

theorem decode?_encode (h : ∀ p ∈ ms, p.1.Valid p.2) :
    decode? (encode (ms.map Prod.fst)) = some (readFrom 0 ms) := by
  let w := (ms.map Prod.fst).foldl Writer.add .start
  obtain ⟨signature, rest, hend, hfinish, hread⟩ := readEnd?_finish w
  have hfits : signature ≤ max32 := by rcases hend with rfl | rfl <;> decide
  have hdirectory : w.directory = directoryFrom 0 (ms.map Prod.fst) := directory_foldl .start _
  have hstates : w.states = ⟨ms.length, w.directory.length,
      ((ms.map Prod.fst).flatMap Member.localRecord).length⟩ := by
    simp only [Writer.states, w, count_foldl, offset_foldl, Writer.start, Nat.zero_add, List.length_map]
  -- the local records are followed by the directory, or by the end record if there are no members
  obtain ⟨next, tail, hnext, hother, htail⟩ : ∃ next tail, next ≤ max32 ∧ next ≠ localSignature ∧
      directoryFrom 0 (ms.map Prod.fst) ++ (littleEndian 4 signature ++ rest) =
        littleEndian 4 next ++ tail := by
    cases ms with
    | nil => exact ⟨signature, rest, hfits, by rcases hend with rfl | rfl <;> decide, rfl⟩
    | cons p ms =>
      obtain ⟨body, hbody, _⟩ := readDirectory?_directoryRecord (h p List.mem_cons_self) 0
        (directoryFrom (0 + p.1.localRecord.length) (ms.map Prod.fst) ++
          (littleEndian 4 signature ++ rest))
      refine ⟨centralSignature, body, by decide, by decide, ?_⟩
      rw [List.map_cons, directoryFrom, List.append_assoc, hbody]
  have hlocals := readLocals_localRecords h hnext hother [] 0 tail
  rw [← htail, List.append_nil] at hlocals
  rw [hstates, hdirectory] at hread
  have hends : encode (ms.map Prod.fst) = (ms.map Prod.fst).flatMap Member.localRecord ++
      (directoryFrom 0 (ms.map Prod.fst) ++ (littleEndian 4 signature ++ rest)) := by
    rw [encode, ← hdirectory]
    exact congrArg _ hfinish
  rw [hends]
  simp only [decode?, hlocals, Option.bind_eq_bind, Option.bind_some, List.reverse_reverse,
    readEntries_directoryFrom h, List.length_reverse, length_localsFrom, List.length_append,
    Nat.add_sub_cancel, guard, hread, if_true, Option.pure_def]

end ReleaseBundle.Zip
