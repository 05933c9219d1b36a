import ReleaseBundle.Archive.Item
import ReleaseBundle.Archive.Deflate
import ReleaseBundle.Digest.Crc32

/-!
# Zip files

A zip file is a sequence of local records (header, name, packed contents), then a directory with one
record per member, then an end record that says where the directory is. Members are written one after
the other, so a writer only has to remember how far it is and the directory records it owes.

Nothing in a zip file depends on when or where it is written: every member has the date 1980-01-01 and
the permission bits of a plain file or directory, and names are marked as UTF-8 exactly when they are
not ASCII. Counts and offsets that do not fit the classic fields go to the 64-bit records.
-/

namespace ReleaseBundle.Zip

open Bytes (field? littleEndian number? take?)

def localSignature : Nat := 0x04034b50
def centralSignature : Nat := 0x02014b50
def endSignature : Nat := 0x06054b50
def wideEndSignature : Nat := 0x06064b50
def wideLocatorSignature : Nat := 0x07064b50

/-- The version of the format that members need. -/
def version : Nat := 20

/-- The system whose permission bits the directory records, as the high byte of a version. -/
def unixSystem : Nat := 3 * 256

/-- The date 1980-01-01. -/
def date : Nat := 33

/-- The largest value of a classic 16-bit field. -/
def max16 : Nat := 0xFFFF

/-- The largest value of a classic 32-bit field. -/
def max32 : Nat := 0xFFFFFFFF

/-- A member as it is stored. -/
structure Member where
  name : Bytes
  flags : Nat
  method : Nat
  crc : Nat
  size : Nat
  packed : Bytes
  mode : Nat
  deriving DecidableEq

/-- The flag that a name is UTF-8, which ASCII names do not need. -/
def nameFlags (name : Bytes) : Nat := if name.all (· < 0x80) then 0 else 0x800

/-- How an item is stored: directories end in a slash, and files are deflated even when empty. -/
def Member.ofItem (i : Item) : Member :=
  match i.payload with
  | .directory =>
    let name := Text.ofString i.name ++ [0x2F]
    ⟨name, nameFlags name, 0, 0, 0, [], 0o40755⟩
  | .file content _ =>
    let name := Text.ofString i.name
    ⟨name, nameFlags name, 8, Crc32.value content, content.length, Deflate.deflate content, 0o100644⟩

/-- The fields that the local and the directory record of a member share. -/
def Member.shared (m : Member) (extraLength : Nat) : Bytes :=
  littleEndian 2 version ++ littleEndian 2 m.flags ++ littleEndian 2 m.method ++ littleEndian 2 0 ++
    littleEndian 2 date ++ littleEndian 4 m.crc ++ littleEndian 4 m.packed.length ++
    littleEndian 4 m.size ++ littleEndian 2 m.name.length ++ littleEndian 2 extraLength

/-- The local record of a member. -/
def Member.localRecord (m : Member) : Bytes :=
  littleEndian 4 localSignature ++ m.shared 0 ++ m.name ++ m.packed

/-- The extra field for an offset that does not fit the classic field. -/
def offsetExtra (offset : Nat) : Bytes :=
  if offset ≤ max32 then [] else littleEndian 2 1 ++ littleEndian 2 8 ++ littleEndian 8 offset

/-- The directory record of a member whose local record starts at `offset`. -/
def Member.directoryRecord (m : Member) (offset : Nat) : Bytes :=
  littleEndian 4 centralSignature ++ littleEndian 2 (unixSystem + version) ++
    m.shared (offsetExtra offset).length ++ littleEndian 2 0 ++ littleEndian 2 0 ++
    littleEndian 2 0 ++ littleEndian 4 (m.mode * 65536) ++ littleEndian 4 (min offset max32) ++
    m.name ++ offsetExtra offset

/-- What a writer remembers: how many bytes are written, the directory so far, and its length. -/
structure Writer where
  offset : Nat
  directory : Bytes
  count : Nat
  deriving DecidableEq

namespace Writer

def start : Writer := ⟨0, [], 0⟩

/-- The writer after a member. -/
def add (w : Writer) (m : Member) : Writer :=
  ⟨w.offset + m.localRecord.length, w.directory ++ m.directoryRecord w.offset, w.count + 1⟩

/-- Whether the classic end record cannot hold the counts and offsets. -/
def isWide (w : Writer) : Bool :=
  max16 < w.count || max32 < w.directory.length || max32 < w.offset

/-- The 64-bit end record and the record that says where it is. -/
def wideEnd (w : Writer) : Bytes :=
  littleEndian 4 wideEndSignature ++ littleEndian 8 44 ++ littleEndian 2 version ++
    littleEndian 2 version ++ littleEndian 4 0 ++ littleEndian 4 0 ++ littleEndian 8 w.count ++
    littleEndian 8 w.count ++ littleEndian 8 w.directory.length ++ littleEndian 8 w.offset ++
    littleEndian 4 wideLocatorSignature ++ littleEndian 4 0 ++
    littleEndian 8 (w.offset + w.directory.length) ++ littleEndian 4 1

/-- The classic end record, with an empty comment. -/
def classicEnd (w : Writer) : Bytes :=
  littleEndian 4 endSignature ++ littleEndian 2 0 ++ littleEndian 2 0 ++
    littleEndian 2 (min w.count max16) ++ littleEndian 2 (min w.count max16) ++
    littleEndian 4 (min w.directory.length max32) ++ littleEndian 4 (min w.offset max32) ++
    littleEndian 2 0

/-- What follows the last member. -/
def finish (w : Writer) : Bytes :=
  w.directory ++ (if w.isWide then w.wideEnd else []) ++ w.classicEnd

end Writer

/-- The zip file of a list of members. -/
def encode (ms : List Member) : Bytes :=
  ms.flatMap Member.localRecord ++ (ms.foldl Writer.add .start).finish

/-! ## Reading -/

/-- A member as a reader sees it. -/
structure Entry where
  name : Bytes
  flags : Nat
  method : Nat
  time : Nat
  date : Nat
  extraLength : Nat
  mode : Nat
  crc : Nat
  content : Bytes
  deriving DecidableEq

/-- The shared fields of a record. -/
structure Shared where
  version : Nat
  flags : Nat
  method : Nat
  time : Nat
  date : Nat
  crc : Nat
  packedLength : Nat
  size : Nat
  nameLength : Nat
  extraLength : Nat
  deriving DecidableEq

def readShared? (bs : Bytes) : Option (Shared × Bytes) := do
  let (version, bs) ← number? 2 bs
  let (flags, bs) ← number? 2 bs
  let (method, bs) ← number? 2 bs
  let (time, bs) ← number? 2 bs
  let (date, bs) ← number? 2 bs
  let (crc, bs) ← number? 4 bs
  let (packedLength, bs) ← number? 4 bs
  let (size, bs) ← number? 4 bs
  let (nameLength, bs) ← number? 2 bs
  let (extraLength, bs) ← number? 2 bs
  return (⟨version, flags, method, time, date, crc, packedLength, size, nameLength, extraLength⟩, bs)

/-- Contents that were stored by the given method. -/
def unpack? (method : Nat) (packed : Bytes) : Option Bytes :=
  if method = 0 then some packed else if method = 8 then Deflate.inflate? packed else none

/-- A local record as a reader sees it. -/
structure Local where
  /-- Where the record starts in the file. -/
  offset : Nat
  shared : Shared
  name : Bytes
  content : Bytes

/-- Reads a local record, after its signature. -/
def readLocal? (offset : Nat) (bs : Bytes) : Option (Local × Bytes) := do
  let (s, bs) ← readShared? bs
  let (name, bs) ← take? s.nameLength bs
  let (_, bs) ← take? s.extraLength bs
  let (packed, bs) ← take? s.packedLength bs
  let content ← unpack? s.method packed
  guard (content.length = s.size ∧ Crc32.byDivision content = s.crc)
  return (⟨offset, s, name, content⟩, bs)

/-- Whether a directory record states an offset: in the classic field, or in the extra field if the classic
one is full. -/
def statesOffset (field : Nat) (extra : Bytes) (offset : Nat) : Bool :=
  if extra = [] then field == offset
  else field == max32 && extra == littleEndian 2 1 ++ littleEndian 2 8 ++ littleEndian 8 offset

/-- Reads the directory record of a local record, after its signature. It must agree with the local record in
all that both state, and say where the local record is. -/
def readDirectory? (l : Local) (bs : Bytes) : Option (Entry × Bytes) := do
  let (_, bs) ← number? 2 bs
  let (s, bs) ← readShared? bs
  let (commentLength, bs) ← number? 2 bs
  let bs ← field? 2 0 bs
  let (_, bs) ← number? 2 bs
  let (attributes, bs) ← number? 4 bs
  let (offset, bs) ← number? 4 bs
  let (name, bs) ← take? s.nameLength bs
  let (extra, bs) ← take? s.extraLength bs
  let (_, bs) ← take? commentLength bs
  guard (name = l.name ∧ { s with extraLength := l.shared.extraLength } = l.shared ∧
    statesOffset offset extra l.offset = true)
  return (⟨name, s.flags, s.method, s.time, s.date, s.extraLength, attributes / 65536, s.crc,
    l.content⟩, bs)

/-- Reads local records as long as they come, the first of which starts at `offset`; answers them with the last
first. -/
def readLocals (sofar : List Local) (offset : Nat) (bs : Bytes) : Option (List Local × Bytes) :=
  match number? 4 bs with
  | some (signature, rest) =>
    if signature = localSignature then
      match readLocal? offset rest with
      | some (l, next) =>
        if _h : next.length < bs.length then
          readLocals (l :: sofar) (offset + (bs.length - next.length)) next
        else none
      | none => none
    else some (sofar, bs)
  | none => none
termination_by bs.length

/-- Reads one directory record for each local record. -/
def readEntries : List Local → Bytes → Option (List Entry × Bytes)
  | [], bs => some ([], bs)
  | l :: ls, bs => do
    let bs ← field? 4 centralSignature bs
    let (entry, bs) ← readDirectory? l bs
    let (entries, bs) ← readEntries ls bs
    return (entry :: entries, bs)

/-- What the end records say about a directory. -/
structure Directory where
  count : Nat
  length : Nat
  offset : Nat

/-- Skips a field of the classic end record. It is the number itself, or full if there is a 64-bit record. -/
def classicField? (wide : Bool) (width value : Nat) (bs : Bytes) : Option Bytes := do
  let (field, bs) ← number? width bs
  guard (field = value ∨ wide = true ∧ field = Bytes.capacity width - 1)
  return bs

/-- Skips the classic end record. -/
def readClassicEnd? (wide : Bool) (d : Directory) (bs : Bytes) : Option Bytes := do
  let bs ← field? 4 endSignature bs
  let bs ← field? 2 0 bs
  let bs ← field? 2 0 bs
  let bs ← classicField? wide 2 d.count bs
  let bs ← classicField? wide 2 d.count bs
  let bs ← classicField? wide 4 d.length bs
  let bs ← classicField? wide 4 d.offset bs
  field? 2 0 bs

/-- Skips the 64-bit end record, after its signature, and the record that says where it is. -/
def readWideEnd? (d : Directory) (bs : Bytes) : Option Bytes := do
  let bs ← field? 8 44 bs
  let (_, bs) ← take? 4 bs
  let bs ← field? 4 0 bs
  let bs ← field? 4 0 bs
  let bs ← field? 8 d.count bs
  let bs ← field? 8 d.count bs
  let bs ← field? 8 d.length bs
  let bs ← field? 8 d.offset bs
  let bs ← field? 4 wideLocatorSignature bs
  let bs ← field? 4 0 bs
  let bs ← field? 8 (d.offset + d.length) bs
  field? 4 1 bs

/-- Skips the end records of a directory. -/
def readEnd? (d : Directory) (bs : Bytes) : Option Bytes :=
  match field? 4 wideEndSignature bs with
  | some bs => do readClassicEnd? true d (← readWideEnd? d bs)
  | none => readClassicEnd? false d bs

/-- The members of a zip file, in the order of its directory. The file ends with the end records. -/
def decode? (bs : Bytes) : Option (List Entry) := do
  let (locals, behind) ← readLocals [] 0 bs
  let (entries, rest) ← readEntries locals.reverse behind
  guard (readEnd? ⟨locals.length, behind.length - rest.length, bs.length - behind.length⟩ rest = some [])
  return entries

end ReleaseBundle.Zip
