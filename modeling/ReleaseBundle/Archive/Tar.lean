import ReleaseBundle.Archive.Item
import ReleaseBundle.Path

/-!
# Tar files

A tar file is a sequence of records, each a header block of 512 bytes and the data filled up to whole
blocks, and two empty blocks at the end. A header keeps the name of its record in a field of 100
bytes. An item with a longer name takes two records: the first has the name as its data, and the
header of the second holds as much of the name as fits.

Owners and times are fixed and of the permission bits only the right to execute is kept, so a tar file
depends on nothing but its items.
-/

namespace ReleaseBundle.Tar

open Bytes (take?)

/-- The size of a block. -/
def blockSize : Nat := 512

/-- How many bytes of a name fit into a header. -/
def nameLimit : Nat := 100

/-- The largest number of bytes that a record can state. -/
def maxSize : Nat := 0xFFFFFFFFFFFFFFFF

/-- The modification time of every item: 2006-07-24, because some readers distrust the time zero. -/
def itemTime : Nat := 1153704088

/-- What a record stands for. -/
inductive Kind where
  | file
  | directory
  /-- The data is the name of the next record. -/
  | longName
  deriving DecidableEq

/-- The byte that marks the kind in a header. -/
def Kind.flag : Kind → UInt8
  | file => 0x30
  | directory => 0x35
  | longName => 0x4C

def Kind.ofFlag? (b : UInt8) : Option Kind :=
  [file, directory, longName].find? fun k => k.flag == b

/-- A header with the data that follows it. -/
structure Record where
  name : Bytes
  mode : Nat
  time : Nat
  kind : Kind
  data : Bytes
  deriving DecidableEq

/-! ## Fields -/

/-- Octal digits of a number, with zeros in front. -/
def octal : Nat → Nat → Bytes
  | 0, _ => []
  | width + 1, value => octal width (value / 8) ++ [UInt8.ofNat (0x30 + value % 8)]

/-- A field of the given width: octal digits and a NUL. -/
def octalField (width value : Nat) : Bytes := octal (width - 1) value ++ [0]

/-- A field of twelve bytes. A number that needs more than eleven octal digits is written in binary,
marked by the highest bit of the field. -/
def wideField (value : Nat) : Bytes :=
  if value < 0o100000000000 then octalField 12 value
  else [0x80, 0, 0, 0] ++ (Bytes.littleEndian 8 value).reverse

/-- Text in a field of the given width, filled up with NULs. -/
def textField (width : Nat) (text : Bytes) : Bytes :=
  text ++ List.replicate (width - text.length) 0

/-- The mark of the format, with its version. -/
def magic : Bytes := [0x75, 0x73, 0x74, 0x61, 0x72, 0x20, 0x20, 0]

/-- What fills data of the given length up to whole blocks. -/
def padding (length : Nat) : Bytes :=
  List.replicate ((blockSize - length % blockSize) % blockSize) 0

namespace Record

/-- The device numbers in a header; they are absent from the header of a long name. -/
def devices (r : Record) : Bytes :=
  if r.kind = .longName then List.replicate 16 0 else octalField 8 0 ++ octalField 8 0

/-- The fields before the checksum. -/
def front (r : Record) : Bytes :=
  textField nameLimit r.name ++ octalField 8 r.mode ++ octalField 8 0 ++ octalField 8 0 ++
    wideField r.data.length ++ wideField r.time

/-- The fields after the checksum. -/
def back (r : Record) : Bytes :=
  [r.kind.flag] ++ List.replicate 100 0 ++ magic ++ List.replicate 64 0 ++ r.devices ++
    List.replicate 167 0

/-- The sum of all bytes of the header, with blanks for the checksum itself. -/
def checksum (r : Record) : Nat :=
  (r.front ++ List.replicate 8 0x20 ++ r.back).foldl (fun (n : Nat) (b : UInt8) => n + b.toNat) 0

/-- The header block. -/
def header (r : Record) : Bytes := r.front ++ octalField 8 r.checksum ++ r.back

/-- The header, the data and what fills it up. -/
def encode (r : Record) : Bytes := r.header ++ r.data ++ padding r.data.length

end Record

/-! ## From items to records -/

/-- The longest start of a byte string that is whole UTF-8 characters, if its first malformed
sequence is at the end. -/
def wholeCharacters (bs : Bytes) : Bytes :=
  match Text.decode? bs with
  | some _ => bs
  | none =>
    ([1, 2, 3].map fun n => bs.take (bs.length - n)).find? (fun front => (Text.decode? front).isSome)
      |>.getD []

/-- The part of a name that a header holds. A last part that is cut down to `.` is left out together
with its slash. -/
def headerName (name : Bytes) : Bytes :=
  if name.length ≤ nameLimit then name
  else
    let front := wholeCharacters (name.take nameLimit)
    if [Path.slash, Path.dot].isSuffixOf front then front.take (front.length - 2) else front

/-- The record that carries a name too long for a header: the name and a NUL. -/
def longNameRecord (name : Bytes) : Record :=
  ⟨Text.ofString "././@LongLink", 0o644, 0, .longName, name ++ [0]⟩

/-- The record of an item. -/
def itemRecord (i : Item) : Record :=
  let name := headerName (Text.ofString i.name)
  match i.payload with
  | .directory => ⟨name, 0o755, itemTime, .directory, []⟩
  | .file content executable =>
    ⟨name, if executable then 0o755 else 0o644, itemTime, .file, content⟩

/-- The records of an item. -/
def records (i : Item) : List Record :=
  let name := Text.ofString i.name
  if name.length ≤ nameLimit then [itemRecord i] else [longNameRecord name, itemRecord i]

/-- The two empty blocks at the end. -/
def trailer : Bytes := List.replicate (2 * blockSize) 0

/-- The bytes of an item. -/
def encodeItem (i : Item) : Bytes := (records i).flatMap Record.encode

/-- The tar file of a list of items. -/
def encode (items : List Item) : Bytes := items.flatMap encodeItem ++ trailer

/-! ## Reading -/

/-- A record as a reader sees it. -/
structure Entry where
  name : Bytes
  mode : Nat
  owner : Nat
  group : Nat
  time : Nat
  kind : Kind
  magic : Bytes
  data : Bytes
  deriving DecidableEq

/-- Reads octal digits up to the first NUL. -/
def readOctal (sofar : Nat) : Bytes → Option Nat
  | [] => some sofar
  | b :: bs =>
    if b = 0 then some sofar
    else if 0x30 ≤ b ∧ b < 0x38 then readOctal (8 * sofar + (b.toNat - 0x30)) bs
    else none

/-- Splits off a number field of the given width. -/
def number? (width : Nat) (bs : Bytes) : Option (Nat × Bytes) := do
  let (field, bs) ← take? width bs
  match field with
  | 0x80 :: digits => return (Bytes.ofLittleEndian digits.reverse, bs)
  | _ => return (← readOctal 0 field, bs)

/-- Text without the NULs at its end. -/
def untilPadding (bs : Bytes) : Bytes := (bs.reverse.dropWhile (· == 0)).reverse

/-- The sum of bytes. -/
def total : Bytes → Nat
  | [] => 0
  | b :: bs => b.toNat + total bs

/-- The sum of all bytes of a header block, with blanks in the place of the checksum. -/
def blockSum (block : Bytes) : Nat := total (block.take 148) + 8 * 0x20 + total (block.drop 156)

/-- Reads a record whose header has the right checksum. -/
def readRecord? (bs : Bytes) : Option (Entry × Bytes) := do
  let (block, _) ← take? blockSize bs
  let (name, bs) ← take? nameLimit bs
  let (mode, bs) ← number? 8 bs
  let (owner, bs) ← number? 8 bs
  let (group, bs) ← number? 8 bs
  let (size, bs) ← number? 12 bs
  let (time, bs) ← number? 12 bs
  let (checksum, bs) ← number? 8 bs
  guard (checksum = blockSum block)
  let (flag, bs) ← take? 1 bs
  let kind ← flag.head? >>= Kind.ofFlag?
  let (_, bs) ← take? 100 bs
  let (magic, bs) ← take? 8 bs
  let (_, bs) ← take? 247 bs
  let (data, bs) ← take? size bs
  let (_, bs) ← take? (padding size).length bs
  return (⟨untilPadding name, mode, owner, group, time, kind, magic, data⟩, bs)

/-- Reads records up to the two empty blocks; answers them with the last first. -/
def readRecords (sofar : List Entry) (bs : Bytes) : Option (List Entry) :=
  if bs = trailer then some sofar
  else
    match readRecord? bs with
    | some (entry, next) =>
      if _h : next.length < bs.length then readRecords (entry :: sofar) next else none
    | none => none
termination_by bs.length

/-- The records of a tar file. -/
def decode? (bs : Bytes) : Option (List Entry) := (readRecords [] bs).map List.reverse

/-- Gives every item its whole name: the data of a long-name record names the record after it. -/
def named : List Entry → List (Bytes × Entry)
  | [] => []
  | [e] => [(e.name, e)]
  | e :: e' :: es =>
    if e.kind = .longName then (untilPadding e.data, e') :: named es else (e.name, e) :: named (e' :: es)

end ReleaseBundle.Tar
