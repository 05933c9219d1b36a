import ReleaseBundle.Archive.Format
import ReleaseBundle.Archive.Gzip
import ReleaseBundle.Archive.Tar
import ReleaseBundle.Archive.Zip

/-!
# Archives, piece by piece

An archive is written while its items are read. `Writer` says which bytes each item adds at once and
which are owed at the end. `encode` is the archive of a whole list of items, and what a writer gives in
the course of the same items is the same bytes in pieces. `unpack?` reads an archive of either format
back as names with contents.
-/

namespace ReleaseBundle.Archive

/-- A started archive. A zip file grows with every item; a tar file is compressed as a whole, so its
items are kept, the last first. -/
inductive Writer where
  | zip (w : Zip.Writer)
  | tarGz (written : List Bytes)

namespace Writer

def start : Format → Writer
  | .zip => .zip .start
  | .tarGz => .tarGz []

/-- The archive after one more item, and the bytes that the item adds at once. -/
def add (i : Item) : Writer → Writer × Bytes
  | zip w => (zip (w.add (.ofItem i)), (Zip.Member.ofItem i).localRecord)
  | tarGz written => (tarGz (Tar.encodeItem i :: written), [])

/-- The bytes that complete the archive. -/
def finish : Writer → Bytes
  | zip w => w.finish
  | tarGz written => Gzip.encode (written.reverse.flatten ++ Tar.trailer)

end Writer

/-- The archive of a list of items. -/
def encode (f : Format) (items : List Item) : Bytes :=
  match f with
  | .zip => Zip.encode (items.map .ofItem)
  | .tarGz => Gzip.encode (Tar.encode items)

/-- What an archive holds under a name; directories have no content. -/
structure Stored where
  name : Bytes
  content : Option Bytes
  deriving DecidableEq

/-- A zip member as it is stored: a slash at the end marks a directory. -/
def Stored.ofZip (e : Zip.Entry) : Stored :=
  if e.name.getLast? = some Path.slash then ⟨e.name.dropLast, none⟩ else ⟨e.name, some e.content⟩

/-- A tar record under its whole name. -/
def Stored.ofTar (name : Bytes) (e : Tar.Entry) : Stored :=
  if e.kind = .directory then ⟨name, none⟩ else ⟨name, some e.data⟩

/-- What an archive holds, in order. -/
def unpack? (f : Format) (archive : Bytes) : Option (List Stored) :=
  match f with
  | .zip => (Zip.decode? archive).map fun es => es.map .ofZip
  | .tarGz => do
    let entries ← Tar.decode? (← Gzip.decode? archive)
    return (Tar.named entries).map fun (name, e) => .ofTar name e

end ReleaseBundle.Archive
