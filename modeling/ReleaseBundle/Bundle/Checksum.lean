import ReleaseBundle.Artifact
import ReleaseBundle.Digest.Sha256
import ReleaseBundle.Failure
import ReleaseBundle.Job

/-!
# Describing an archive

A finished archive is published with its size and its SHA-256 digest. The digest is computed while the
file is read, in pieces of at most eight kilobytes; the first empty piece is the end of the file.
-/

namespace ReleaseBundle.Bundle

/-- How many bytes are read at once. -/
def readLimit : Nat := 8192

/-- Cuts a byte string into pieces of at most `limit + 1` bytes. -/
def cut (limit : Nat) : Bytes → List Bytes
  | [] => []
  | b :: rest => (b :: rest.take limit) :: cut limit (rest.drop limit)
termination_by bs => bs.length
decreasing_by
  rw [List.length_drop, List.length_cons]
  omega

/-- What successive reads of a file answer: its pieces, and nothing at its end. -/
def reads (content : Bytes) : List Bytes := cut (readLimit - 1) content ++ [[]]

/-- Hashes the answers of successive reads up to the first empty one. -/
def hashReads (h : Sha256.Hasher) : List Bytes → Sha256.Hasher
  | [] => h
  | piece :: rest => if piece = [] then h else hashReads (h.update piece) rest

/-- The digest of a file that is read in the given pieces, in hexadecimal. -/
def checksumOfReads (pieces : List Bytes) : String :=
  Bytes.hex (hashReads .new pieces).finish

/-- The digest of the file at a path. -/
def checksum (d : Disk) (p : Path) : Except ArchiveFailure String :=
  match d.openPath p with
  | .error fault => .error (.file .openingForHash p fault)
  | .ok opened =>
    match opened.read with
    | .error fault => .error (.file .readingForHash p fault)
    | .ok content => .ok (checksumOfReads (reads content))

/-- Describes the archive at a path. -/
def describe (d : Disk) (p : Path) (version : String) (f : Format) :
    Except ArchiveFailure Artifact :=
  match d.stat p with
  | .error fault => .error (.file .readingArchive p fault)
  | .ok (_, node) =>
    match checksum d p with
    | .error e => .error e
    | .ok digest => .ok ⟨p, version, f, d.size node, digest⟩

end ReleaseBundle.Bundle
