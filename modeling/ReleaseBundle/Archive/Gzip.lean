import ReleaseBundle.Archive.Deflate
import ReleaseBundle.Digest.Crc32

/-!
# Gzip streams

A gzip stream is a fixed header, a deflate stream, and the checksum and length of the contents. The
header names neither a time nor a file, so the stream depends on the contents alone.
-/

namespace ReleaseBundle.Gzip

open Bytes (littleEndian)

/-- The mark of the format, deflate as the method, no flags, no time, no hint on the compression, and
an unknown system. -/
def header : Bytes := [0x1F, 0x8B, 8, 0, 0, 0, 0, 0, 0, 0xFF]

/-- The stream of a byte string. -/
def encode (content : Bytes) : Bytes :=
  header ++ Deflate.deflate content ++ littleEndian 4 (Crc32.value content) ++
    littleEndian 4 (content.length % 0x100000000)

/-- The contents of a stream. -/
def decode? (stream : Bytes) : Option Bytes :=
  if stream.take header.length = header then
    let body := stream.drop header.length
    let packed := body.take (body.length - 8)
    match Deflate.inflate? packed with
    | some content =>
      if body.drop (body.length - 8) =
          littleEndian 4 (Crc32.byDivision content) ++ littleEndian 4 (content.length % 0x100000000) then
        some content
      else none
    | none => none
  else none

end ReleaseBundle.Gzip
