import ReleaseBundle.Path

/-!
# Archive formats

A release is packed as a zip file or as a gzip-compressed tar file. A format is chosen by name in any
letter case, and it decides the extension of the archive. The extension is appended to the destination
and never replaces a part of it, so dots in a version survive.
-/

namespace ReleaseBundle

/-- The container a release is packed in. -/
inductive Format where
  | zip
  | tarGz
  deriving DecidableEq, Inhabited

namespace Format

/-- The extension without its dot; it also names the format in messages. -/
def extension : Format → String
  | zip => "zip"
  | tarGz => "tar.gz"

/-- The names of the formats, in lower case. -/
def spellings : List (String × Format) :=
  [("zip", zip), ("tar.gz", tarGz), ("tar-gz", tarGz), ("tgz", tarGz), ("gztar", tarGz)]

/-- The format with the given name. -/
def ofString? (s : String) : Option Format := spellings.lookup (Text.lower s)

/-- What a text that names no format is told. -/
def refusal (s : String) : String :=
  "unsupported archive format '" ++ Text.lower s ++ "' (expected zip or tar.gz)"

/-- Where an archive for a destination without extension is written. -/
def archivePath (f : Format) (destination : Path) : Path :=
  (destination.append ".").append f.extension

end Format

end ReleaseBundle
