import ReleaseBundle.Archive.Format

/-!
# Artifacts

What a release produces: an archive, with what is published about it.
-/

namespace ReleaseBundle

/-- A finished archive. -/
structure Artifact where
  path : Path
  version : String
  format : Format
  /-- The size in bytes. -/
  size : Nat
  /-- The SHA-256 digest in lower-case hexadecimal. -/
  checksum : String
  deriving DecidableEq

end ReleaseBundle
