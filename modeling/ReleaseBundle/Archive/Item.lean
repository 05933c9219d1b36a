import ReleaseBundle.Bytes.Text

/-!
# What an archive holds

An archive is a list of items in a fixed order: directories, and files with their contents. Of the
permission bits of a file an archive keeps at most whether the owner may execute it.

The readers of both formats are built from `take?`, `number?` and `field?`, which split a field off the
front of a byte string or report that it is too short or does not state what it should.
-/

namespace ReleaseBundle

/-- What an archive stores under a name. -/
inductive Payload where
  | directory
  | file (content : Bytes) (executable : Bool)
  deriving DecidableEq

/-- One thing in an archive. Names use `/` between their parts and have none at either end. -/
structure Item where
  name : String
  payload : Payload
  deriving DecidableEq

namespace Bytes

/-- Splits off the first `n` bytes. -/
def take? (n : Nat) (bs : Bytes) : Option (Bytes × Bytes) :=
  let front := bs.take n
  if front.length = n then some (front, bs.drop n) else none

/-- Splits off a little-endian number of the given width. -/
def number? (width : Nat) (bs : Bytes) : Option (Nat × Bytes) :=
  (take? width bs).map fun (front, rest) => (ofLittleEndian front, rest)

/-- Skips a little-endian number of the given width that must be the given one, or the lowest bytes of it. -/
def field? (width value : Nat) (bs : Bytes) : Option Bytes := do
  let (field, rest) ← take? width bs
  if field = littleEndian width value then some rest else none

theorem take?_append (a b : Bytes) : take? a.length (a ++ b) = some (a, b) := by
  simp [take?]

theorem take?_append_of_length {n : Nat} (a b : Bytes) (h : a.length = n) :
    take? n (a ++ b) = some (a, b) := by
  subst h
  exact take?_append a b

theorem number?_littleEndian (width value : Nat) (h : value < capacity width) (rest : Bytes) :
    number? width (littleEndian width value ++ rest) = some (value, rest) := by
  simp [number?, take?_append_of_length _ _ (length_littleEndian width value),
    ofLittleEndian_littleEndian width value h]

theorem field?_littleEndian (width value : Nat) (rest : Bytes) :
    field? width value (littleEndian width value ++ rest) = some rest := by
  simp [field?, take?_append_of_length _ _ (length_littleEndian width value)]

end Bytes

end ReleaseBundle
