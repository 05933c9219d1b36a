import ReleaseBundle.Bytes.Text

/-!
# The characters of XML

Which characters a document may hold, which separate its parts, and which a name starts with and goes
on with.
-/

namespace ReleaseBundle.Xml

/-- What is asked of all characters of a text is decided by going through the text, and not through all
characters there are. -/
instance (priority := high) decidableForallMem (cs : List Char) (p : Char → Prop) [DecidablePred p] :
    Decidable (∀ c ∈ cs, p c) :=
  List.decidableBAll p cs

/-- The characters that a document may hold. -/
def isChar (c : Char) : Bool :=
  let n := c.toNat
  n == 9 || n == 10 || n == 13 || (0x20 ≤ n && n != 0xFFFE && n != 0xFFFF)

/-- The blanks between the parts of a tag. -/
def isSpace (c : Char) : Bool := c == ' ' || c == '\t' || c == '\r' || c == '\n'

/-- The ranges of characters that a name may start with, the colon included. -/
def nameStartRanges : List (Nat × Nat) :=
  [(0x3A, 0x3A), (0x41, 0x5A), (0x5F, 0x5F), (0x61, 0x7A), (0xC0, 0xD6), (0xD8, 0xF6),
    (0xF8, 0x2FF), (0x370, 0x37D), (0x37F, 0x1FFF), (0x200C, 0x200D), (0x2070, 0x218F),
    (0x2C00, 0x2FEF), (0x3001, 0xD7FF), (0xF900, 0xFDCF), (0xFDF0, 0xFFFD), (0x10000, 0xEFFFF)]

/-- The further ranges that a name may go on with. -/
def nameMoreRanges : List (Nat × Nat) :=
  [(0x2D, 0x2E), (0x30, 0x39), (0xB7, 0xB7), (0x300, 0x36F), (0x203F, 0x2040)]

def inRanges (ranges : List (Nat × Nat)) (c : Char) : Bool :=
  ranges.any fun r => r.1 ≤ c.toNat && c.toNat ≤ r.2

/-- The characters that a name may start with. -/
def isNameStart (c : Char) : Bool := inRanges nameStartRanges c

/-- The characters that a name may go on with. -/
def isNameChar (c : Char) : Bool := inRanges nameStartRanges c || inRanges nameMoreRanges c

end ReleaseBundle.Xml
