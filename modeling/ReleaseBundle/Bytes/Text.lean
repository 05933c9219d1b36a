import ReleaseBundle.Bytes.Basic

/-!
# Text as bytes

Text is stored as UTF-8. `encode` writes it, `next` reads one character or passes over one malformed
sequence, and the two readers are built from `next`: `decode?` refuses malformed input, `decodeLossy`
shows each malformed sequence as U+FFFD.

A malformed sequence is the longest start of a well-formed one that the input offers, at least one
byte. The bounds on the second byte rule out overlong forms, surrogates and numbers above U+10FFFF, so
every accepted sequence is the one that `encodeChar` writes.
-/

namespace ReleaseBundle.Text

/-- The UTF-8 form of one character. -/
def encodeChar (c : Char) : Bytes :=
  let n := c.toNat
  if n < 0x80 then [UInt8.ofNat n]
  else if n < 0x800 then [UInt8.ofNat (0xC0 + n / 64), UInt8.ofNat (0x80 + n % 64)]
  else if n < 0x10000 then
    [UInt8.ofNat (0xE0 + n / 4096), UInt8.ofNat (0x80 + n / 64 % 64), UInt8.ofNat (0x80 + n % 64)]
  else
    [UInt8.ofNat (0xF0 + n / 262144), UInt8.ofNat (0x80 + n / 4096 % 64),
      UInt8.ofNat (0x80 + n / 64 % 64), UInt8.ofNat (0x80 + n % 64)]

/-- The UTF-8 form of a list of characters. -/
def encode (cs : List Char) : Bytes := cs.flatMap encodeChar

/-- The UTF-8 form of a string. -/
def ofString (s : String) : Bytes := encode s.toList

@[simp] theorem encode_nil : encode [] = [] := rfl

@[simp] theorem encode_append (a b : List Char) : encode (a ++ b) = encode a ++ encode b := by
  simp [encode]

@[simp] theorem ofString_append (a b : String) : ofString (a ++ b) = ofString a ++ ofString b := by
  simp [ofString]

/-- One step of reading: a character, or `none` for a malformed sequence, and what follows it. -/
structure Step where
  char : Option Char
  rest : Bytes

/-- The six payload bits of a continuation byte, if it is one whose value lies in the given range. -/
def continuation? (low high : Nat) (b : UInt8) : Option Nat :=
  if low ≤ b.toNat ∧ b.toNat ≤ high then some (b.toNat - 0x80) else none

/-- The range of the second byte of a sequence, which depends on the first byte. -/
def secondRange (first : Nat) : Nat × Nat :=
  if first = 0xE0 then (0xA0, 0xBF)
  else if first = 0xED then (0x80, 0x9F)
  else if first = 0xF0 then (0x90, 0xBF)
  else if first = 0xF4 then (0x80, 0x8F)
  else (0x80, 0xBF)

/-- Reads a two-byte sequence after its first byte. -/
def next2 (first : Nat) : Bytes → Step
  | b :: bs =>
    match continuation? 0x80 0xBF b with
    | some x => ⟨some (Char.ofNat ((first - 0xC0) * 64 + x)), bs⟩
    | none => ⟨none, b :: bs⟩
  | [] => ⟨none, []⟩

/-- Reads a three-byte sequence after its first byte. -/
def next3 (first : Nat) : Bytes → Step
  | b :: bs =>
    match continuation? (secondRange first).1 (secondRange first).2 b, bs with
    | some x, c :: cs =>
      match continuation? 0x80 0xBF c with
      | some y => ⟨some (Char.ofNat ((first - 0xE0) * 4096 + x * 64 + y)), cs⟩
      | none => ⟨none, c :: cs⟩
    | some _, [] => ⟨none, []⟩
    | none, _ => ⟨none, b :: bs⟩
  | [] => ⟨none, []⟩

/-- Reads a four-byte sequence after its first byte. -/
def next4 (first : Nat) : Bytes → Step
  | b :: bs =>
    match continuation? (secondRange first).1 (secondRange first).2 b, bs with
    | some x, c :: cs =>
      match continuation? 0x80 0xBF c, cs with
      | some y, d :: ds =>
        match continuation? 0x80 0xBF d with
        | some z => ⟨some (Char.ofNat ((first - 0xF0) * 262144 + x * 4096 + y * 64 + z)), ds⟩
        | none => ⟨none, d :: ds⟩
      | some _, [] => ⟨none, []⟩
      | none, _ => ⟨none, c :: cs⟩
    | some _, [] => ⟨none, []⟩
    | none, _ => ⟨none, b :: bs⟩
  | [] => ⟨none, []⟩

/-- Reads the character or the malformed sequence that starts with the byte `b`. -/
def next (b : UInt8) (bs : Bytes) : Step :=
  let first := b.toNat
  if first < 0x80 then ⟨some (Char.ofNat first), bs⟩
  else if first < 0xC2 then ⟨none, bs⟩
  else if first < 0xE0 then next2 first bs
  else if first < 0xF0 then next3 first bs
  else if first < 0xF5 then next4 first bs
  else ⟨none, bs⟩

theorem next2_length (first : Nat) (bs : Bytes) : (next2 first bs).rest.length ≤ bs.length := by
  unfold next2; split <;> (try split) <;> simp

theorem next3_length (first : Nat) (bs : Bytes) : (next3 first bs).rest.length ≤ bs.length := by
  unfold next3
  split
  · split
    · split
      · simp only [List.length_cons]
        omega
      · simp
    · simp
    · simp
  · simp

theorem next4_length (first : Nat) (bs : Bytes) : (next4 first bs).rest.length ≤ bs.length := by
  unfold next4
  split
  · split
    · split
      · split
        · simp only [List.length_cons]
          omega
        · simp
      · simp
      · simp
    · simp
    · simp
  · simp

theorem next_length (b : UInt8) (bs : Bytes) : (next b bs).rest.length ≤ bs.length := by
  simp only [next]
  repeat' split
  all_goals first
    | exact Nat.le_refl _
    | exact next2_length _ _
    | exact next3_length _ _
    | exact next4_length _ _

/-- Reads on, with the characters so far in reverse order. -/
def decodeFrom (sofar : List Char) : Bytes → Option (List Char)
  | [] => some sofar.reverse
  | b :: bs =>
    match (next b bs).char with
    | some c => decodeFrom (c :: sofar) (next b bs).rest
    | none => none
termination_by bs => bs.length
decreasing_by have := next_length b bs; simp; omega

/-- The characters of a byte string, if all of it is well-formed UTF-8. -/
def decode? (bs : Bytes) : Option (List Char) := decodeFrom [] bs

/-- Reads on up to the first malformed sequence, with the characters so far in reverse order. -/
def validFrom (sofar : List Char) : Bytes → List Char × Bytes
  | [] => (sofar.reverse, [])
  | b :: bs =>
    match (next b bs).char with
    | some c => validFrom (c :: sofar) (next b bs).rest
    | none => (sofar.reverse, b :: bs)
termination_by bs => bs.length
decreasing_by have := next_length b bs; simp; omega

/-- The characters before the first malformed sequence, and the bytes from there on. -/
def splitValid (bs : Bytes) : List Char × Bytes := validFrom [] bs

/-- Reads on past malformed sequences, with the characters so far in reverse order. -/
def decodeLossyFrom (sofar : List Char) : Bytes → List Char
  | [] => sofar.reverse
  | b :: bs => decodeLossyFrom ((next b bs).char.getD '\uFFFD' :: sofar) (next b bs).rest
termination_by bs => bs.length
decreasing_by have := next_length b bs; simp; omega

/-- The characters of a byte string, each malformed sequence shown as U+FFFD. -/
def decodeLossy (bs : Bytes) : List Char := decodeLossyFrom [] bs

/-- A byte string as text for display. -/
def display (bs : Bytes) : String := String.ofList (decodeLossy bs)

/-- The characters of Unicode's `White_Space` property. -/
def isBlank (c : Char) : Bool :=
  let n := c.toNat
  (9 ≤ n && n ≤ 13) || n == 0x20 || n == 0x85 || n == 0xA0 || n == 0x1680 ||
    (0x2000 ≤ n && n ≤ 0x200A) || n == 0x2028 || n == 0x2029 || n == 0x202F || n == 0x205F ||
    n == 0x3000

/-- Removes blanks at both ends. -/
def trim (cs : List Char) : List Char :=
  ((cs.dropWhile isBlank).reverse.dropWhile isBlank).reverse

/-- Whether a piece stands anywhere in a text. -/
def occurs (piece : List Char) : List Char → Bool
  | [] => piece.isPrefixOf []
  | c :: cs => piece.isPrefixOf (c :: cs) || occurs piece cs

/-- Lower case for the letters A to Z; every other character stays. -/
def lowerChar (c : Char) : Char :=
  if 'A' ≤ c ∧ c ≤ 'Z' then Char.ofNat (c.toNat + 32) else c

/-- Lower case for the letters A to Z of a string. -/
def lower (s : String) : String := String.ofList (s.toList.map lowerChar)

/-- The separators that no name of an artifact and no version may hold. -/
def isSeparator (c : Char) : Bool := c == '/' || c == '\\'

end ReleaseBundle.Text
