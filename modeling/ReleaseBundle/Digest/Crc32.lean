import ReleaseBundle.Bytes.Basic

/-!
# CRC-32

The checksum of zip entries and gzip streams: the reflected polynomial `0xEDB88320`, started from and
finished with all bits set.

That is what a writer computes. A reader computes the same number in another way, as the remainder of a
long division of polynomials over the field of two elements.
-/

namespace ReleaseBundle.Crc32

/-- Shifts one bit out of the register. -/
def shift (r : UInt32) : UInt32 := if r &&& 1 = 1 then (r >>> 1) ^^^ 0xEDB88320 else r >>> 1

/-- Feeds one byte into the register. -/
def feed (r : UInt32) (b : UInt8) : UInt32 := Nat.repeat shift 8 (r ^^^ b.toUInt32)

/-- The checksum of a byte string. -/
def checksum (bs : Bytes) : UInt32 := bs.foldl feed 0xFFFFFFFF ^^^ 0xFFFFFFFF

/-- The checksum as a number. -/
def value (bs : Bytes) : Nat := (checksum bs).toNat

/-! ## Long division -/

/-- The bits of a byte string in the order in which they are sent: of every byte the lowest first. -/
def sent (bs : Bytes) : List Bool := bs.flatMap fun b => (List.range 8).map b.toNat.testBit

/-- The coefficients of the generator below `x^32`, the highest first. -/
def generator : List Bool := (List.range 32).map fun i => Nat.testBit 0x04C11DB7 (31 - i)

/-- Subtracts a polynomial from the leading terms of a longer one. -/
def subtract : List Bool → List Bool → List Bool
  | a :: as, b :: bs => (a ^^ b) :: subtract as bs
  | _, bs => bs

/-- Goes some steps into the division by the generator. -/
def divide : Nat → List Bool → List Bool
  | steps + 1, b :: bs => divide steps (if b then subtract generator bs else bs)
  | _, bs => bs

/-- The remainder of a byte string whose first 32 bits are inverted and that is followed by 32 zeros. -/
def remainder (bs : Bytes) : List Bool :=
  divide (sent bs).length (subtract (List.replicate 32 true) (sent bs ++ List.replicate 32 false))

/-- The number whose bits are given, the lowest first. -/
def ofBits (bits : List Bool) : Nat := bits.foldr (fun b n => b.toNat + 2 * n) 0

/-- The checksum of a byte string by division. The highest coefficient of the inverted remainder is its lowest
bit. -/
def byDivision (bs : Bytes) : Nat := ofBits ((remainder bs).map (!·))

end ReleaseBundle.Crc32
