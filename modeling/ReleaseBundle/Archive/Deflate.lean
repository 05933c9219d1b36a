import ReleaseBundle.Bytes.Basic

/-!
# Deflate streams

A deflate stream is a string of bits, filled into bytes from the lowest bit up. `deflate` writes one
final block of the fixed code in which every byte stands for itself; it looks for no repetitions, so a
byte costs eight or nine bits. `inflate?` reads such streams and refuses all others.
-/

namespace ReleaseBundle.Deflate

/-- The bits of a code word of the given width, the highest first. -/
def codeBits : Nat → Nat → List Bool
  | 0, _ => []
  | width + 1, code => codeBits width (code / 2) ++ [code % 2 == 1]

/-- The fixed code word of one byte. -/
def literalBits (b : UInt8) : List Bool :=
  if b.toNat < 144 then codeBits 8 (0x30 + b.toNat) else codeBits 9 (0x190 + (b.toNat - 144))

/-- The mark of a final block in the fixed code. -/
def blockStart : List Bool := [true, true, false]

/-- The code word that ends a block. -/
def blockEnd : List Bool := List.replicate 7 false

/-- The byte with the given bits, the lowest first; missing bits are clear. -/
def byteOfBits : List Bool → Nat
  | [] => 0
  | b :: bs => b.toNat + 2 * byteOfBits bs

/-- Fills bits into bytes; the last byte is filled up with clear bits. -/
def packFrom (sofar : Bytes) : List Bool → Bytes
  | b0 :: b1 :: b2 :: b3 :: b4 :: b5 :: b6 :: b7 :: rest =>
    packFrom (UInt8.ofNat (byteOfBits [b0, b1, b2, b3, b4, b5, b6, b7]) :: sofar) rest
  | [] => sofar.reverse
  | rest => (UInt8.ofNat (byteOfBits rest) :: sofar).reverse

/-- Fills bits into bytes. -/
def pack (bits : List Bool) : Bytes := packFrom [] bits

/-- The eight bits of a byte, the lowest first. -/
def bitsOfByte (b : UInt8) : List Bool :=
  let n := b.toNat
  [n % 2 == 1, n / 2 % 2 == 1, n / 4 % 2 == 1, n / 8 % 2 == 1, n / 16 % 2 == 1, n / 32 % 2 == 1,
    n / 64 % 2 == 1, n / 128 % 2 == 1]

/-- The bits of a byte string. -/
def unpack (bs : Bytes) : List Bool := bs.flatMap bitsOfByte

/-- The stream of a byte string. -/
def deflate (content : Bytes) : Bytes :=
  pack (blockStart ++ content.flatMap literalBits ++ blockEnd)

/-- Reads code words up to the end of the block. The first seven bits tell whether the word has
seven, eight or nine bits; words for repetitions are refused. -/
def readLiterals (sofar : Bytes) : List Bool → Option Bytes
  | b0 :: b1 :: b2 :: b3 :: b4 :: b5 :: b6 :: b7 :: rest =>
    let seven := byteOfBits [b6, b5, b4, b3, b2, b1, b0]
    let eight := 2 * seven + b7.toNat
    if seven = 0 then some sofar.reverse
    else if seven < 24 then none
    else if eight < 0xC0 then readLiterals (UInt8.ofNat (eight - 0x30) :: sofar) rest
    else if eight < 0xC8 then none
    else
      match rest with
      | b8 :: rest => readLiterals (UInt8.ofNat (2 * eight + b8.toNat - 0x190 + 144) :: sofar) rest
      | [] => none
  | [b0, b1, b2, b3, b4, b5, b6] =>
    if byteOfBits [b6, b5, b4, b3, b2, b1, b0] = 0 then some sofar.reverse else none
  | _ => none

/-- The bytes of a stream. -/
def inflate? (stream : Bytes) : Option Bytes :=
  match unpack stream with
  | true :: true :: false :: bits => readLiterals [] bits
  | _ => none

end ReleaseBundle.Deflate
