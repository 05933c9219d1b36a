import ReleaseBundle.Bytes.Basic

/-!
# SHA-256

A message is padded to whole blocks of 64 bytes, and each block is folded into eight words. `digest`
does this to a whole message. `Hasher` does it piece by piece: it keeps the bytes that do not fill a
block yet and the length so far, so a message can be hashed while it is being read. Both go through
the same function `absorb`, which consumes the full blocks of what it is given.
-/

namespace ReleaseBundle.Sha256

/-- The eight words that blocks are folded into. -/
structure Words where
  a : UInt32
  b : UInt32
  c : UInt32
  d : UInt32
  e : UInt32
  f : UInt32
  g : UInt32
  h : UInt32
  deriving DecidableEq

/-- The words before the first block. -/
def initial : Words :=
  ⟨0x6a09e667, 0xbb67ae85, 0x3c6ef372, 0xa54ff53a, 0x510e527f, 0x9b05688c, 0x1f83d9ab, 0x5be0cd19⟩

/-- One constant for each of the 64 rounds. -/
def constants : List UInt32 :=
  [0x428a2f98, 0x71374491, 0xb5c0fbcf, 0xe9b5dba5, 0x3956c25b, 0x59f111f1, 0x923f82a4, 0xab1c5ed5,
    0xd807aa98, 0x12835b01, 0x243185be, 0x550c7dc3, 0x72be5d74, 0x80deb1fe, 0x9bdc06a7, 0xc19bf174,
    0xe49b69c1, 0xefbe4786, 0x0fc19dc6, 0x240ca1cc, 0x2de92c6f, 0x4a7484aa, 0x5cb0a9dc, 0x76f988da,
    0x983e5152, 0xa831c66d, 0xb00327c8, 0xbf597fc7, 0xc6e00bf3, 0xd5a79147, 0x06ca6351, 0x14292967,
    0x27b70a85, 0x2e1b2138, 0x4d2c6dfc, 0x53380d13, 0x650a7354, 0x766a0abb, 0x81c2c92e, 0x92722c85,
    0xa2bfe8a1, 0xa81a664b, 0xc24b8b70, 0xc76c51a3, 0xd192e819, 0xd6990624, 0xf40e3585, 0x106aa070,
    0x19a4c116, 0x1e376c08, 0x2748774c, 0x34b0bcb5, 0x391c0cb3, 0x4ed8aa4a, 0x5b9cca4f, 0x682e6ff3,
    0x748f82ee, 0x78a5636f, 0x84c87814, 0x8cc70208, 0x90befffa, 0xa4506ceb, 0xbef9a3f7, 0xc67178f2]

def rotate (x : UInt32) (n : UInt32) : UInt32 := (x >>> n) ||| (x <<< (32 - n))

/-- The big-endian words of a byte string; an incomplete word at the end is left out. -/
def wordsOf : Bytes → List UInt32
  | p :: q :: r :: s :: rest =>
    ((p.toUInt32 <<< 24) ||| (q.toUInt32 <<< 16) ||| (r.toUInt32 <<< 8) ||| s.toUInt32) ::
      wordsOf rest
  | _ => []

/-- Appends one word to a message schedule. -/
def extend (w : Array UInt32) : Array UInt32 :=
  let n := w.size
  let x := w.getD (n - 15) 0
  let y := w.getD (n - 2) 0
  let s0 := rotate x 7 ^^^ rotate x 18 ^^^ (x >>> 3)
  let s1 := rotate y 17 ^^^ rotate y 19 ^^^ (y >>> 10)
  w.push (w.getD (n - 16) 0 + s0 + w.getD (n - 7) 0 + s1)

/-- The 64 words of the message schedule of a block. -/
def schedule (block : Bytes) : Array UInt32 := Nat.repeat extend 48 (wordsOf block).toArray

/-- One round. -/
def round (s : Words) (kw : UInt32 × UInt32) : Words :=
  let s1 := rotate s.e 6 ^^^ rotate s.e 11 ^^^ rotate s.e 25
  let choice := (s.e &&& s.f) ^^^ (~~~s.e &&& s.g)
  let t1 := s.h + s1 + choice + kw.1 + kw.2
  let s0 := rotate s.a 2 ^^^ rotate s.a 13 ^^^ rotate s.a 22
  let majority := (s.a &&& s.b) ^^^ (s.a &&& s.c) ^^^ (s.b &&& s.c)
  ⟨t1 + (s0 + majority), s.a, s.b, s.c, s.d + t1, s.e, s.f, s.g⟩

/-- Folds one block into the words. -/
def compress (s : Words) (block : Bytes) : Words :=
  let t := (constants.zip (schedule block).toList).foldl round s
  ⟨s.a + t.a, s.b + t.b, s.c + t.c, s.d + t.d, s.e + t.e, s.f + t.f, s.g + t.g, s.h + t.h⟩

/-- Folds the full blocks at the front of a byte string into the words and answers what is left. -/
def absorb (s : Words) (bs : Bytes) : Words × Bytes :=
  match _h : bs.drop 63 with
  | [] => (s, bs)
  | _ :: rest => absorb (compress s (bs.take 64)) rest
termination_by bs.length
decreasing_by
  have := congrArg List.length _h
  simp at this
  omega

/-- What follows a message of the given length to make whole blocks: a set bit, zeros, and the length
in bits as eight big-endian bytes. -/
def padding (length : Nat) : Bytes :=
  0x80 :: (List.replicate ((119 - length % 64) % 64) 0 ++
    (Bytes.littleEndian 8 (8 * length)).reverse)

/-- The four bytes of a word, the highest first. -/
def bytesOf (x : UInt32) : Bytes := [(x >>> 24).toUInt8, (x >>> 16).toUInt8, (x >>> 8).toUInt8, x.toUInt8]

/-- The bytes of the eight words. -/
def Words.toBytes (s : Words) : Bytes :=
  [s.a, s.b, s.c, s.d, s.e, s.f, s.g, s.h].flatMap bytesOf

/-- The digest of a whole message. -/
def digest (message : Bytes) : Bytes :=
  (absorb initial (message ++ padding message.length)).1.toBytes

/-- A message that is being hashed while it is read. -/
structure Hasher where
  words : Words
  pending : Bytes
  length : Nat

namespace Hasher

def new : Hasher := ⟨initial, [], 0⟩

/-- Hashes the next piece of the message. -/
def update (s : Hasher) (piece : Bytes) : Hasher :=
  let (words, pending) := absorb s.words (s.pending ++ piece)
  ⟨words, pending, s.length + piece.length⟩

/-- The digest of the pieces so far. -/
def finish (s : Hasher) : Bytes := (absorb s.words (s.pending ++ padding s.length)).1.toBytes

end Hasher

end ReleaseBundle.Sha256
