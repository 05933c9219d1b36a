import ReleaseBundle.Disk.Difference
import ReleaseBundle.Proofs.Digest.Standard

/-!
# The checksum of a file

The system decides how many bytes each read of a file gives. Whatever it decides, the pieces are hashed one
after the other up to the first read that gives nothing, and the checksum is the digest of the whole file in
lower-case hexadecimal.
-/

namespace ReleaseBundle

namespace Bytes

/-- The text has two lower-case hexadecimal digits for each byte, the higher digit first. -/
structure WrittenInHex (text : String) (bs : Bytes) : Prop where
  lower : ∀ c ∈ text.toList, ('0' ≤ c ∧ c ≤ '9') ∨ ('a' ≤ c ∧ c ≤ 'f')
  values : text.toList.mapM hexValue? = some (bs.flatMap fun b => [b.toNat / 16, b.toNat % 16])

theorem hexDigit_spec {n : Nat} (hn : n < 16) :
    (('0' ≤ hexDigit n ∧ hexDigit n ≤ '9') ∨ ('a' ≤ hexDigit n ∧ hexDigit n ≤ 'f')) ∧
      hexValue? (hexDigit n) = some n := by
  revert n
  decide

theorem writtenInHex_hex (bs : Bytes) : WrittenInHex (hex bs) bs := by
  have hdigits (b : UInt8) : b.toNat / 16 < 16 ∧ b.toNat % 16 < 16 := by
    have := b.toNat_lt
    omega
  constructor
  · intro c hc
    rw [hex, String.toList_ofList] at hc
    obtain ⟨b, _, hc⟩ := List.mem_flatMap.1 hc
    simp only [List.mem_cons, List.not_mem_nil, or_false] at hc
    rcases hc with rfl | rfl
    · exact (hexDigit_spec (hdigits b).1).1
    · exact (hexDigit_spec (hdigits b).2).1
  · rw [hex, String.toList_ofList]
    induction bs with
    | nil => rfl
    | cons b bs ih =>
      obtain ⟨hhigh, hlow⟩ := hdigits b
      simp [List.mapM_cons, (hexDigit_spec hhigh).2, (hexDigit_spec hlow).2, ih]

theorem length_hex (bs : Bytes) : (hex bs).length = 2 * bs.length := by
  rw [hex, String.length_ofList]
  induction bs with
  | nil => rfl
  | cons b bs ih =>
    rw [List.flatMap_cons, List.length_append, ih, List.length_cons]
    simp only [List.length_cons, List.length_nil]
    omega

end Bytes

namespace Bundle

open Sha256 (Hasher)

/-- The pieces are what successive reads of a file may give before its end. -/
structure Delivers (content : Bytes) (pieces : List Bytes) : Prop where
  whole : pieces.flatten = content
  filled : [] ∉ pieces
  short : ∀ piece ∈ pieces, piece.length ≤ readLimit

theorem length_le_of_mem_cut {limit : Nat} {content piece : Bytes} (h : piece ∈ cut limit content) :
    piece.length ≤ limit + 1 := by
  induction content using cut.induct limit with
  | case1 =>
    rw [cut] at h
    cases h
  | case2 b rest ih =>
    rw [cut] at h
    rcases List.mem_cons.1 h with rfl | h
    · simp only [List.length_cons, List.length_take]
      omega
    · exact ih h

/-- A file that is read as far as possible each time gives such pieces. -/
theorem delivers_cut (content : Bytes) : Delivers content (cut (readLimit - 1) content) where
  whole := (cut_pieces _ content).1
  filled := (cut_pieces _ content).2
  short := fun _ h => length_le_of_mem_cut h

/-- However the file is delivered, its checksum is the digest of its contents. -/
theorem Delivers.checksumOfReads {content : Bytes} {pieces : List Bytes} (h : Delivers content pieces)
    (later : List Bytes) :
    checksumOfReads (pieces ++ [] :: later) = Bytes.hex (Sha256.Standard.digest content) := by
  rw [checksumOfReads_pieces h.filled, h.whole, Sha256.digest_eq]

theorem length_digest (message : Bytes) : (Sha256.Standard.digest message).length = 32 := rfl

/-- Whatever pieces a file is delivered in, each is hashed once and in order, what the system would give
behind the end of the file is not looked at, and the checksum is the digest of all contents in 64 lower-case
hexadecimal digits. That is also the checksum of the file on a disk. -/
theorem checksum_of_delivered {content : Bytes} {pieces : List Bytes} (h : Delivers content pieces)
    (later : List Bytes) :
    hashReads .new (pieces ++ [] :: later) = pieces.foldl Hasher.update .new ∧
      ∃ text, checksumOfReads (pieces ++ [] :: later) = text ∧ text.length = 64 ∧
        Bytes.WrittenInHex text (Sha256.Standard.digest content) ∧
        ∀ (d : Disk) (p : Path), d.contentsOf p = .ok content → checksum d p = .ok text := by
  refine ⟨hashReads_pieces _ h.filled later, Bytes.hex (Sha256.Standard.digest content),
    h.checksumOfReads later, ?length, Bytes.writtenInHex_hex _, fun d p hcontents => ?disk⟩
  case length => rw [Bytes.length_hex, length_digest]
  case disk =>
    rw [Disk.contentsOf] at hcontents
    cases hopened : d.openPath p with
    | error fault =>
      rw [hopened] at hcontents
      cases hcontents
    | ok opened =>
      rw [hopened] at hcontents
      have hread : opened.read = .ok content := hcontents
      simp only [checksum, hopened, hread, reads, (delivers_cut content).checksumOfReads]

/-! ## A file of two blocks -/

/-- Pieces that end just before the length has to go into a block of its own, at the end of the first
block, and one byte behind it. -/
def letterPieces : List Bytes := [List.replicate 55 0x61, List.replicate 9 0x61, [0x61]]

def letterName : Name := ⟨Text.ofString "letters", by decide⟩

/-- A disk with a file of 65 letters. -/
def letters : Disk :=
  .placeFile [letterName] { content := List.replicate 65 0x61, mode := 0o644 } .empty

theorem letters_checksum :
    Delivers (List.replicate 65 0x61) letterPieces ∧
      checksumOfReads (letterPieces ++ [[], [0x62]]) =
        "635361c48bb9eab14198e76ea8ab7f1a41685d6ad62aa9146d301d4f17eb0ae0" ∧
      checksum letters (.ofString "letters") =
        .ok "635361c48bb9eab14198e76ea8ab7f1a41685d6ad62aa9146d301d4f17eb0ae0" := by
  have hdelivers : Delivers (List.replicate 65 0x61) letterPieces := by
    constructor <;> decide
  have htext : checksumOfReads (letterPieces ++ [[], [0x62]]) =
      "635361c48bb9eab14198e76ea8ab7f1a41685d6ad62aa9146d301d4f17eb0ae0" := by
    decide +kernel
  obtain ⟨_, text, hsame, _, _, hfile⟩ := checksum_of_delivered hdelivers [[0x62]]
  have hcontents : letters.contentsOf (.ofString "letters") = .ok (List.replicate 65 0x61) := by decide +kernel
  refine ⟨hdelivers, htext, ?_⟩
  rw [hfile letters (.ofString "letters") hcontents, ← hsame, htext]

end Bundle

end ReleaseBundle
