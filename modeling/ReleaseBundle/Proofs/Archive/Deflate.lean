import ReleaseBundle.Archive.Gzip
import ReleaseBundle.Proofs.Digest.Crc32
import Mathlib.Algebra.Group.Nat.Defs

/-!
# Compressed streams can be read back

Filling bits into bytes loses nothing but where the bits end, and the code word that ends a block says
that. Reading a stream goes through the code words in the order in which they were written: each of them
is recognised by its first bits and gives back its byte.
-/

namespace ReleaseBundle.Deflate

/-! ## Bits in bytes -/

/-- The lowest bits of a number, the lowest first. -/
def bitsOf : Nat → Nat → List Bool
  | 0, _ => []
  | width + 1, n => (n % 2 == 1) :: bitsOf width (n / 2)

theorem bitsOfByte_eq (b : UInt8) : bitsOfByte b = bitsOf 8 b.toNat := by
  simp [bitsOfByte, bitsOf, Nat.div_div_eq_div_mul]

theorem bitsOf_zero (width : Nat) : bitsOf width 0 = List.replicate width false := by
  induction width with
  | zero => rfl
  | succ width ih => simp [bitsOf, ih, List.replicate_succ]

theorem byteOfBits_lt (bits : List Bool) : byteOfBits bits < 2 ^ bits.length := by
  induction bits with
  | nil => simp [byteOfBits]
  | cons b bits ih =>
    have := b.toNat_le
    simp only [byteOfBits, List.length_cons, Nat.pow_succ]
    omega

theorem bitsOf_byteOfBits {width : Nat} {bits : List Bool} (h : bits.length ≤ width) :
    bitsOf width (byteOfBits bits) = bits ++ List.replicate (width - bits.length) false := by
  induction bits generalizing width with
  | nil => simp [byteOfBits, bitsOf_zero]
  | cons b bits ih =>
    obtain ⟨width, rfl⟩ : ∃ w, width = w + 1 := ⟨width - 1, by simp at h; omega⟩
    have hhalf : (b.toNat + 2 * byteOfBits bits) / 2 = byteOfBits bits := by
      have := b.toNat_le
      omega
    have hlow : ((b.toNat + 2 * byteOfBits bits) % 2 == 1) = b := by cases b <;> simp
    simp only [bitsOf, byteOfBits, hhalf, hlow, ih (Nat.le_of_succ_le_succ h), List.length_cons,
      Nat.add_sub_add_right, List.cons_append]

/-- A byte gives back the bits that it was filled with. -/
theorem bitsOfByte_ofNat {bits : List Bool} (h : bits.length ≤ 8) :
    bitsOfByte (UInt8.ofNat (byteOfBits bits)) = bits ++ List.replicate (8 - bits.length) false := by
  have hsmall : byteOfBits bits < 256 :=
    Nat.lt_of_lt_of_le (byteOfBits_lt bits) (Nat.pow_le_pow_right (by decide) h)
  rw [bitsOfByte_eq, UInt8.toNat_ofNat', Nat.mod_eq_of_lt hsmall, bitsOf_byteOfBits h]

theorem unpack_append (a b : Bytes) : unpack (a ++ b) = unpack a ++ unpack b := by
  simp [unpack]

@[simp] theorem unpack_singleton (b : UInt8) : unpack [b] = bitsOfByte b := by
  simp [unpack]

theorem unpack_packFrom (sofar : Bytes) (bits : List Bool) :
    ∃ k, unpack (packFrom sofar bits) = unpack sofar.reverse ++ bits ++ List.replicate k false := by
  induction sofar, bits using packFrom.induct with
  | case1 sofar b0 b1 b2 b3 b4 b5 b6 b7 rest ih =>
    obtain ⟨k, ih⟩ := ih
    refine ⟨k, ?_⟩
    rw [packFrom, ih, List.reverse_cons, unpack_append, unpack_singleton, bitsOfByte_ofNat (by simp)]
    simp
  | case2 sofar => exact ⟨0, by simp [packFrom]⟩
  | case3 sofar rest hshort hnil =>
    have hlength : rest.length ≤ 8 := by
      match rest with
      | b0 :: b1 :: b2 :: b3 :: b4 :: b5 :: b6 :: b7 :: rest => exact absurd rfl (hshort _ _ _ _ _ _ _ _ _)
      | [] | [_] | [_, _] | [_, _, _] | [_, _, _, _] | [_, _, _, _, _] | [_, _, _, _, _, _]
      | [_, _, _, _, _, _, _] => simp
    refine ⟨8 - rest.length, ?_⟩
    rw [packFrom, List.reverse_cons, unpack_append, unpack_singleton, bitsOfByte_ofNat hlength,
      List.append_assoc]
    · exact hshort
    · exact hnil

/-- What was filled into bytes is read back, with some clear bits behind it. -/
theorem unpack_pack (bits : List Bool) : ∃ k, unpack (pack bits) = bits ++ List.replicate k false :=
  unpack_packFrom [] bits

/-! ## Code words -/

theorem toNat_beq_one (n : Nat) : (n % 2 == 1).toNat = n % 2 := by
  rcases Nat.mod_two_eq_zero_or_one n with h | h <;> simp [h]

theorem byteOfBits_bitsOf (width n : Nat) : byteOfBits (bitsOf width n) = n % 2 ^ width := by
  induction width generalizing n with
  | zero => simp [bitsOf, byteOfBits, Nat.mod_one]
  | succ width ih =>
    rw [bitsOf, byteOfBits, ih, toNat_beq_one, Nat.pow_succ, Nat.mul_comm (2 ^ width), Nat.mod_mul]

/-- A code word is read as its byte. -/
theorem readLiterals_literal (sofar : Bytes) (b : UInt8) (rest : List Bool) :
    readLiterals sofar (literalBits b ++ rest) = readLiterals (b :: sofar) rest := by
  have hb : b.toNat < 256 := b.toNat_lt
  by_cases hshort : b.toNat < 144
  · have hword : UInt8.ofNat (0x30 + b.toNat - 0x30) = b := by simp
    generalize hc : 0x30 + b.toNat = c at hword
    have hseven : byteOfBits [c / 2 % 2 == 1, c / 4 % 2 == 1, c / 8 % 2 == 1, c / 16 % 2 == 1,
        c / 32 % 2 == 1, c / 64 % 2 == 1, c / 128 % 2 == 1] = c / 2 := by
      have hbits := byteOfBits_bitsOf 7 (c / 2)
      rw [Nat.mod_eq_of_lt (by omega)] at hbits
      simpa only [bitsOf, Nat.div_div_eq_div_mul] using hbits
    have height : 2 * (c / 2) + (c % 2 == 1).toNat = c := by
      rw [toNat_beq_one]
      omega
    simp only [literalBits, if_pos hshort, hc, codeBits, Nat.div_div_eq_div_mul, Nat.reduceMul,
      List.nil_append, List.cons_append]
    rw [readLiterals.eq_def]
    simp only [hseven, height]
    rw [if_neg (by omega), if_neg (by omega), if_pos (by omega), hword]
  · have hword : UInt8.ofNat (0x190 + (b.toNat - 144) - 0x190 + 144) = b := by
      rw [show 0x190 + (b.toNat - 144) - 0x190 + 144 = b.toNat by omega]
      simp
    generalize hc : 0x190 + (b.toNat - 144) = c at hword
    have hseven : byteOfBits [c / 4 % 2 == 1, c / 8 % 2 == 1, c / 16 % 2 == 1, c / 32 % 2 == 1,
        c / 64 % 2 == 1, c / 128 % 2 == 1, c / 256 % 2 == 1] = c / 4 := by
      have hbits := byteOfBits_bitsOf 7 (c / 4)
      rw [Nat.mod_eq_of_lt (by omega)] at hbits
      simpa only [bitsOf, Nat.div_div_eq_div_mul] using hbits
    have height : 2 * (c / 4) + (c / 2 % 2 == 1).toNat = c / 2 := by
      rw [toNat_beq_one]
      omega
    have hnine : 2 * (c / 2) + (c % 2 == 1).toNat = c := by
      rw [toNat_beq_one]
      omega
    simp only [literalBits, if_neg hshort, hc, codeBits, Nat.div_div_eq_div_mul, Nat.reduceMul,
      List.nil_append, List.cons_append, readLiterals, hseven, height, hnine]
    rw [if_neg (by omega), if_neg (by omega), if_neg (by omega), if_neg (by omega), hword]

/-- The end of a block is recognised whatever comes behind it. -/
theorem readLiterals_blockEnd (sofar : Bytes) (rest : List Bool) :
    readLiterals sofar (blockEnd ++ rest) = some sofar.reverse := by
  rw [readLiterals.eq_def]
  cases rest <;> simp [blockEnd, List.replicate, byteOfBits]

theorem readLiterals_block (sofar content : Bytes) (rest : List Bool) :
    readLiterals sofar (content.flatMap literalBits ++ (blockEnd ++ rest)) =
      some (sofar.reverse ++ content) := by
  induction content generalizing sofar with
  | nil => simp [readLiterals_blockEnd]
  | cons b content ih =>
    rw [List.flatMap_cons, List.append_assoc, readLiterals_literal, ih]
    simp

theorem inflate?_deflate (content : Bytes) : inflate? (deflate content) = some content := by
  obtain ⟨k, hk⟩ := unpack_pack (blockStart ++ content.flatMap literalBits ++ blockEnd)
  unfold inflate? deflate
  rw [hk, List.append_assoc, List.append_assoc]
  exact readLiterals_block [] content _

end ReleaseBundle.Deflate

namespace ReleaseBundle.Gzip

theorem decode?_encode (content : Bytes) : decode? (encode content) = some content := by
  have hend : (Bytes.littleEndian 4 (Crc32.value content) ++
      Bytes.littleEndian 4 (content.length % 0x100000000)).length = 8 := by simp
  generalize htrailer : Bytes.littleEndian 4 (Crc32.value content) ++
    Bytes.littleEndian 4 (content.length % 0x100000000) = trailer at hend
  have hstream : encode content = header ++ (Deflate.deflate content ++ trailer) := by
    simp [encode, ← htrailer]
  have hbody : (Deflate.deflate content ++ trailer).length - 8 = (Deflate.deflate content).length := by
    simp [hend]
  simp only [decode?, hstream, List.take_left, if_true, List.drop_left, hbody,
    Deflate.inflate?_deflate, Crc32.byDivision_eq, htrailer]

end ReleaseBundle.Gzip
