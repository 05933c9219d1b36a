import ReleaseBundle.Digest.Crc32
import Mathlib.Data.Nat.Bitwise

/-!
# The checksum is the remainder of a division

A register that is shifted for every bit holds the coefficients of a remainder, the highest in its lowest
bit. One shift is one step of the division (`coefficients_shift`), for which a byte that is put into the
register at once does what its bits do one after the other (`repeat_advance`). The rest of the dividend
stays untouched until the division gets there (`divide_subtract`), so that the register need not hold it.
-/

namespace ReleaseBundle.Crc32

/-! ## Subtraction -/

variable {as bs : List Bool}

@[simp] theorem subtract_nil_left (bs : List Bool) : subtract [] bs = bs := by
  cases bs <;> rfl

@[simp] theorem subtract_nil_right (as : List Bool) : subtract as [] = [] := by
  cases as <;> rfl

@[simp] theorem subtract_cons (a b : Bool) (as bs : List Bool) :
    subtract (a :: as) (b :: bs) = (a ^^ b) :: subtract as bs := rfl

@[simp] theorem length_subtract (as bs : List Bool) : (subtract as bs).length = bs.length := by
  induction as generalizing bs with
  | nil => simp
  | cons a as ih => cases bs <;> simp [ih]

/-- What is subtracted may be filled up with zeros. -/
theorem subtract_append_zeros (as bs : List Bool) (k : Nat) :
    subtract (as ++ List.replicate k false) bs = subtract as bs := by
  induction as generalizing bs with
  | nil =>
    induction k generalizing bs with
    | zero => simp
    | succ k ih => cases bs <;> simp_all [List.replicate_succ]
  | cons a as ih => cases bs <;> simp [ih]

theorem subtract_zeros (as : List Bool) : subtract as (List.replicate as.length false) = as := by
  induction as with
  | nil => rfl
  | cons a as ih => simp [List.replicate_succ, ih]

theorem subtract_append (h : as.length ≤ bs.length) (cs : List Bool) :
    subtract as (bs ++ cs) = subtract as bs ++ cs := by
  induction as generalizing bs with
  | nil => simp
  | cons a as ih =>
    cases bs with
    | nil => simp at h
    | cons b bs => simp [ih (Nat.le_of_succ_le_succ h)]

theorem subtract_subtract (h : as.length ≤ bs.length) (cs : List Bool) :
    subtract (subtract as bs) cs = subtract as (subtract bs cs) := by
  induction as generalizing bs cs with
  | nil => simp
  | cons a as ih =>
    cases bs with
    | nil => simp at h
    | cons b bs => cases cs <;> simp [ih (Nat.le_of_succ_le_succ h)]

theorem subtract_left_comm (as bs cs : List Bool) :
    subtract as (subtract bs cs) = subtract bs (subtract as cs) := by
  induction as generalizing bs cs with
  | nil => simp
  | cons a as ih => cases bs <;> cases cs <;> simp [ih, Bool.xor_left_comm]

theorem subtract_ones (bs : List Bool) : subtract (List.replicate bs.length true) bs = bs.map (!·) := by
  induction bs with
  | nil => rfl
  | cons b bs ih => simp [List.replicate_succ, ih]

/-! ## Steps of the division -/

/-- A step of the division on the leading 32 coefficients alone. -/
def advance : List Bool → List Bool
  | b :: bs => if b then subtract generator (bs ++ [false]) else bs ++ [false]
  | [] => []

/-- A step that also takes the next bit of the dividend into account. -/
def next (bits : List Bool) (m : Bool) : List Bool := advance (subtract [m] bits)

theorem length_generator : generator.length = 32 := rfl

theorem length_next {m : Bool} (h : bs.length = 32) : (next bs m).length = 32 := by
  cases bs with
  | nil => cases h
  | cons b bs =>
    simp only [next, subtract_cons, subtract_nil_left, advance]
    split <;> simpa using h

/-- The division of a dividend is that of its leading coefficients, to which the others are added one by
one. -/
theorem divide_subtract (ms : List Bool) (h : as.length = 32) :
    divide ms.length (subtract as (ms ++ List.replicate 32 false)) = ms.foldl next as := by
  induction ms generalizing as with
  | nil => exact h ▸ subtract_zeros as
  | cons m ms ih =>
    cases as with
    | nil => cases h
    | cons a as =>
      have hlong : generator.length ≤ (as ++ [false]).length := by
        simpa [length_generator] using Nat.le_of_eq h.symm
      have hfill : ∀ cs, subtract as cs = subtract (as ++ [false]) cs := fun cs =>
        (subtract_append_zeros as cs 1).symm
      rw [List.foldl_cons, ← ih (length_next h)]
      simp only [List.length_cons, List.cons_append, subtract_cons, divide, next, subtract_nil_left, advance,
        Bool.xor_comm m a]
      split
      · rw [hfill, subtract_subtract hlong]
      · rw [hfill]

theorem repeat_succ {α : Type} (f : α → α) (n : Nat) (a : α) :
    Nat.repeat f (n + 1) a = Nat.repeat f n (f a) := by
  induction n with
  | zero => rfl
  | succ n ih => exact congrArg f ih

/-- Bits that are subtracted together are taken into account one after the other. -/
theorem repeat_advance (ms : List Bool) (h : ms.length ≤ as.length) :
    Nat.repeat advance ms.length (subtract ms as) = ms.foldl next as := by
  induction ms generalizing as with
  | nil => simp [Nat.repeat]
  | cons m ms ih =>
    cases as with
    | nil => cases h
    | cons a as =>
      have hshort : ms.length ≤ as.length := Nat.le_of_succ_le_succ h
      have hstep : advance (subtract (m :: ms) (a :: as)) = subtract ms (next (a :: as) m) := by
        simp only [next, subtract_cons, subtract_nil_left, advance]
        split
        · rw [← subtract_append hshort, subtract_left_comm]
        · rw [subtract_append hshort]
      have hlength : ms.length ≤ (next (a :: as) m).length := by
        simp only [next, subtract_cons, subtract_nil_left, advance]
        split <;> simp <;> omega
      rw [List.length_cons, repeat_succ, hstep, ih hlength, List.foldl_cons]

/-! ## Registers -/

/-- The coefficients that a register holds, the highest first. -/
def coefficients (r : UInt32) : List Bool := (List.range 32).map r.toNat.testBit

theorem subtract_map (xs : List Nat) (f g : Nat → Bool) :
    subtract (xs.map f) (xs.map g) = xs.map fun i => f i ^^ g i := by
  induction xs with
  | nil => rfl
  | cons x xs ih => simp [ih]

theorem coefficients_xor (r s : UInt32) :
    coefficients (r ^^^ s) = subtract (coefficients s) (coefficients r) := by
  have hbits : (r ^^^ s).toNat.testBit = fun i => s.toNat.testBit i ^^ r.toNat.testBit i := by
    funext i
    rw [UInt32.toNat_xor, Nat.testBit_xor, Bool.xor_comm]
  rw [coefficients, coefficients, coefficients, subtract_map, hbits]

theorem coefficients_cons (r : UInt32) :
    coefficients r = r.toNat.testBit 0 :: (List.range 31).map (r.toNat / 2).testBit := by
  rw [coefficients, List.range_succ_eq_map, List.map_cons, List.map_map]
  exact congrArg _ (List.map_congr_left fun i _ => Nat.testBit_succ _ _)

theorem coefficients_half (r : UInt32) :
    coefficients (r >>> 1) = (List.range 31).map (r.toNat / 2).testBit ++ [false] := by
  have hvalue : (r >>> 1).toNat = r.toNat / 2 := by simp [UInt32.toNat_shiftRight, Nat.shiftRight_one]
  have htop : (r.toNat / 2).testBit 31 = false := by
    have hbound := r.toNat_lt
    exact Nat.testBit_lt_two_pow (by omega)
  rw [coefficients, hvalue, List.range_succ, List.map_append, List.map_cons, List.map_nil, htop]

/-- Shifting a bit out of the register is a step of the division. -/
theorem coefficients_shift (r : UInt32) : coefficients (shift r) = advance (coefficients r) := by
  have hlow : r &&& 1 = 1 ↔ r.toNat.testBit 0 = true := by
    rw [← UInt32.toNat_inj, UInt32.toNat_and, Nat.testBit_zero, decide_eq_true_eq]
    exact iff_of_eq (congrArg (· = 1) (Nat.and_one_is_mod _))
  have hgenerator : coefficients 0xEDB88320 = generator := by decide +kernel
  rw [coefficients_cons r, advance, ← coefficients_half, shift]
  simp only [hlow]
  split
  · rw [coefficients_xor, hgenerator]
  · rfl

theorem coefficients_repeat (n : Nat) (r : UInt32) :
    coefficients (Nat.repeat shift n r) = Nat.repeat advance n (coefficients r) := by
  induction n with
  | zero => rfl
  | succ n ih => rw [Nat.repeat, coefficients_shift, ih, Nat.repeat]

theorem coefficients_byte (b : UInt8) :
    coefficients b.toUInt32 = (List.range 8).map b.toNat.testBit ++ List.replicate 24 false := by
  have hhigh : ∀ i, b.toNat.testBit (8 + i) = false := by
    intro i
    have hpower : 2 ^ 8 ≤ 2 ^ (8 + i) := Nat.pow_le_pow_right (by decide) (Nat.le_add_right 8 i)
    exact Nat.testBit_lt_two_pow (Nat.lt_of_lt_of_le b.toNat_lt hpower)
  have hrest : ((List.range 24).map (8 + ·)).map b.toNat.testBit = List.replicate 24 false := by
    rw [List.map_map, List.eq_replicate_iff]
    simp [hhigh]
  rw [coefficients, UInt8.toNat_toUInt32, show 32 = 8 + 24 from rfl, List.range_add, List.map_append, hrest]

theorem length_coefficients (r : UInt32) : (coefficients r).length = 32 := by
  simp [coefficients]

theorem coefficients_feed (r : UInt32) (b : UInt8) :
    coefficients (feed r b) = ((List.range 8).map b.toNat.testBit).foldl next (coefficients r) := by
  have hshort : ((List.range 8).map b.toNat.testBit).length ≤ (coefficients r).length := by
    simp [length_coefficients]
  rw [feed, coefficients_repeat, coefficients_xor, coefficients_byte, subtract_append_zeros,
    ← repeat_advance _ hshort]
  simp

theorem coefficients_foldl (bs : Bytes) (r : UInt32) :
    coefficients (bs.foldl feed r) = (sent bs).foldl next (coefficients r) := by
  induction bs generalizing r with
  | nil => rfl
  | cons b bs ih => rw [List.foldl_cons, ih, coefficients_feed, sent, sent, List.flatMap_cons, List.foldl_append]

/-- A register is the number that its coefficients are the bits of. -/
theorem ofBits_map_testBit (n value : Nat) :
    ofBits ((List.range n).map value.testBit) = value % 2 ^ n := by
  induction n generalizing value with
  | zero => simp [ofBits, Nat.mod_one]
  | succ n ih =>
    have htail : (List.range n).map (value.testBit ∘ Nat.succ) = (List.range n).map (value / 2).testBit :=
      List.map_congr_left fun i _ => Nat.testBit_succ _ _
    have hbits := ih (value / 2)
    simp only [ofBits] at hbits
    rw [List.range_succ_eq_map, List.map_cons, List.map_map, htail, ofBits, List.foldr_cons, hbits,
      Nat.pow_succ, Nat.mul_comm (2 ^ n) 2, Nat.mod_mul, Nat.testBit_zero]
    rcases Nat.mod_two_eq_zero_or_one value with hlow | hlow <;> simp [hlow]

/-- Both ways to compute a checksum give the same. -/
theorem byDivision_eq (bs : Bytes) : byDivision bs = value bs := by
  have hones : coefficients 0xFFFFFFFF = List.replicate 32 true := by decide +kernel
  have hremainder : remainder bs = coefficients (bs.foldl feed 0xFFFFFFFF) := by
    rw [remainder, divide_subtract _ List.length_replicate, coefficients_foldl, hones]
  have hinverted : (remainder bs).map (!·) = coefficients (checksum bs) := by
    rw [hremainder, checksum, coefficients_xor, hones, ← subtract_ones, length_coefficients]
  rw [byDivision, hinverted, coefficients, ofBits_map_testBit, value]
  exact Nat.mod_eq_of_lt (UInt32.toNat_lt _)

-- The check value of this polynomial, which is the checksum of the digits from 1 to 9.
example : byDivision [0x31, 0x32, 0x33, 0x34, 0x35, 0x36, 0x37, 0x38, 0x39] = 0xCBF43926 := by
  decide +kernel

end ReleaseBundle.Crc32
