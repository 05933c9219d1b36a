import Mathlib.Data.List.Induction
import Mathlib.Data.Nat.Find
import Mathlib.Data.Nat.NthRoot.Defs
import Mathlib.Data.Nat.Prime.Defs
import ReleaseBundle.Proofs.Digest.Streaming

/-!
# SHA-256 by its definition

The digest of a message as it is defined: the whole message is padded, its words and blocks are taken out of
it by number, the message schedule is a recurrence, and the constants are digits of the roots of primes.
Nothing is cut off a message here, nothing is kept while it is read, and words are bit vectors. A message is
hashed to what is defined: the words of a block go through the same rounds, block by block the words agree,
and the padding ends the last block.
-/

namespace ReleaseBundle.Sha256

namespace Standard

abbrev Word := BitVec 32

/-! ## Functions of words -/

def choice (x y z : Word) : Word := (x &&& y) ^^^ (~~~x &&& z)

def majority (x y z : Word) : Word := (x &&& y) ^^^ (x &&& z) ^^^ (y &&& z)

def bigSigma0 (x : Word) : Word := x.rotateRight 2 ^^^ x.rotateRight 13 ^^^ x.rotateRight 22

def bigSigma1 (x : Word) : Word := x.rotateRight 6 ^^^ x.rotateRight 11 ^^^ x.rotateRight 25

def smallSigma0 (x : Word) : Word := x.rotateRight 7 ^^^ x.rotateRight 18 ^^^ x >>> 3

def smallSigma1 (x : Word) : Word := x.rotateRight 17 ^^^ x.rotateRight 19 ^^^ x >>> 10

/-! ## Constants -/

/-- The first 32 bits behind the point of a root of a number. -/
def fraction (degree n : Nat) : Word := BitVec.ofNat 32 (Nat.nthRoot degree (n * 2 ^ (32 * degree)))

/-- The first 64 primes. -/
def primes : List Nat := (List.range 312).filter fun n => n.Prime

/-- The constant of a round. -/
def constant (t : Nat) : Word := fraction 3 (primes.getD t 0)

/-- The eight words that a block goes through. -/
structure Variables where
  a : Word
  b : Word
  c : Word
  d : Word
  e : Word
  f : Word
  g : Word
  h : Word
  deriving DecidableEq

/-- The words before the first block. -/
def initial : Variables :=
  ⟨fraction 2 2, fraction 2 3, fraction 2 5, fraction 2 7, fraction 2 11, fraction 2 13, fraction 2 17,
    fraction 2 19⟩

/-! ## Padding -/

theorem exists_zeros (length : Nat) : ∃ k, (length + 1 + k) % 64 = 56 :=
  ⟨(119 - length % 64) % 64, by omega⟩

/-- How many zeros follow the set bit: as few as leave eight bytes to the end of a block. -/
def zeros (length : Nat) : Nat := Nat.find (exists_zeros length)

/-- The message, a set bit, zeros, and the number of its bits as a word of 64 bits. -/
def padded (message : Bytes) : Bytes :=
  message ++ 0x80 :: (List.replicate (zeros message.length) 0 ++
    (List.range 8).map fun i => UInt8.ofNat (8 * message.length / 256 ^ (7 - i)))

/-! ## Blocks -/

/-- A word of a message, which has four bytes, the highest first. -/
def word (m : Bytes) (n : Nat) : Word :=
  (m.getD (4 * n) 0).toBitVec ++ (m.getD (4 * n + 1) 0).toBitVec ++ (m.getD (4 * n + 2) 0).toBitVec ++
    (m.getD (4 * n + 3) 0).toBitVec

/-- The words that a block puts into its rounds. -/
def schedule (block : Nat → Word) (t : Nat) : Word :=
  if t < 16 then block t
  else
    smallSigma1 (schedule block (t - 2)) + schedule block (t - 7) + smallSigma0 (schedule block (t - 15)) +
      schedule block (t - 16)
termination_by t
decreasing_by all_goals omega

theorem schedule_of_lt (block : Nat → Word) {t : Nat} (ht : t < 16) : schedule block t = block t := by
  rw [schedule, if_pos ht]

theorem schedule_of_ge (block : Nat → Word) {t : Nat} (ht : 16 ≤ t) :
    schedule block t =
      smallSigma1 (schedule block (t - 2)) + schedule block (t - 7) + smallSigma0 (schedule block (t - 15)) +
        schedule block (t - 16) := by
  rw [schedule, if_neg (by omega)]

/-- One round. -/
def round (v : Variables) (k w : Word) : Variables :=
  let first := v.h + bigSigma1 v.e + choice v.e v.f v.g + k + w
  let second := bigSigma0 v.a + majority v.a v.b v.c
  ⟨first + second, v.a, v.b, v.c, v.d + first, v.e, v.f, v.g⟩

/-- The words after the first rounds of a block. -/
def rounds (v : Variables) (w : Nat → Word) : Nat → Variables
  | 0 => v
  | t + 1 => round (rounds v w t) (constant t) (w t)

/-- The words after a block. -/
def compress (v : Variables) (block : Nat → Word) : Variables :=
  let r := rounds v (schedule block) 64
  ⟨v.a + r.a, v.b + r.b, v.c + r.c, v.d + r.d, v.e + r.e, v.f + r.f, v.g + r.g, v.h + r.h⟩

/-- The words after the first blocks of a message. -/
def hash (v : Variables) (m : Bytes) : Nat → Variables
  | 0 => v
  | i + 1 => compress (hash v m i) fun j => word m (16 * i + j)

/-- The bytes of a word, the highest first. -/
def bytesOf (x : Word) : Bytes := [24, 16, 8, 0].map fun low => UInt8.ofBitVec (x.extractLsb' low 8)

/-- The digest of a message. -/
def digest (message : Bytes) : Bytes :=
  let m := padded message
  let v := hash initial m (m.length / 64)
  [v.a, v.b, v.c, v.d, v.e, v.f, v.g, v.h].flatMap bytesOf

end Standard

/-! ## Words -/

theorem rotate_toBitVec (x n : UInt32) (hpos : 0 < n.toNat) (hlt : n.toNat < 32) :
    (rotate x n).toBitVec = x.toBitVec.rotateRight n.toNat := by
  have hleft : (32 - n).toNat = 32 - n.toNat :=
    UInt32.toNat_sub_of_le 32 n (UInt32.le_iff_toNat_le.2 (Nat.le_of_lt hlt))
  have hwidth : (32 : BitVec 32).toNat = 32 := rfl
  rw [BitVec.rotateRight_def, Nat.mod_eq_of_lt hlt, rotate, UInt32.toBitVec_or, UInt32.toBitVec_shiftRight,
    UInt32.toBitVec_shiftLeft, BitVec.ushiftRight_eq', BitVec.shiftLeft_eq']
  simp only [BitVec.toNat_umod, UInt32.toNat_toBitVec, hleft, hwidth]
  rw [Nat.mod_eq_of_lt hlt, Nat.mod_eq_of_lt (by omega)]

/-- Four bytes that are shifted to their places are a word. -/
theorem word_of_bytes (p q r s : UInt8) :
    (p.toUInt32 <<< 24 ||| q.toUInt32 <<< 16 ||| r.toUInt32 <<< 8 ||| s.toUInt32).toBitVec =
      (p.toBitVec ++ q.toBitVec ++ r.toBitVec ++ s.toBitVec : Standard.Word) := by
  have hshift : (p.toUInt32 <<< 24 ||| q.toUInt32 <<< 16 ||| r.toUInt32 <<< 8 ||| s.toUInt32).toBitVec =
      p.toBitVec.setWidth 32 <<< 24 ||| q.toBitVec.setWidth 32 <<< 16 ||| r.toBitVec.setWidth 32 <<< 8 |||
        s.toBitVec.setWidth 32 := rfl
  apply BitVec.eq_of_getLsbD_eq
  intro i hi
  have hwidth : i < 32 := hi
  simp only [hshift, BitVec.getLsbD_or, BitVec.getLsbD_shiftLeft, BitVec.getLsbD_setWidth,
    BitVec.getLsbD_append, hwidth]
  -- a bit belongs to one of the bytes, and is not set in any other
  obtain h | ⟨h, h'⟩ | ⟨h, h'⟩ | h : i < 8 ∨ (8 ≤ i ∧ i < 16) ∨ (16 ≤ i ∧ i < 24) ∨ 24 ≤ i := by omega
  all_goals
    simp (disch := omega) only [if_pos, if_neg, decide_true, decide_eq_true, decide_eq_false,
      BitVec.getLsbD_of_ge, Nat.sub_sub, Nat.reduceAdd, Bool.and_true, Bool.true_and, Bool.false_and,
      Bool.and_false, Bool.not_true, Bool.not_false, Bool.or_false, Bool.false_or]

theorem length_wordsOf (m : Bytes) : (wordsOf m).length = m.length / 4 := by
  induction m using wordsOf.induct with
  | case1 p q r s rest ih =>
    rw [wordsOf, List.length_cons, ih]
    simp only [List.length_cons]
    omega
  | case2 m hshort =>
    rw [wordsOf, List.length_nil]
    · match m with
      | [] | [_] | [_, _] | [_, _, _] => simp
      | p :: q :: r :: s :: rest => exact absurd rfl (hshort p q r s rest)
    · exact hshort

theorem wordsOf_getD (m : Bytes) (n : Nat) (hn : 4 * n + 3 < m.length) :
    ((wordsOf m).getD n 0).toBitVec = Standard.word m n := by
  induction n generalizing m with
  | zero =>
    match m with
    | p :: q :: r :: s :: rest => exact word_of_bytes p q r s
  | succ n ih =>
    match m with
    | p :: q :: r :: s :: rest =>
      simp only [List.length_cons] at hn
      have hrest := ih rest (by omega)
      rw [wordsOf, List.getD_cons_succ, hrest]
      rfl

/-- The words of a hash, as bit vectors. -/
def Words.variables (s : Words) : Standard.Variables :=
  ⟨s.a.toBitVec, s.b.toBitVec, s.c.toBitVec, s.d.toBitVec, s.e.toBitVec, s.f.toBitVec, s.g.toBitVec,
    s.h.toBitVec⟩

theorem bigSigma0_toBitVec (x : UInt32) :
    (rotate x 2 ^^^ rotate x 13 ^^^ rotate x 22).toBitVec = Standard.bigSigma0 x.toBitVec := by
  simp only [UInt32.toBitVec_xor, rotate_toBitVec x 2 (by decide) (by decide),
    rotate_toBitVec x 13 (by decide) (by decide), rotate_toBitVec x 22 (by decide) (by decide)]
  rfl

theorem bigSigma1_toBitVec (x : UInt32) :
    (rotate x 6 ^^^ rotate x 11 ^^^ rotate x 25).toBitVec = Standard.bigSigma1 x.toBitVec := by
  simp only [UInt32.toBitVec_xor, rotate_toBitVec x 6 (by decide) (by decide),
    rotate_toBitVec x 11 (by decide) (by decide), rotate_toBitVec x 25 (by decide) (by decide)]
  rfl

theorem smallSigma0_toBitVec (x : UInt32) :
    (rotate x 7 ^^^ rotate x 18 ^^^ x >>> 3).toBitVec = Standard.smallSigma0 x.toBitVec := by
  simp only [UInt32.toBitVec_xor, rotate_toBitVec x 7 (by decide) (by decide),
    rotate_toBitVec x 18 (by decide) (by decide)]
  rfl

theorem smallSigma1_toBitVec (x : UInt32) :
    (rotate x 17 ^^^ rotate x 19 ^^^ x >>> 10).toBitVec = Standard.smallSigma1 x.toBitVec := by
  simp only [UInt32.toBitVec_xor, rotate_toBitVec x 17 (by decide) (by decide),
    rotate_toBitVec x 19 (by decide) (by decide)]
  rfl

/-! ## Blocks -/

/-- The array holds the first words of a message schedule, at least those of the block itself. -/
structure Scheduled (block : Nat → Standard.Word) (w : Array UInt32) : Prop where
  size : 16 ≤ w.size
  word : ∀ t < w.size, (w.getD t 0).toBitVec = Standard.schedule block t

theorem Scheduled.extend {block : Nat → Standard.Word} {w : Array UInt32} (h : Scheduled block w) :
    Scheduled block (Sha256.extend w) where
  size := by
    rw [Sha256.extend, Array.size_push]
    exact Nat.le_succ_of_le h.size
  word := by
    have hsize := h.size
    intro t ht
    rw [Sha256.extend, Array.size_push] at ht
    rcases Nat.lt_succ_iff_lt_or_eq.1 ht with hold | rfl
    · rw [← h.word t hold]
      simp [Sha256.extend, Array.getD, hold, Nat.lt_succ_of_lt hold, Array.getElem_push_lt]
    · have hnew : (Sha256.extend w).getD w.size 0 =
          w.getD (w.size - 16) 0 +
            (rotate (w.getD (w.size - 15) 0) 7 ^^^ rotate (w.getD (w.size - 15) 0) 18 ^^^
              w.getD (w.size - 15) 0 >>> 3) +
            w.getD (w.size - 7) 0 +
            (rotate (w.getD (w.size - 2) 0) 17 ^^^ rotate (w.getD (w.size - 2) 0) 19 ^^^
              w.getD (w.size - 2) 0 >>> 10) := by
        simp [Sha256.extend, Array.getD]
      rw [hnew, Standard.schedule_of_ge block hsize, ← h.word _ (by omega), ← h.word _ (by omega),
        ← h.word _ (by omega), ← h.word _ (by omega), UInt32.toBitVec_add, UInt32.toBitVec_add,
        UInt32.toBitVec_add, smallSigma0_toBitVec, smallSigma1_toBitVec]
      ac_rfl

theorem scheduled_repeat {block : Nat → Standard.Word} {w : Array UInt32} (h : Scheduled block w) (n : Nat) :
    Scheduled block (Nat.repeat extend n w) ∧ (Nat.repeat extend n w).size = w.size + n := by
  induction n with
  | zero => exact ⟨h, rfl⟩
  | succ n ih =>
    refine ⟨ih.1.extend, ?_⟩
    rw [Nat.repeat, extend, Array.size_push, ih.2, Nat.add_assoc]

/-- The message schedule of a block is the one that is defined. -/
theorem scheduled_schedule {block : Bytes} (hblock : block.length = 64) :
    Scheduled (Standard.word block) (schedule block) ∧ (schedule block).size = 64 := by
  have hsize : (wordsOf block).toArray.size = 16 := by
    rw [List.size_toArray, length_wordsOf, hblock]
  have hstart : Scheduled (Standard.word block) (wordsOf block).toArray := by
    refine ⟨by omega, fun t ht => ?_⟩
    have hword := wordsOf_getD block t (by omega)
    rw [Standard.schedule_of_lt _ (by omega), ← hword]
    simp only [List.size_toArray] at ht
    simp [Array.getD, ht]
  have hall := scheduled_repeat hstart 48
  rw [hsize] at hall
  exact hall

theorem round_variables (s : Words) (k w : UInt32) :
    (round s (k, w)).variables = Standard.round s.variables k.toBitVec w.toBitVec := by
  simp only [round, Standard.round, Words.variables, UInt32.toBitVec_add, bigSigma0_toBitVec,
    bigSigma1_toBitVec]
  rfl

/-- The rounds are the first ones of a block whose schedule is `w`. -/
theorem rounds_variables {w : Nat → Standard.Word} (s : Words) (l : List (UInt32 × UInt32))
    (h : ∀ t (ht : t < l.length), l[t].1.toBitVec = Standard.constant t ∧ l[t].2.toBitVec = w t) :
    (l.foldl round s).variables = Standard.rounds s.variables w l.length := by
  induction l using List.reverseRecOn with
  | nil => rfl
  | append_singleton l kw ih =>
    have hbefore : ∀ t (ht : t < l.length), l[t].1.toBitVec = Standard.constant t ∧ l[t].2.toBitVec = w t := by
      intro t ht
      have hin := h t (by simp; omega)
      rwa [List.getElem_append_left ht] at hin
    have hlast := h l.length (by simp)
    rw [List.getElem_append_right (Nat.le_refl _)] at hlast
    simp only [Nat.sub_self, List.getElem_cons_zero] at hlast
    rw [List.foldl_append, List.foldl_cons, List.foldl_nil, round_variables, ih hbefore, hlast.1, hlast.2,
      List.length_append]
    rfl

/-- A small number that is no prime has a small divisor. -/
theorem prime_iff {n : Nat} (hn : n < 312) :
    n.Prime ↔ 2 ≤ n ∧ ∀ m < 18, 2 ≤ m → m ∣ n → m = n := by
  constructor
  · intro hprime
    exact ⟨hprime.two_le, fun m _ hm hdvd => (Nat.dvd_prime_two_le hprime hm).1 hdvd⟩
  · rintro ⟨htwo, hnone⟩
    by_contra hnot
    have hfactor : n.minFac.Prime := Nat.minFac_prime (by omega)
    have hsquare : n.minFac ^ 2 ≤ n := Nat.minFac_sq_le_self (by omega) hnot
    have hsmall : n.minFac < 18 := by
      by_contra hlarge
      have : 18 ^ 2 ≤ n.minFac ^ 2 := Nat.pow_le_pow_left (by omega) 2
      omega
    have hself := hnone n.minFac hsmall hfactor.two_le (Nat.minFac_dvd n)
    exact hnot (hself ▸ hfactor)

theorem primes_eq : Standard.primes =
    (List.range 312).filter fun n => 2 ≤ n ∧ ∀ m < 18, 2 ≤ m → m ∣ n → m = n :=
  List.filter_congr fun n hn => by simp only [prime_iff (List.mem_range.1 hn)]

theorem constants_eq : constants.map UInt32.toBitVec = Standard.primes.map (Standard.fraction 3) := by
  rw [primes_eq]
  decide +kernel

theorem constants_getElem (t : Nat) (ht : t < constants.length) :
    constants[t].toBitVec = Standard.constant t := by
  have hlength : constants.length = Standard.primes.length := by
    simpa using congrArg List.length constants_eq
  have hat := congrArg (·[t]?) constants_eq
  simp only [List.getElem?_map, List.getElem?_eq_getElem ht, List.getElem?_eq_getElem (hlength ▸ ht),
    Option.map_some, Option.some.injEq] at hat
  rw [hat, Standard.constant, List.getD_eq_getElem?_getD, List.getElem?_eq_getElem (hlength ▸ ht),
    Option.getD_some]

/-- A block is hashed as it is defined. -/
theorem compress_variables (s : Words) {block : Bytes} (hblock : block.length = 64) :
    (compress s block).variables = Standard.compress s.variables (Standard.word block) := by
  obtain ⟨hschedule, hsize⟩ := scheduled_schedule hblock
  have hwords : (schedule block).toList.length = 64 := by rw [Array.length_toList, hsize]
  have hlength : (constants.zip (schedule block).toList).length = 64 := by
    rw [List.length_zip, hwords]
    rfl
  have hrounds := rounds_variables (w := Standard.schedule (Standard.word block)) s
    (constants.zip (schedule block).toList) fun t ht => by
      have hword := hschedule.word t (by omega)
      rw [List.getElem_zip]
      refine ⟨constants_getElem t _, ?_⟩
      rw [← hword, Array.getElem_toList]
      simp [Array.getD, show t < (schedule block).size by omega]
  rw [hlength] at hrounds
  simp only [compress, Standard.compress, ← hrounds]
  generalize (constants.zip (schedule block).toList).foldl round s = r
  rfl

/-! ## Messages -/

theorem getD_drop (m : Bytes) (n k : Nat) : (m.drop n).getD k 0 = m.getD (n + k) 0 := by
  simp only [List.getD_eq_getElem?_getD, List.getElem?_drop]

theorem getD_take (m : Bytes) {n k : Nat} (hk : k < n) : (m.take n).getD k 0 = m.getD k 0 := by
  simp only [List.getD_eq_getElem?_getD, List.getElem?_take_of_lt hk]

theorem word_drop (m : Bytes) (n : Nat) : Standard.word (m.drop 64) n = Standard.word m (16 + n) := by
  simp only [Standard.word, getD_drop, Nat.mul_add, Nat.add_assoc, Nat.reduceMul]

theorem word_take (m : Bytes) {n : Nat} (hn : n < 16) :
    Standard.word (m.take 64) n = Standard.word m n := by
  simp only [Standard.word]
  rw [getD_take m (by omega), getD_take m (by omega), getD_take m (by omega), getD_take m (by omega)]

/-- Only sixteen words of a block are used. -/
theorem schedule_congr {block block' : Nat → Standard.Word} (h : ∀ n < 16, block n = block' n) (t : Nat) :
    Standard.schedule block t = Standard.schedule block' t := by
  induction t using Nat.strongRecOn with
  | ind t ih =>
    rcases Nat.lt_or_ge t 16 with hfirst | hlater
    · rw [Standard.schedule_of_lt _ hfirst, Standard.schedule_of_lt _ hfirst, h t hfirst]
    · rw [Standard.schedule_of_ge _ hlater, Standard.schedule_of_ge _ hlater, ih (t - 2) (by omega),
        ih (t - 7) (by omega), ih (t - 15) (by omega), ih (t - 16) (by omega)]

theorem compress_take (v : Standard.Variables) (m : Bytes) :
    Standard.compress v (Standard.word (m.take 64)) = Standard.compress v (Standard.word m) := by
  have hschedule : Standard.schedule (Standard.word (m.take 64)) = Standard.schedule (Standard.word m) :=
    funext (schedule_congr fun _ hn => word_take m hn)
  rw [Standard.compress, hschedule]
  rfl

/-- The blocks of a message are its first one and the blocks of the rest. -/
theorem hash_succ (v : Standard.Variables) (m : Bytes) (n : Nat) :
    Standard.hash v m (n + 1) =
      Standard.hash (Standard.compress v (Standard.word m)) (m.drop 64) n := by
  induction n with
  | zero => simp [Standard.hash]
  | succ n ih =>
    rw [Standard.hash, ih, Standard.hash]
    congr 1
    funext j
    rw [word_drop]
    congr 1
    omega

theorem absorb_variables (s : Words) (m : Bytes) :
    (absorb s m).1.variables = Standard.hash s.variables m (m.length / 64) := by
  induction s, m using absorb.induct with
  | case1 s m hshort =>
    have hlength : m.length < 64 := by
      have := congrArg List.length hshort
      simp only [List.length_drop, List.length_nil] at this
      omega
    rw [absorb_of_short s hlength, Nat.div_eq_of_lt hlength]
    rfl
  | case2 s m byte rest hfull ih =>
    have hlength : 64 ≤ m.length := by
      have := congrArg List.length hfull
      simp only [List.length_drop, List.length_cons] at this
      omega
    have hrest : rest = m.drop 64 := by
      have := congrArg (List.drop 1) hfull
      simpa using this.symm
    subst hrest
    have hblocks : m.length / 64 = (m.drop 64).length / 64 + 1 := by
      rw [List.length_drop]
      omega
    rw [absorb_of_full s hlength, ih, compress_variables s (by simp; omega), hblocks, hash_succ,
      compress_take]

/-! ## Padding -/

theorem zeros_eq (length : Nat) : Standard.zeros length = (119 - length % 64) % 64 := by
  rw [Standard.zeros, Nat.find_eq_iff]
  refine ⟨by omega, fun k hk => ?_⟩
  omega

/-- The digits of a number, the highest first. -/
theorem reverse_littleEndian (width value : Nat) :
    (Bytes.littleEndian width value).reverse =
      (List.range width).map fun i => UInt8.ofNat (value / 256 ^ (width - 1 - i)) := by
  induction width generalizing value with
  | zero => rfl
  | succ width ih =>
    have hfront : ∀ i ∈ List.range width, UInt8.ofNat (value / 256 / 256 ^ (width - 1 - i)) =
        UInt8.ofNat (value / 256 ^ (width + 1 - 1 - i)) := by
      intro i hi
      have hless := List.mem_range.1 hi
      rw [Nat.div_div_eq_div_mul, ← Nat.pow_succ', show (width - 1 - i).succ = width + 1 - 1 - i by omega]
    have hlast : UInt8.ofNat (value % 256) = UInt8.ofNat (value / 256 ^ (width + 1 - 1 - width)) := by
      rw [Nat.add_sub_cancel, Nat.sub_self, Nat.pow_zero, Nat.div_one]
      exact UInt8.ofNat_mod_size
    rw [Bytes.littleEndian, List.reverse_cons, ih, List.range_succ, List.map_append,
      List.map_congr_left hfront, hlast]
    rfl

theorem padded_eq (message : Bytes) : Standard.padded message = message ++ padding message.length := by
  rw [Standard.padded, padding, zeros_eq, reverse_littleEndian]

theorem initial_variables : initial.variables = Standard.initial := by decide +kernel

/-- A message is hashed as it is defined. -/
theorem digest_eq (message : Bytes) : digest message = Standard.digest message := by
  have hhash := absorb_variables initial (Standard.padded message)
  rw [initial_variables] at hhash
  rw [Standard.digest, digest, ← padded_eq, ← hhash]
  rfl

end ReleaseBundle.Sha256
