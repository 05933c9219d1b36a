import ReleaseBundle.Proofs.Bytes.Utf8

/-!
# Reading what was written

Text that is written as bytes is read back as it was. The first byte of a character tells how many follow
it, and none of the bytes that follow is out of the range that the first one allows: a character that
needs as many bytes as it is written with is not overlong, and there are no surrogates among characters.
-/

namespace ReleaseBundle.Text

variable {c : Char} {rest : Bytes}

theorem toNat_ofNat_of_lt {n : Nat} (h : n < 256) : (UInt8.ofNat n).toNat = n := by
  simp [Nat.mod_eq_of_lt h]

theorem ofNat_toNat_eq {n : Nat} (h : n = c.toNat) : Char.ofNat n = c := by
  rw [h, Char.ofNat_toNat]

/-- A continuation byte in its range gives its six bits. -/
theorem continuation?_ofNat {low high x : Nat} (hx : x < 64) (hlow : low ≤ 0x80 + x)
    (hhigh : 0x80 + x ≤ high) : continuation? low high (UInt8.ofNat (0x80 + x)) = some x := by
  have hbyte : (UInt8.ofNat (0x80 + x)).toNat = 0x80 + x := toNat_ofNat_of_lt (by omega)
  rw [continuation?_eq_some_iff, hbyte]
  omega

/-- The numbers that characters have. -/
theorem toNat_bounds (c : Char) : c.toNat < 0xD800 ∨ 0xDFFF < c.toNat ∧ c.toNat < 0x110000 := c.valid

theorem secondRange_three {n : Nat} (hmore : 0x800 ≤ n) (hmost : n < 0x10000)
    (hvalid : n < 0xD800 ∨ 0xDFFF < n) :
    (secondRange (0xE0 + n / 4096)).1 ≤ 0x80 + n / 64 % 64 ∧
      0x80 + n / 64 % 64 ≤ (secondRange (0xE0 + n / 4096)).2 := by
  unfold secondRange
  split
  · constructor <;> simp only <;> omega
  · split
    · constructor <;> simp only <;> omega
    · rw [if_neg (by omega), if_neg (by omega)]
      constructor <;> simp only <;> omega

theorem secondRange_four {n : Nat} (hmore : 0x10000 ≤ n) (hmost : n < 0x110000) :
    (secondRange (0xF0 + n / 262144)).1 ≤ 0x80 + n / 4096 % 64 ∧
      0x80 + n / 4096 % 64 ≤ (secondRange (0xF0 + n / 262144)).2 := by
  unfold secondRange
  rw [if_neg (by omega), if_neg (by omega)]
  split
  · constructor <;> simp only <;> omega
  · split
    · constructor <;> simp only <;> omega
    · constructor <;> simp only <;> omega

theorem next2_ofNat {n : Nat} (hmore : 0x80 ≤ n) (hnumber : n = c.toNat) :
    next2 (0xC0 + n / 64) (UInt8.ofNat (0x80 + n % 64) :: rest) = ⟨some c, rest⟩ := by
  have hsecond : continuation? 0x80 0xBF (UInt8.ofNat (0x80 + n % 64)) = some (n % 64) :=
    continuation?_ofNat (by omega) (by omega) (by omega)
  have hchar : Char.ofNat ((0xC0 + n / 64 - 0xC0) * 64 + n % 64) = c := ofNat_toNat_eq (by omega)
  simp only [next2, hsecond, hchar]

theorem next3_ofNat {n : Nat} (hmore : 0x800 ≤ n) (hmost : n < 0x10000) (hnumber : n = c.toNat) :
    next3 (0xE0 + n / 4096) (UInt8.ofNat (0x80 + n / 64 % 64) :: UInt8.ofNat (0x80 + n % 64) :: rest) =
      ⟨some c, rest⟩ := by
  have hvalid := toNat_bounds c
  obtain ⟨hlow, hhigh⟩ := secondRange_three hmore hmost (by omega)
  have hsecond := continuation?_ofNat (by omega) hlow hhigh
  have hthird : continuation? 0x80 0xBF (UInt8.ofNat (0x80 + n % 64)) = some (n % 64) :=
    continuation?_ofNat (by omega) (by omega) (by omega)
  have hchar : Char.ofNat ((0xE0 + n / 4096 - 0xE0) * 4096 + n / 64 % 64 * 64 + n % 64) = c :=
    ofNat_toNat_eq (by omega)
  simp only [next3, hsecond, hthird, hchar]

theorem next4_ofNat {n : Nat} (hmore : 0x10000 ≤ n) (hnumber : n = c.toNat) :
    next4 (0xF0 + n / 262144) (UInt8.ofNat (0x80 + n / 4096 % 64) ::
      UInt8.ofNat (0x80 + n / 64 % 64) :: UInt8.ofNat (0x80 + n % 64) :: rest) = ⟨some c, rest⟩ := by
  have hvalid := toNat_bounds c
  obtain ⟨hlow, hhigh⟩ := secondRange_four hmore (by omega)
  have hsecond := continuation?_ofNat (by omega) hlow hhigh
  have hthird : continuation? 0x80 0xBF (UInt8.ofNat (0x80 + n / 64 % 64)) = some (n / 64 % 64) :=
    continuation?_ofNat (by omega) (by omega) (by omega)
  have hfourth : continuation? 0x80 0xBF (UInt8.ofNat (0x80 + n % 64)) = some (n % 64) :=
    continuation?_ofNat (by omega) (by omega) (by omega)
  have hchar : Char.ofNat ((0xF0 + n / 262144 - 0xF0) * 262144 + n / 4096 % 64 * 4096 +
      n / 64 % 64 * 64 + n % 64) = c := ofNat_toNat_eq (by omega)
  simp only [next4, hsecond, hthird, hfourth, hchar]

/-- The bytes of a character are read as that character. -/
theorem next_encodeChar (c : Char) (rest : Bytes) :
    ∃ b bs, encodeChar c ++ rest = b :: bs ∧ next b bs = ⟨some c, rest⟩ := by
  have hvalid := toNat_bounds c
  generalize hnumber : c.toNat = n at hvalid
  simp only [encodeChar, hnumber]
  split
  · next hone =>
    have hfirst : (UInt8.ofNat n).toNat = n := toNat_ofNat_of_lt (by omega)
    refine ⟨UInt8.ofNat n, rest, rfl, ?_⟩
    simp only [next, hfirst, if_pos hone, ofNat_toNat_eq hnumber.symm]
  · next hone =>
    split
    · next htwo =>
      have hfirst : (UInt8.ofNat (0xC0 + n / 64)).toNat = 0xC0 + n / 64 := toNat_ofNat_of_lt (by omega)
      refine ⟨_, UInt8.ofNat (0x80 + n % 64) :: rest, rfl, ?_⟩
      simp only [next, hfirst]
      rw [if_neg (by omega), if_neg (by omega), if_pos (by omega)]
      exact next2_ofNat (by omega) hnumber.symm
    · next htwo =>
      split
      · next hthree =>
        have hfirst : (UInt8.ofNat (0xE0 + n / 4096)).toNat = 0xE0 + n / 4096 :=
          toNat_ofNat_of_lt (by omega)
        refine ⟨_, UInt8.ofNat (0x80 + n / 64 % 64) :: UInt8.ofNat (0x80 + n % 64) :: rest, rfl, ?_⟩
        simp only [next, hfirst]
        rw [if_neg (by omega), if_neg (by omega), if_neg (by omega), if_pos (by omega)]
        exact next3_ofNat (by omega) hthree hnumber.symm
      · next hthree =>
        have hfirst : (UInt8.ofNat (0xF0 + n / 262144)).toNat = 0xF0 + n / 262144 :=
          toNat_ofNat_of_lt (by omega)
        refine ⟨_, UInt8.ofNat (0x80 + n / 4096 % 64) :: UInt8.ofNat (0x80 + n / 64 % 64) ::
          UInt8.ofNat (0x80 + n % 64) :: rest, rfl, ?_⟩
        simp only [next, hfirst]
        rw [if_neg (by omega), if_neg (by omega), if_neg (by omega), if_neg (by omega),
          if_pos (by omega)]
        exact next4_ofNat (by omega) hnumber.symm

theorem decodeFrom_encode (sofar cs : List Char) :
    decodeFrom sofar (encode cs) = some (sofar.reverse ++ cs) := by
  induction cs generalizing sofar with
  | nil => simp [decodeFrom]
  | cons c cs ih =>
    obtain ⟨b, bs, hbytes, hnext⟩ := next_encodeChar c (encode cs)
    have hcons : encode (c :: cs) = b :: bs := hbytes
    rw [hcons, decodeFrom]
    simp only [hnext, ih (c :: sofar)]
    simp

/-- Text that is written is read back. -/
theorem decode?_encode_text (cs : List Char) : decode? (encode cs) = some cs := by
  unfold decode?
  simpa using decodeFrom_encode [] cs

theorem validFrom_encode (sofar cs : List Char) :
    validFrom sofar (encode cs) = (sofar.reverse ++ cs, []) := by
  induction cs generalizing sofar with
  | nil => simp [validFrom]
  | cons c cs ih =>
    obtain ⟨b, bs, hbytes, hnext⟩ := next_encodeChar c (encode cs)
    have hcons : encode (c :: cs) = b :: bs := hbytes
    rw [hcons, validFrom]
    simp only [hnext, ih (c :: sofar)]
    simp

/-- In text that is written nothing is malformed. -/
theorem splitValid_encode (cs : List Char) : splitValid (encode cs) = (cs, []) := by
  unfold splitValid
  simpa using validFrom_encode [] cs

/-- No two texts are written in the same way. -/
theorem ofString_injective {a b : String} (h : ofString a = ofString b) : a = b := by
  have hdecoded := congrArg decode? h
  rw [ofString, ofString, decode?_encode_text, decode?_encode_text, Option.some.injEq] at hdecoded
  exact String.toList_inj.1 hdecoded

end ReleaseBundle.Text
