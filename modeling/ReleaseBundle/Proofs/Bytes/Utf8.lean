import ReleaseBundle.Bytes.Text

/-!
# Reading and writing UTF-8

A character that is read is written with the bytes that it was read from, so text that is read from
bytes and written again gives the same bytes. The bounds on the second byte matter: they are what makes
the number that was read one that needs as many bytes as it had.
-/

namespace ReleaseBundle.Text

theorem toNat_ofNat {n : Nat} (h : n < 0xD800 ∨ 0xDFFF < n ∧ n < 0x110000) :
    (Char.ofNat n).toNat = n := by
  have hvalid : n.isValidChar := h
  rw [Char.ofNat, dif_pos hvalid]
  rfl

/-- A byte is the number it is made of. -/
theorem ofNat_eq {n : Nat} {b : UInt8} (h : n = b.toNat) : UInt8.ofNat n = b := by
  rw [h, UInt8.ofNat_toNat]

theorem continuation?_eq_some_iff {low high x : Nat} {b : UInt8} :
    continuation? low high b = some x ↔ (low ≤ b.toNat ∧ b.toNat ≤ high) ∧ x = b.toNat - 0x80 := by
  unfold continuation?
  split
  · next h => simp [h, eq_comm]
  · next h => simp [h]

variable {b : UInt8} {bs : Bytes} {c : Char} {first : Nat}

theorem encodeChar_next2 (hfirst : first = b.toNat) (hlow : 0xC2 ≤ first) (hhigh : first < 0xE0)
    (h : (next2 first bs).char = some c) : encodeChar c ++ (next2 first bs).rest = b :: bs := by
  unfold next2 at h ⊢
  split at h
  · next b₁ bs =>
    cases h₁ : continuation? 0x80 0xBF b₁ with
    | none => simp [h₁] at h
    | some x =>
      simp only [h₁, Option.some.injEq] at h
      subst h
      obtain ⟨hrange, hx⟩ := continuation?_eq_some_iff.1 h₁
      generalize hnumber : (first - 0xC0) * 64 + x = n
      have hsize : ¬ n < 0x80 ∧ n < 0x800 := by omega
      simp only [encodeChar, toNat_ofNat (n := n) (by omega), if_neg hsize.1,
        if_pos hsize.2]
      rw [ofNat_eq (b := b) (by omega), ofNat_eq (b := b₁) (by omega)]
      rfl
  · cases h

theorem secondRange_bounds (first : Nat) :
    0x80 ≤ (secondRange first).1 ∧ (secondRange first).2 ≤ 0xBF := by
  unfold secondRange
  repeat' split
  all_goals simp

theorem encodeChar_next3 (hfirst : first = b.toNat) (hlow : 0xE0 ≤ first) (hhigh : first < 0xF0)
    (h : (next3 first bs).char = some c) : encodeChar c ++ (next3 first bs).rest = b :: bs := by
  unfold next3 at h ⊢
  split at h
  · next b₁ bs =>
    cases h₁ : continuation? (secondRange first).1 (secondRange first).2 b₁ with
    | none => simp [h₁] at h
    | some x =>
      cases bs with
      | nil => simp [h₁] at h
      | cons b₂ bs =>
        cases h₂ : continuation? 0x80 0xBF b₂ with
        | none => simp [h₁, h₂] at h
        | some y =>
          simp only [h₁, h₂, Option.some.injEq] at h
          subst h
          obtain ⟨hrange₁, hx⟩ := continuation?_eq_some_iff.1 h₁
          obtain ⟨hrange₂, hy⟩ := continuation?_eq_some_iff.1 h₂
          have hbounds := secondRange_bounds first
          -- the first byte decides about overlong forms and surrogates
          generalize hnumber : (first - 0xE0) * 4096 + x * 64 + y = n
          have hsize : ¬ n < 0x800 ∧ n < 0x10000 ∧ (n < 0xD800 ∨ 0xDFFF < n ∧ n < 0x110000) := by
            unfold secondRange at hrange₁
            repeat' split at hrange₁
            all_goals simp only at hrange₁; omega
          have hmore : ¬ n < 0x80 := fun h => hsize.1 (Nat.lt_trans h (by decide))
          simp only [h₂, encodeChar, hnumber, toNat_ofNat hsize.2.2, if_neg hmore,
            if_neg hsize.1, if_pos hsize.2.1]
          rw [ofNat_eq (b := b) (by omega), ofNat_eq (b := b₁) (by omega),
            ofNat_eq (b := b₂) (by omega)]
          rfl
  · cases h

theorem encodeChar_next4 (hfirst : first = b.toNat) (hlow : 0xF0 ≤ first) (hhigh : first < 0xF5)
    (h : (next4 first bs).char = some c) : encodeChar c ++ (next4 first bs).rest = b :: bs := by
  unfold next4 at h ⊢
  split at h
  · next b₁ bs =>
    cases h₁ : continuation? (secondRange first).1 (secondRange first).2 b₁ with
    | none => simp [h₁] at h
    | some x =>
      cases bs with
      | nil => simp [h₁] at h
      | cons b₂ bs =>
        cases h₂ : continuation? 0x80 0xBF b₂ with
        | none => simp [h₁, h₂] at h
        | some y =>
          cases bs with
          | nil => simp [h₁, h₂] at h
          | cons b₃ bs =>
            cases h₃ : continuation? 0x80 0xBF b₃ with
            | none => simp [h₁, h₂, h₃] at h
            | some z =>
              simp only [h₁, h₂, h₃, Option.some.injEq] at h
              subst h
              obtain ⟨hrange₁, hx⟩ := continuation?_eq_some_iff.1 h₁
              obtain ⟨hrange₂, hy⟩ := continuation?_eq_some_iff.1 h₂
              obtain ⟨hrange₃, hz⟩ := continuation?_eq_some_iff.1 h₃
              have hbounds := secondRange_bounds first
              generalize hnumber : (first - 0xF0) * 262144 + x * 4096 + y * 64 + z = n
              have hsize : ¬ n < 0x10000 ∧ (n < 0xD800 ∨ 0xDFFF < n ∧ n < 0x110000) := by
                unfold secondRange at hrange₁
                repeat' split at hrange₁
                all_goals simp only at hrange₁; omega
              have hmore : ¬ n < 0x800 := fun h => hsize.1 (Nat.lt_trans h (by decide))
              have hmost : ¬ n < 0x80 := fun h => hmore (Nat.lt_trans h (by decide))
              simp only [h₂, h₃, encodeChar, hnumber, toNat_ofNat hsize.2, if_neg hmost,
                if_neg hmore, if_neg hsize.1]
              rw [ofNat_eq (b := b) (by omega), ofNat_eq (b := b₁) (by omega),
                ofNat_eq (b := b₂) (by omega), ofNat_eq (b := b₃) (by omega)]
              rfl
  · cases h

/-- A character is written with the bytes that it was read from. -/
theorem encodeChar_next (h : (next b bs).char = some c) :
    encodeChar c ++ (next b bs).rest = b :: bs := by
  simp only [next] at h ⊢
  split at h
  · next hascii =>
    simp only [Option.some.injEq] at h
    subst h
    simp only [if_pos hascii, encodeChar, toNat_ofNat (n := b.toNat) (by omega)]
    rw [ofNat_eq (b := b) rfl]
    rfl
  · next hnoAscii =>
    rw [if_neg hnoAscii]
    split at h
    · cases h
    · next hlow =>
      rw [if_neg hlow]
      split at h
      · next htwo => rw [if_pos htwo]; exact encodeChar_next2 rfl (by omega) htwo h
      · next htwo =>
        rw [if_neg htwo]
        split at h
        · next hthree => rw [if_pos hthree]; exact encodeChar_next3 rfl (by omega) hthree h
        · next hthree =>
          rw [if_neg hthree]
          split at h
          · next hfour => rw [if_pos hfour]; exact encodeChar_next4 rfl (by omega) hfour h
          · cases h

theorem encode_of_decodeFrom {sofar cs : List Char} (h : decodeFrom sofar bs = some cs) :
    encode cs = encode sofar.reverse ++ bs := by
  induction hlength : bs.length using Nat.strongRecOn generalizing sofar bs with
  | ind length ih =>
    cases bs with
    | nil =>
      simp only [decodeFrom, Option.some.injEq] at h
      simp [h]
    | cons b bs =>
      rw [decodeFrom] at h
      cases hnext : (next b bs).char with
      | none => simp [hnext] at h
      | some c =>
        simp only [hnext] at h
        have hshorter : (next b bs).rest.length < length := by
          have := next_length b bs
          simp only [List.length_cons] at hlength
          omega
        rw [ih _ hshorter h rfl, ← encodeChar_next hnext]
        simp [encode]

/-- Text that was read from bytes is written with the same bytes. -/
theorem encode_of_decode? {cs : List Char} (h : decode? bs = some cs) : encode cs = bs := by
  simpa using encode_of_decodeFrom h

/-! ## Separators -/

/-- Only the character itself is written with an ASCII byte. -/
theorem mem_encodeChar (hascii : b.toNat < 0x80) (h : b ∈ encodeChar c) : c.toNat = b.toNat := by
  have hsize : c.toNat < 0x110000 := by
    have := c.valid
    rcases this with h | h
    · exact Nat.lt_trans h (by decide)
    · exact h.2
  have hbyte : ∀ n, n < 256 → b = UInt8.ofNat n → b.toNat = n := by
    rintro n hn rfl
    simp [Nat.mod_eq_of_lt hn]
  simp only [encodeChar] at h
  split at h
  · next hsmall =>
    rw [List.mem_singleton] at h
    exact (hbyte _ (by omega) h).symm
  · split at h
    · simp only [List.mem_cons, List.not_mem_nil, or_false] at h
      rcases h with h | h
      all_goals have := hbyte _ (by omega) h; omega
    · split at h
      · simp only [List.mem_cons, List.not_mem_nil, or_false] at h
        rcases h with h | h | h
        all_goals have := hbyte _ (by omega) h; omega
      · simp only [List.mem_cons, List.not_mem_nil, or_false] at h
        rcases h with h | h | h | h
        all_goals have := hbyte _ (by omega) h; omega

theorem mem_encode_slash {cs : List Char} (h : 0x2F ∈ encode cs) : '/' ∈ cs := by
  obtain ⟨c, hc, hb⟩ := List.mem_flatMap.1 h
  have hnat : c.toNat = 0x2F := mem_encodeChar (by decide) hb
  have : c = '/' := Char.toNat_inj.1 hnat
  exact this ▸ hc

theorem encodeChar_ne_nil (c : Char) : encodeChar c ≠ [] := by
  simp only [encodeChar]
  repeat' split
  all_goals simp

theorem encode_ne_nil {cs : List Char} (h : cs ≠ []) : encode cs ≠ [] := by
  obtain ⟨c, cs, rfl⟩ := List.exists_cons_of_ne_nil h
  simp [encode, encodeChar_ne_nil c]

/-- Only `..` is written as two dots. -/
theorem eq_dots_of_ofString {s : String} (h : ofString s = [0x2E, 0x2E]) : s = ".." := by
  have hdot : ∀ c ∈ s.toList, c = '.' := by
    intro c hc
    obtain ⟨b, bs, hb⟩ := List.exists_cons_of_ne_nil (encodeChar_ne_nil c)
    have hmem : b ∈ encodeChar c := by simp [hb]
    have hbyte : b ∈ encode s.toList := List.mem_flatMap.2 ⟨c, hc, hmem⟩
    rw [← ofString, h] at hbyte
    have hnat : b = 0x2E := by simpa using hbyte
    subst hnat
    have hchar : c.toNat = 0x2E := mem_encodeChar (by decide) hmem
    exact Char.toNat_inj.1 hchar
  have hlist : s.toList = List.replicate s.toList.length '.' := List.eq_replicate_iff.2 ⟨rfl, hdot⟩
  have hlength : s.toList.length = 2 := by
    have hcount : (encode (List.replicate s.toList.length '.')).length = s.toList.length := by
      simp [encode, List.length_flatMap, encodeChar]
    rw [← hlist, ← ofString, h] at hcount
    exact hcount.symm
  rw [hlength] at hlist
  rw [← String.ofList_toList (s := s), hlist]
  rfl

end ReleaseBundle.Text
