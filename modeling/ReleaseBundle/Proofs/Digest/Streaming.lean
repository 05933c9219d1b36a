import ReleaseBundle.Bundle.Checksum

/-!
# Hashing a file while it is read

A hasher stands for the bytes that it was given: its words are what their full blocks were folded into,
and what is pending is the rest of them. The next piece keeps that, wherever the message is cut, so the
digest of a file that is read in pieces is the digest of its contents.
-/

namespace ReleaseBundle

namespace Sha256

theorem absorb_of_short (s : Words) {bs : Bytes} (h : bs.length < 64) : absorb s bs = (s, bs) := by
  have hnone : bs.drop 63 = [] := List.drop_eq_nil_of_le (by omega)
  rw [absorb]
  split
  · rfl
  · next hsome => rw [hnone] at hsome; cases hsome

theorem absorb_of_full (s : Words) {bs : Bytes} (h : 64 ≤ bs.length) :
    absorb s bs = absorb (compress s (bs.take 64)) (bs.drop 64) := by
  have hsome : bs.drop 63 = bs[63] :: bs.drop 64 := List.drop_eq_getElem_cons (by omega)
  rw [absorb]
  split
  · next hnone => rw [hsome] at hnone; cases hnone
  · next hrest => rw [hsome] at hrest; cases hrest; rfl

/-- Folding a message goes on where it stopped. -/
theorem absorb_append (s : Words) (a b : Bytes) :
    absorb s (a ++ b) = absorb (absorb s a).1 ((absorb s a).2 ++ b) := by
  induction hlength : a.length using Nat.strongRecOn generalizing s a with
  | ind n ih =>
    rcases Nat.lt_or_ge a.length 64 with hshort | hfull
    · rw [absorb_of_short s hshort]
    · have hwhole : 64 ≤ (a ++ b).length := by rw [List.length_append]; omega
      rw [absorb_of_full s hwhole, absorb_of_full s hfull, List.take_append_of_le_length hfull,
        List.drop_append_of_le_length hfull]
      exact ih (a.drop 64).length (by rw [List.length_drop]; omega) _ _ rfl

/-- The hasher has been given the message. -/
structure Hasher.Of (h : Hasher) (message : Bytes) : Prop where
  absorbed : absorb initial message = (h.words, h.pending)
  length : h.length = message.length

namespace Hasher

variable {h : Hasher} {message : Bytes}

theorem of_new : new.Of [] := ⟨by rw [absorb]; rfl, rfl⟩

theorem Of.update (hof : h.Of message) (piece : Bytes) : (h.update piece).Of (message ++ piece) where
  absorbed := by rw [absorb_append, hof.absorbed, Hasher.update]
  length := by simp [Hasher.update, hof.length]

/-- Pieces that are hashed one after the other are one message. -/
theorem Of.foldl (hof : h.Of message) (pieces : List Bytes) :
    (pieces.foldl Hasher.update h).Of (message ++ pieces.flatten) := by
  induction pieces generalizing h message with
  | nil => simpa using hof
  | cons piece pieces ih =>
    rw [List.foldl_cons, List.flatten_cons, ← List.append_assoc]
    exact ih (hof.update piece)

theorem Of.finish (hof : h.Of message) : h.finish = digest message := by
  rw [digest, absorb_append, hof.absorbed, Hasher.finish, hof.length]

end Hasher

end Sha256

namespace Bundle

open Sha256 (Hasher)

theorem cut_pieces (limit : Nat) (content : Bytes) :
    (cut limit content).flatten = content ∧ [] ∉ cut limit content := by
  induction content using cut.induct limit with
  | case1 => simp [cut]
  | case2 b rest ih =>
    rw [cut]
    exact ⟨by simp [ih.1], by simp [ih.2]⟩

/-- Every piece is hashed once, in order, and nothing behind the first empty one. -/
theorem hashReads_pieces (h : Hasher) {pieces : List Bytes} (hpieces : [] ∉ pieces) (later : List Bytes) :
    hashReads h (pieces ++ [] :: later) = pieces.foldl Hasher.update h := by
  induction pieces generalizing h with
  | nil => rw [List.nil_append, hashReads, if_pos rfl, List.foldl_nil]
  | cons piece pieces ih =>
    simp only [List.mem_cons, not_or] at hpieces
    rw [List.cons_append, hashReads, if_neg (Ne.symm hpieces.1), ih _ hpieces.2, List.foldl_cons]

/-- However a message is cut into pieces, its digest is that of the whole. -/
theorem checksumOfReads_pieces {pieces : List Bytes} (hpieces : [] ∉ pieces) (later : List Bytes) :
    checksumOfReads (pieces ++ [] :: later) = Bytes.hex (Sha256.digest pieces.flatten) := by
  have hof := Hasher.of_new.foldl pieces
  rw [List.nil_append] at hof
  rw [checksumOfReads, hashReads_pieces _ hpieces, hof.finish]

/-- The digest of a file that is read to its end is that of its contents. -/
theorem checksumOfReads_reads (content : Bytes) :
    checksumOfReads (reads content) = Bytes.hex (Sha256.digest content) := by
  obtain ⟨hflatten, hpieces⟩ := cut_pieces (readLimit - 1) content
  rw [reads, checksumOfReads_pieces hpieces, hflatten]

end Bundle

end ReleaseBundle
