/-!
# Similarity of names

The Jaro similarity of two texts is a number between zero and one. A character of the first text
matches an equal one of the second that is not far away and not taken yet; the similarity is the mean
of the share of matches in either text and the share of matches that are in order.
-/

namespace ReleaseBundle.Similarity

/-- How far apart matching characters may stand in texts of the given lengths. -/
def reach (m n : Nat) : Nat := max m n / 2 - 1

/-- Looks for the first free character equal to `c` between two places; marks it as taken. -/
def take (c : Char) (low high : Nat) (at_ : Nat) : List (Char × Bool) → Option (List (Char × Bool))
  | [] => none
  | (b, taken) :: bs =>
    if high ≤ at_ then none
    else if low ≤ at_ ∧ b = c ∧ taken = false then some ((b, true) :: bs)
    else (take c low high (at_ + 1) bs).map ((b, taken) :: ·)

/-- The characters of the first text that have a match, and the second text with its matches taken. -/
def matchAll (range : Nat) (at_ : Nat) (sofar : List Char) (b : List (Char × Bool)) :
    List Char → List Char × List (Char × Bool)
  | [] => (sofar.reverse, b)
  | c :: cs =>
    match take c (at_ - range) (at_ + range + 1) 0 b with
    | some b => matchAll range (at_ + 1) (c :: sofar) b cs
    | none => matchAll range (at_ + 1) sofar b cs

/-- The Jaro similarity of two texts. -/
def jaro (a b : String) : Float :=
  let a := a.toList
  let b := b.toList
  if a = [] ∧ b = [] then 1
  else
    let (left, marked) := matchAll (reach a.length b.length) 0 [] (b.map (·, false)) a
    let right := (marked.filter Prod.snd).map Prod.fst
    let matched := left.length
    let transposed := ((left.zip right).filter fun p => p.1 != p.2).length / 2
    if matched = 0 then 0
    else
      (matched.toFloat / a.length.toFloat + matched.toFloat / b.length.toFloat +
          (matched - transposed).toFloat / matched.toFloat) / 3

/-- The most similar of the candidates that are similar at all; of equals the last. -/
def best? {α : Type} (name : α → String) (wanted : String) (candidates : List α) : Option α :=
  (candidates.foldl
    (fun (found : Option (α × Float)) candidate =>
      let likeness := jaro wanted (name candidate)
      if 0.7 < likeness then
        match found with
        | some (_, other) => if other ≤ likeness then some (candidate, likeness) else found
        | none => some (candidate, likeness)
      else found)
    none).map Prod.fst

end ReleaseBundle.Similarity
