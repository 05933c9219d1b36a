import ReleaseBundle.Pattern.Meaning

/-!
# Searching for a pattern

`Expression.ends` gives the places where a match can end that began at one of the given places, so a
pattern occurs in a text if this is not empty when a match may begin anywhere. Places are the numbers of
characters before them. A repetition leads from places to places at least as far on, so after one round
more than there are places nothing new comes up.
-/

namespace ReleaseBundle.Pattern

/-- Whether the character at a place is a letter, a digit or an underscore. -/
def wordAt (text : Array Char) (i : Nat) : Bool :=
  match text[i]? with
  | some c => LetterClass.word.intervals.any (·.holds c.toNat)
  | none => false

/-- Whether the character before a place is a letter, a digit or an underscore. -/
def wordBefore (text : Array Char) (i : Nat) : Bool := i != 0 && wordAt text (i - 1)

/-- Whether a boundary of words is at a place. -/
def Boundary.holds (text : Array Char) (i : Nat) : Boundary → Bool
  | word => wordBefore text i != wordAt text i
  | noWord => wordBefore text i == wordAt text i
  | wordStart => !wordBefore text i && wordAt text i
  | wordEnd => wordBefore text i && !wordAt text i
  | wordStartHalf => !wordBefore text i
  | wordEndHalf => !wordAt text i
  | _ => false

/-- The character before a place. -/
def before? (text : Array Char) (i : Nat) : Option Char := if i = 0 then none else text[i - 1]?

/-- Whether a place is what it is asked for. -/
def Look.holds (text : Array Char) (i : Nat) : Look → Bool
  | textStart => i == 0
  | textEnd => i == text.size
  | lineStart => i == 0 || before? text i == some '\n'
  | lineEnd => i == text.size || text[i]? == some '\n'
  | anyLineStart =>
    i == 0 || before? text i == some '\n' ||
      (before? text i == some '\r' && text[i]? != some '\n')
  | anyLineEnd =>
    i == text.size || text[i]? == some '\r' ||
      (text[i]? == some '\n' && before? text i != some '\r')
  | words _ b => b.holds text i

/-- Goes on from places for a number of rounds. -/
def rounds (f : List Nat → List Nat) : Nat → List Nat → List Nat
  | 0, ps => ps
  | n + 1, ps => if ps = [] then [] else rounds f n (f ps)

/-- All places that are reached within a number of rounds. -/
def within (f : List Nat → List Nat) : Nat → List Nat → List Nat
  | 0, ps => ps
  | n + 1, ps => if ps = [] then [] else (ps ++ within f n (f ps)).eraseDups

/-- Whether characters stand at a place. -/
def standsAt (text : Array Char) : List Char → Nat → Bool
  | [], _ => true
  | c :: cs, i => text[i]? == some c && standsAt text cs (i + 1)

namespace Expression

/-- The places where a match can end that began at one of the given places. -/
def ends (text : Array Char) : Expression → List Nat → List Nat
  | empty, ps => ps
  | .text cs, ps =>
    ps.filterMap fun i => if standsAt text cs i then some (i + cs.length) else none
  | member is, ps =>
    ps.filterMap fun i =>
      match text[i]? with
      | some c => if is.any (·.holds c.toNat) then some (i + 1) else none
      | none => none
  | look l, ps => ps.filter fun i => l.holds text i
  | group _ a, ps => a.ends text ps
  | sequence a b, ps => b.ends text (a.ends text ps)
  | choice a b, ps => (a.ends text ps ++ b.ends text ps).eraseDups
  | repetition least most _ a, ps =>
    let enough := text.size + 2
    let further := match most with
      | some n => n - least
      | none => enough
    within (a.ends text) (min further enough) (rounds (a.ends text) (min least enough) ps)

/-- Whether a pattern occurs anywhere in a text. -/
def occursIn (e : Expression) (text : String) : Bool :=
  let text := text.toList.toArray
  e.ends text (List.range (text.size + 1)) != []

end Expression

end ReleaseBundle.Pattern
