import ReleaseBundle.Bytes.Text
import ReleaseBundle.Pattern.Expression

/-!
# How much memory a pattern takes

A pattern is searched for by a machine that reads bytes, forwards to find where a match ends and backwards
to find where it begins. `Expression.footprint` counts the bytes of the machine's states. A state with many
ways on takes more than one with a single way, what is repeated takes its room each time, and a character
beyond ASCII takes the states that tell its bytes from those of others.
-/

namespace ReleaseBundle.Pattern

/-- The direction in which a machine reads. -/
inductive Direction where
  | forwards
  | backwards
  deriving DecidableEq

namespace Footprint

/-- The room for one state. -/
def state : Nat := 32

/-- The room for a way on that depends on the next byte. -/
def branch : Nat := 8

/-- The room for a way on that does not depend on anything. -/
def way : Nat := 4

/-- A state with a number of ways on that depend on the next byte. -/
def branching (n : Nat) : Nat := state + branch * n

/-- A state with a number of ways on that do not depend on anything. -/
def fork (n : Nat) : Nat := state + way * n

/-! ## Characters -/

/-- The bytes from one to another. -/
abbrev ByteRange := Nat × Nat

/-- Cuts an interval of characters beyond ASCII into parts that lie in one block of the given size, or
consist of whole ones. -/
def alongBlocks (block : Nat) (i : Interval) : List Interval :=
  if i.low < 0x80 || i.low / block = i.high / block then [i]
  else
    let head := if i.low % block = 0 then [] else [⟨i.low, i.low / block * block + block - 1⟩]
    let low := if i.low % block = 0 then i.low else i.low / block * block + block
    let isWhole := i.high % block = block - 1
    if low / block = i.high / block || isWhole then head ++ [⟨low, i.high⟩]
    else head ++ [⟨low, i.high / block * block - 1⟩, ⟨i.high / block * block, i.high⟩]

/-- The intervals of characters whose encodings are equally long, in order. Surrogates have none. -/
def lengthClasses : List Interval :=
  [⟨0, 0x7F⟩, ⟨0x80, 0x7FF⟩, ⟨0x800, 0xD7FF⟩, ⟨0xE000, 0xFFFF⟩, ⟨0x10000, 0x10FFFF⟩]

/-- The encodings of an interval of characters, each as a sequence of ranges of bytes. -/
def encodings (i : Interval) : List (List ByteRange) :=
  let parts := lengthClasses.filterMap (shared? i)
  let cut := ((parts.flatMap (alongBlocks 64)).flatMap (alongBlocks 4096)).flatMap
    (alongBlocks 262144)
  let bytes (n : Nat) : List Nat := (Text.encodeChar (Char.ofNat n)).map UInt8.toNat
  cut.map fun j => (bytes j.low).zip (bytes j.high)

/-- Sequences that follow each other and begin alike, as their beginning and what comes behind it. -/
def byFirst : List (List ByteRange) → List (ByteRange × List (List ByteRange))
  | [] => []
  | [] :: rest => byFirst rest
  | (r :: tail) :: rest =>
    match byFirst rest with
    | (r', tails) :: groups =>
      if r = r' then (r, tail :: tails) :: groups else (r, [tail]) :: (r', tails) :: groups
    | [] => [(r, [tail])]

/-- A state that reads one of some ranges and goes on at the state with a number; that of the end is zero. -/
abbrev Reader := List (ByteRange × Nat)

/-- Adds the states that read some sequences to those there are already, without repeating one. Answers the
number of the first. -/
def shareReaders : Nat → List (List ByteRange) → List Reader → Nat × List Reader
  | 0, _, known => (0, known)
  | length + 1, sequences, known =>
    if sequences.all List.isEmpty then (0, known)
    else
      let (reader, known) := (byFirst sequences).foldl
        (fun (found : Reader × List Reader) group =>
          let (next, known) := shareReaders length group.2 found.2
          (found.1 ++ [(group.1, next)], known))
        ([], known)
      match known.findIdx? (· == reader) with
      | some at_ => (at_ + 1, known)
      | none => (known.length + 1, known ++ [reader])

/-- The longest encoding of a character. -/
def longestEncoding : Nat := 4

/-- The ranges of bytes that no other sequence before begins with. -/
def newRanges : List (List ByteRange) → Nat
  | [] => 0
  | [s] => s.length
  | s :: t :: rest => s.length - common s t + newRanges (t :: rest)
where
  common : List ByteRange → List ByteRange → Nat
    | a :: as, b :: bs => if a = b then common as bs + 1 else 0
    | _, _ => 0

/-- The states that read a character of a set. Forwards, states that go on alike are shared; backwards,
only those that come from the same state are. -/
def ofSet (d : Direction) (is : List Interval) : Nat :=
  if is.all fun i => i.high < 0x80 then state + branching is.length
  else
    let sequences := is.flatMap encodings
    match d with
    | .forwards =>
      (shareReaders longestEncoding sequences []).2.foldl (fun n r => n + branching r.length) state
    | .backwards => state + fork sequences.length + state * newRanges sequences

/-! ## Texts -/

/-- The bytes of a text in the order in which they are read. -/
def bytesOf (d : Direction) (cs : List Char) : List UInt8 :=
  match d with
  | .forwards => Text.encode cs
  | .backwards => (Text.encode cs).reverse

/-- The texts with a first byte, by that byte. -/
def byFirstByte (texts : List (List UInt8)) : List (UInt8 × List (List UInt8)) :=
  texts.foldl
    (fun groups text =>
      match text with
      | [] => groups
      | b :: rest =>
        if groups.any (·.1 == b) then
          groups.map fun g => if g.1 == b then (b, g.2 ++ [rest]) else g
        else groups ++ [(b, [rest])])
    []

/-- The texts between those that end here. -/
def betweenEnds : List (List UInt8) → List (List (List UInt8))
  | [] => [[]]
  | [] :: rest => [] :: betweenEnds rest
  | text :: rest =>
    match betweenEnds rest with
    | part :: parts => (text :: part) :: parts
    | [] => [[text]]

/-- The states that read one of some texts, which share the states for how they begin as long as no text
ends there. -/
def ofTexts : Nat → List (List UInt8) → Nat
  | 0, _ => 0
  | length + 1, texts =>
    let ending := texts.takeWhile List.isEmpty
    let parts := betweenEnds (ending.take 1 ++ texts.drop ending.length)
    let groups := parts.map byFirstByte
    let room := groups.foldl
      (fun n g => n + match g.length with
        | 0 => 0
        | 1 => state
        | k => branching k)
      0
    let below := groups.flatten.foldl
      (fun n g => n + if g.2.all List.isEmpty then 0 else ofTexts length g.2) 0
    room + fork ((groups.filter (!·.isEmpty)).length + (parts.length - 1)) + below

/-- The texts that a choice is made between, if it is made between texts only. -/
def texts? (e : Expression) : Option (List (List Char)) :=
  e.alternatives.mapM fun
    | .text cs => some cs
    | _ => none

/-- The states for a choice between texts. -/
def ofChoiceOfTexts (d : Direction) (texts : List (List Char)) : Nat :=
  let bytes := texts.map (bytesOf d)
  state + ofTexts (bytes.foldl (fun n bs => max n bs.length) 0) bytes

end Footprint

namespace Expression

open Footprint

/-- The states of the part of a machine that an expression describes. `inside` tells whether it is an
alternative of a choice that was begun before. -/
def room (d : Direction) (inside : Bool) : Expression → Nat
  | empty | look _ => entry + state
  | text cs => entry + state * (Text.encode cs).length
  | member is => entry + ofSet d is
  | group _ a =>
    entry + (if d = .forwards then 2 * state else 0) + a.room d false
  | repetition least most _ a =>
    let one := a.room d false
    entry +
      match least, most with
      | 0, none =>
        if a.least?.any (0 < ·) then fork 2 + one else one + fork 2 + fork 2 + state
      | n, none => n * one + fork 2
      | 0, some 1 => fork 2 + one + state
      | m, some n =>
        let exactly := if m = 0 then state else m * one
        if m = n then exactly else exactly + state + (n - m) * (fork 2 + one)
  | sequence a b => entry + a.room d false + b.room d false
  | choice a b =>
    let begun := if inside then 0 else 2 * state
    match if inside then none else texts? (choice a b) with
    | some texts => ofChoiceOfTexts d texts
    | none => begun + (way + a.room d false) + b.room d true
where
  /-- The way from the start of a choice to an alternative. -/
  entry : Nat := if inside then way else 0

/-- Whether every match begins at the start of the text. -/
def isBoundToStart : Expression → Bool
  | look l => l == .textStart
  | empty | text _ | member _ => false
  | group _ a => a.isBoundToStart
  | repetition least _ _ a => least != 0 && a.isBoundToStart
  | sequence a b => a.isBoundToStart || (a.isAlwaysEmpty && b.isBoundToStart)
  | choice a b => a.isBoundToStart && b.isBoundToStart

/-- Whether every match ends at the end of the text. -/
def isBoundToEnd : Expression → Bool
  | look l => l == .textEnd
  | empty | text _ | member _ => false
  | group _ a => a.isBoundToEnd
  | repetition least _ _ a => least != 0 && a.isBoundToEnd
  | sequence a b => b.isBoundToEnd || (b.isAlwaysEmpty && a.isBoundToEnd)
  | choice a b => a.isBoundToEnd && b.isBoundToEnd

/-- The bytes that the machine for a pattern takes. Unless matches are bound to the place where the machine
begins, it first reads any bytes. Forwards it also keeps the bounds of the match. -/
def footprint (d : Direction) (e : Expression) : Nat :=
  let isBound := match d with
    | .forwards => e.isBoundToStart
    | .backwards => e.isBoundToEnd
  let lead := if isBound then state else fork 2 + state + branching 1
  let bounds := match d with
    | .forwards => 2 * state
    | .backwards => 0
  lead + bounds + e.room d false + state

end Expression

end ReleaseBundle.Pattern
