/-!
# Sets of characters

A set is a list of intervals between the numbers of characters. `ordered` brings intervals into their one
form: ascending, with gaps between them. The operations on sets want and keep that form, except that `add`
leaves it to the next one. Besides, a set remembers whether it is known to hold both cases of all its
letters. Knowing that takes tables in general, but nothing and everything hold both cases anyway.
-/

namespace ReleaseBundle.Pattern

/-- The characters from one number to another, both included. -/
structure Interval where
  low : Nat
  high : Nat
  deriving DecidableEq

namespace Interval

/-- The interval that two numbers bound, whichever is the larger one. -/
def between (a b : Nat) : Interval := ⟨min a b, max a b⟩

/-- One character. -/
def single (n : Nat) : Interval := ⟨n, n⟩

def holds (i : Interval) (n : Nat) : Bool := i.low ≤ n && n ≤ i.high

/-- Whether no number lies between two intervals. -/
def touches (i j : Interval) : Bool := max i.low j.low ≤ min i.high j.high + 1

/-- The interval over two that touch. -/
def hull (i j : Interval) : Interval := ⟨min i.low j.low, max i.high j.high⟩

/-- Whether an interval comes first in the order of the lower ends. -/
def comesFirst (i j : Interval) : Bool := i.low < j.low || (i.low == j.low && i.high ≤ j.high)

end Interval

/-- The number of the last character. -/
def lastNumber : Nat := 0x10FFFF

/-- The number before another one; those of surrogates are no characters. -/
def numberBefore (n : Nat) : Nat := if n = 0xE000 then 0xD7FF else n - 1

/-- The number behind another one. -/
def numberAfter (n : Nat) : Nat := if n = 0xD7FF then 0xE000 else n + 1

/-- Unites an interval with those of the ascending ones behind it that it touches. -/
def unite (i : Interval) : List Interval → List Interval
  | [] => [i]
  | j :: js => if i.touches j then unite (i.hull j) js else i :: unite j js

/-- The one form of intervals. -/
def ordered (is : List Interval) : List Interval :=
  match is.mergeSort Interval.comesFirst with
  | [] => []
  | i :: rest => unite i rest

/-- What of an interval lies outside ascending ones. -/
def outside (i : Interval) : List Interval → List Interval
  | [] => [i]
  | j :: js =>
    if j.high < i.low || i.high < j.low then outside i js
    else
      (if i.low < j.low then [.between i.low (numberBefore j.low)] else []) ++
        if j.high < i.high then outside (.between (numberAfter j.high) i.high) js else []

/-- The part that two intervals share. -/
def shared? (i j : Interval) : Option Interval :=
  if max i.low j.low ≤ min i.high j.high then some ⟨max i.low j.low, min i.high j.high⟩ else none

/-- The gaps behind an interval and between those that follow it. -/
def gaps (i : Interval) : List Interval → List Interval
  | [] => if i.high < lastNumber then [.between (numberAfter i.high) lastNumber] else []
  | j :: js => .between (numberAfter i.high) (numberBefore j.low) :: gaps j js

/-- A set of characters. -/
structure Members where
  intervals : List Interval
  /-- Whether the set is known to hold both cases of its letters. -/
  bothCases : Bool

namespace Members

def empty : Members := ⟨[], true⟩

/-- The set of some intervals. -/
def ofIntervals (is : List Interval) : Members := ⟨ordered is, is.isEmpty⟩

/-- A set with one more interval, which is not put in its place yet. -/
def add (m : Members) (i : Interval) : Members := ⟨i :: m.intervals, false⟩

/-- The set in its one form. -/
def settled (m : Members) : Members := { m with intervals := ordered m.intervals }

def union (m n : Members) : Members :=
  let m := m.settled
  if n.intervals = [] ∨ m.intervals = n.intervals then m
  else ⟨ordered (m.intervals ++ n.intervals), m.bothCases && n.bothCases⟩

def intersection (m n : Members) : Members :=
  if m.intervals = [] then m
  else if n.intervals = [] then empty
  else
    ⟨m.intervals.flatMap fun i => n.intervals.filterMap (shared? i), m.bothCases && n.bothCases⟩

def difference (m n : Members) : Members :=
  if m.intervals = [] ∨ n.intervals = [] then m
  else ⟨m.intervals.flatMap fun i => outside i n.intervals, m.bothCases && n.bothCases⟩

def symmetricDifference (m n : Members) : Members := (m.union n).difference (m.intersection n)

def complement (m : Members) : Members :=
  match m.intervals with
  | [] => ⟨[⟨0, lastNumber⟩], true⟩
  | i :: is => { m with
      intervals := (if 0 < i.low then [.between 0 (numberBefore i.low)] else []) ++ gaps i is }

/-- An interval of the letters of the other case, for the ASCII letters of an interval. -/
def otherCases (i : Interval) : List Interval :=
  let upper := (shared? i ⟨0x41, 0x5A⟩).toList.map fun j => ⟨j.low + 32, j.high + 32⟩
  let lower := (shared? i ⟨0x61, 0x7A⟩).toList.map fun j => ⟨j.low - 32, j.high - 32⟩
  upper ++ lower

/-- A set with both cases of its ASCII letters. -/
def withBothCases (m : Members) : Members :=
  if m.bothCases then m else ⟨ordered (m.intervals ++ m.intervals.flatMap otherCases), true⟩

/-- Whether a set holds ASCII only. -/
def isAscii (m : Members) : Bool := m.intervals.all fun i => i.high < 0x80

end Members

end ReleaseBundle.Pattern
