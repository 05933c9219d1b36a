import ReleaseBundle.Shell.Programs.Record.Value
import Std.Data.HashMap

/-!
# Tables

A table holds values under texts. The order in which its names come up is that of a table of lists: a name
belongs to the list that a number made of its characters says, and within a list the name that was touched last
comes first. A name that was only ever a number is not in a list before texts are looked for.
-/

namespace ReleaseBundle.Shell.Programs.Record

/-- What a value is found under. -/
structure Key where
  text : String
  /-- The number that stands for the text, if it was a whole number. -/
  number : Option Int

structure Entry where
  value : Value
  number : Option Int
  /-- When the entry was touched last; nothing while it is in no list. -/
  touched : Option Nat

structure Table where
  entries : Std.HashMap String Entry := {}
  /-- How often entries were touched. -/
  time : Nat := 0
  /-- How many lists there are. -/
  lists : Nat := 64
  /-- Whether texts were looked for. -/
  listed : Bool := false

instance : Inhabited Table := ⟨{}⟩

/-- The number that tells which list a text belongs to. -/
def spreadNumber (t : String) : UInt32 :=
  t.toList.foldl (fun h c => (h ^^^ c.toNat.toUInt32) * 16777619) 2166136261

namespace Table

def size (t : Table) : Nat := t.entries.size

/-- Puts entries that were only numbers into lists. -/
def list (t : Table) : Table :=
  if t.listed then t
  else
    let rank (e : String × Entry) : Nat := ((e.2.number.getD 0) % t.lists).toNat
    let waiting := (t.entries.toList.filter fun e => e.2.touched.isNone).mergeSort fun a b => rank a ≤ rank b
    let (entries, time) := waiting.foldl
      (fun (entries, time) (k, e) => (entries.insert k { e with touched := some time }, time + 1))
      (t.entries, t.time)
    { t with entries := entries, time := time, listed := true }

/-- The value under a key. -/
def find? (t : Table) (k : Key) : Option Value := (t.entries.get? k.text).map Entry.value

/-- Touches an entry that is there. -/
def touch (t : Table) (k : Key) : Table :=
  match k.number with
  | some _ => t
  | none =>
    let ⟨entries, time, lists, listed⟩ := t.list
    ⟨entries.modify k.text fun e => { e with touched := some time }, time + 1, lists, listed⟩

/-- Puts a value under a key. -/
def insert (t : Table) (k : Key) (v : Value) : Table :=
  let t := if k.number.isNone then t.list else t
  if t.entries.contains k.text then
    let ⟨entries, time, lists, listed⟩ := t.touch k
    ⟨entries.modify k.text fun e => { e with value := v }, time, lists, listed⟩
  else
    let ⟨entries, time, lists, listed⟩ := t
    let e : Entry := ⟨v, k.number, if listed then some time else none⟩
    let lists := if 12 * lists < entries.size + 1 then 2 * lists else lists
    ⟨entries.insert k.text e, time + 1, lists, listed⟩

/-- Removes what is under a key. -/
def erase (t : Table) (k : Key) : Table :=
  let ⟨entries, time, lists, listed⟩ := t
  let entries := entries.erase k.text
  if entries.isEmpty then {} else ⟨entries, time, lists, listed⟩

/-- The names of all entries in their order. -/
def names (t : Table) : List String :=
  let rank (e : String × Entry) : Nat × Nat :=
    ((spreadNumber e.1).toNat % t.lists, t.time - e.2.touched.getD 0)
  let ranked := t.entries.toList.map fun e => (rank e, e.1)
  (ranked.mergeSort fun a b => a.1.1 < b.1.1 || (a.1.1 == b.1.1 && a.1.2 ≤ b.1.2)).map Prod.snd

end Table

end ReleaseBundle.Shell.Programs.Record
