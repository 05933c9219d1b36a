import ReleaseBundle.Disk.Fault
import ReleaseBundle.Path

/-!
# The file system as a value

A `Disk` is a finite table from locations to nodes. A location is the list of names that leads to it
from the root, the innermost name first, so the tail of a location is the directory that holds it and
two locations are the same directory exactly when they are equal. A node is a directory, a symbolic
link, or a file number; contents and permission bits belong to the number, so two names with one
number are hard links to one file.

The table is well-formed by construction: no location occurs twice, and whatever has a location lies
in a directory. Every change of the table is made of `add`, `erase`, `removeTree` and `setFile`, which
keep this and do nothing where they do not apply.
-/

namespace ReleaseBundle

/-- A name that a directory can hold: not empty, not `.` or `..`, without slash and NUL, and of at
most 255 bytes. -/
def isFileName (bs : Bytes) : Bool :=
  bs != [] && bs != [Path.dot] && bs != [Path.dot, Path.dot] && !bs.contains Path.slash &&
    !bs.contains 0 && bs.length ≤ 255

/-- An entry name of a directory. -/
structure Name where
  bytes : Bytes
  valid : isFileName bytes = true
  deriving DecidableEq

namespace Name

def ofBytes? (bs : Bytes) : Option Name := if h : isFileName bs then some ⟨bs, h⟩ else none

theorem ofBytes?_bytes (n : Name) : ofBytes? n.bytes = some n := by simp [ofBytes?, n.valid]

end Name

/-- Where something is: the names that lead to it from the root, the innermost first. -/
abbrev Location := List Name

/-- What a location holds. -/
inductive Node where
  | directory
  | link (target : Path)
  | file (number : Nat)
  deriving DecidableEq

/-- The contents of a file. Reading one with a `readFault` fails, however it is opened. Owners and times of
files are left out, because nothing here reads them. -/
structure FileData where
  content : Bytes
  /-- The permission bits for owner, group and others. -/
  mode : Nat
  readFault : Option Errno := none
  /-- The program of the system that the file holds, if it holds one. -/
  program : Option String := none
  deriving DecidableEq

namespace FileData

/-- An empty file with the permission bits that new files get. -/
def blank : FileData := { content := [], mode := 0o644 }

/-- The bytes that reading the file gives. -/
def read (f : FileData) : Except Fault Bytes :=
  match f.readFault with
  | some e => .error (.os e)
  | none => .ok f.content

/-- Whether the owner may read the file. -/
def ownerReads (f : FileData) : Bool := f.mode / 256 % 2 == 1

/-- Whether the owner may write the file. -/
def ownerWrites (f : FileData) : Bool := f.mode / 128 % 2 == 1

/-- Whether the owner may execute the file. -/
def ownerExecutes (f : FileData) : Bool := f.mode / 64 % 2 == 1

end FileData

/-- Gives the key `k` the value `v`: in place, or at the end if the key is new. -/
def assign (k : Nat) (v : FileData) : List (Nat × FileData) → List (Nat × FileData)
  | [] => [(k, v)]
  | e :: es => if e.1 = k then (k, v) :: es else e :: assign k v es

/-- A file system, with the directory that relative paths start from. -/
structure Disk where
  nodes : List (Location × Node)
  files : List (Nat × FileData)
  cwd : Location
  nodup : (nodes.map Prod.fst).Nodup
  parents : ∀ name dir, name :: dir ∈ nodes.map Prod.fst → dir = [] ∨ (dir, Node.directory) ∈ nodes

namespace Disk

/-- A file system that holds nothing but its root. -/
def empty : Disk := ⟨[], [], [], by simp, by simp⟩

/-- What a location holds; the root is a directory. -/
def node? (d : Disk) (at_ : Location) : Option Node :=
  if at_ = [] then some .directory else d.nodes.lookup at_

/-- Whether a location is a directory. -/
def isDirectoryAt (d : Disk) (at_ : Location) : Bool := d.node? at_ == some .directory

/-- The contents behind a file number. -/
def data (d : Disk) (number : Nat) : FileData := (d.files.lookup number).getD FileData.blank

/-- The entries of a directory, in the order in which the table lists them. -/
def children (d : Disk) (dir : Location) : List (Name × Node) :=
  d.nodes.filterMap fun
    | (name :: dir', node) => if dir' = dir then some (name, node) else none
    | ([], _) => none

/-- The file numbers that some name refers to. -/
def numbers (d : Disk) : List Nat :=
  d.nodes.filterMap fun
    | (_, .file number) => some number
    | _ => none

/-- A file number that nothing uses. -/
def freshNumber (d : Disk) : Nat := (d.numbers ++ d.files.map Prod.fst).foldl max 0 + 1

/-- The path of a location. -/
def pathOf (at_ : Location) : Path :=
  if at_ = [] then ⟨[Path.slash]⟩
  else ⟨at_.reverse.flatMap fun name => Path.slash :: name.bytes⟩

/-! ## Looking up -/

theorem lookup_eq_some_iff {α β : Type} [BEq α] [LawfulBEq α] {l : List (α × β)}
    (h : (l.map Prod.fst).Nodup) (a : α) (b : β) : l.lookup a = some b ↔ (a, b) ∈ l := by
  induction l with
  | nil => simp
  | cons e es ih =>
    obtain ⟨a', b'⟩ := e
    simp only [List.map_cons, List.nodup_cons, List.mem_map, not_exists, not_and] at h
    by_cases ha : a = a'
    · subst ha
      simp only [List.lookup_cons, beq_self_eq_true, List.mem_cons, Prod.mk.injEq, true_and]
      constructor
      · intro hb; left; simpa [eq_comm] using hb
      · rintro (rfl | hm)
        · rfl
        · exact absurd rfl (h.1 (a, b) hm)
    · simp only [List.lookup_cons, beq_eq_false_iff_ne.mpr ha, ih h.2, List.mem_cons, Prod.mk.injEq,
        ha, false_and, false_or]

theorem lookup_eq_none_iff {α β : Type} [BEq α] [LawfulBEq α] {l : List (α × β)} (a : α) :
    l.lookup a = none ↔ a ∉ l.map Prod.fst := by
  induction l with
  | nil => simp
  | cons e es ih =>
    obtain ⟨a', b'⟩ := e
    by_cases ha : a = a'
    · subst ha; simp
    · simp only [List.lookup_cons, beq_eq_false_iff_ne.mpr ha, ih, List.map_cons, List.mem_cons, ha,
        false_or]

theorem node?_cons (d : Disk) (name : Name) (dir : Location) :
    d.node? (name :: dir) = d.nodes.lookup (name :: dir) := by simp [node?]

theorem node?_cons_eq_some_iff (d : Disk) (name : Name) (dir : Location) (node : Node) :
    d.node? (name :: dir) = some node ↔ (name :: dir, node) ∈ d.nodes := by
  rw [node?_cons, lookup_eq_some_iff d.nodup]

/-- Whatever has a location lies in a directory. -/
theorem node?_parent {d : Disk} {name : Name} {dir : Location} {node : Node}
    (h : d.node? (name :: dir) = some node) : d.node? dir = some .directory := by
  rw [node?_cons_eq_some_iff] at h
  rcases d.parents name dir (List.mem_map.2 ⟨_, h, rfl⟩) with rfl | hd
  · simp [node?]
  · cases dir with
    | nil => simp [node?]
    | cons n ds => rwa [node?_cons_eq_some_iff]

theorem mem_children {d : Disk} {dir : Location} {name : Name} {node : Node} :
    (name, node) ∈ d.children dir ↔ d.node? (name :: dir) = some node := by
  rw [node?_cons_eq_some_iff]
  simp only [children, List.mem_filterMap, Prod.exists]
  constructor
  · rintro ⟨loc, node', hmem, h⟩
    split at h
    · split at h
      · simp only [Option.some.injEq, Prod.mk.injEq] at h
        obtain ⟨rfl, rfl⟩ := h
        next heq hdir => cases heq; cases hdir; exact hmem
      · cases h
    · cases h
  · intro hmem
    exact ⟨name :: dir, node, hmem, by simp⟩

/-! ## Changing the table -/

/-- Puts a new entry into a directory. Nothing happens unless the directory exists and the name is
free in it. -/
def add (d : Disk) (dir : Location) (name : Name) (node : Node) : Disk :=
  if h : d.node? dir = some .directory ∧ d.node? (name :: dir) = none then
    { d with
      nodes := (name :: dir, node) :: d.nodes
      nodup := by
        have := h.2
        rw [node?_cons, lookup_eq_none_iff] at this
        simp only [List.map_cons, List.nodup_cons]
        exact ⟨this, d.nodup⟩
      parents := by
        intro n l hmem
        simp only [List.map_cons, List.mem_cons, List.cons.injEq] at hmem
        rcases hmem with ⟨_, rfl⟩ | hmem
        · cases l with
          | nil => exact Or.inl rfl
          | cons m ms => exact Or.inr (List.mem_cons_of_mem _ ((node?_cons_eq_some_iff _ _ _ _).1 h.1))
        · exact (d.parents n l hmem).imp_right (List.mem_cons_of_mem _) }
  else d

/-- Takes an entry out of the table. Nothing happens to a directory that still holds something. -/
def erase (d : Disk) (at_ : Location) : Disk :=
  if h : d.children at_ = [] then
    { d with
      nodes := d.nodes.filter fun e => e.1 ≠ at_
      nodup := d.nodup.sublist (List.filter_sublist.map _)
      parents := by
        intro n l hmem
        obtain ⟨⟨loc, node⟩, hin, heq⟩ := List.mem_map.1 hmem
        simp only at heq
        subst heq
        have hin' := (List.mem_filter.1 hin).1
        refine (d.parents n l (List.mem_map.2 ⟨_, hin', rfl⟩)).imp_right fun hl => ?_
        refine List.mem_filter.2 ⟨hl, ?_⟩
        have : l ≠ at_ := by
          rintro rfl
          have := mem_children.2 ((node?_cons_eq_some_iff d n l node).2 hin')
          rw [h] at this
          cases this
        simpa using this }
  else d

/-- Takes a location and everything below it out of the table. -/
def removeTree (d : Disk) (at_ : Location) : Disk :=
  { d with
    nodes := d.nodes.filter fun e => !decide (at_ <:+ e.1)
    nodup := d.nodup.sublist (List.filter_sublist.map _)
    parents := by
      intro n l hmem
      obtain ⟨⟨loc, node⟩, hin, heq⟩ := List.mem_map.1 hmem
      simp only at heq
      subst heq
      have hin' := List.mem_filter.1 hin
      refine (d.parents n l (List.mem_map.2 ⟨_, hin'.1, rfl⟩)).imp_right fun hl => ?_
      refine List.mem_filter.2 ⟨hl, ?_⟩
      have hn : ¬ at_ <:+ n :: l := by simpa using hin'.2
      simpa using fun hs : at_ <:+ l => hn (hs.trans (List.suffix_cons n l)) }

/-- Gives a file number its contents. -/
def setFile (d : Disk) (number : Nat) (f : FileData) : Disk :=
  { d with files := assign number f d.files }

/-- Forgets the contents behind a number that no name refers to any more. -/
def release (d : Disk) (number : Nat) : Disk :=
  if d.numbers.contains number then d
  else { d with files := d.files.filter fun e => e.1 ≠ number }

end Disk

end ReleaseBundle
