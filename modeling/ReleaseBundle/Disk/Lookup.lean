import ReleaseBundle.Disk.Basic

/-!
# Following paths

`Disk.locate` finds what a path means: it goes through the parts of the text from the root or from the
current directory, steps up at `..`, and continues at the target of every symbolic link on the way.
A link at the very end is followed on request. The walk between two links is structural in the parts
that remain; `resolve` allows forty links in one path and then answers that there are too many, which
is also what ends a walk through links that lead to each other.
-/

namespace ReleaseBundle

namespace Path

/-- Whether a path asks for a directory by ending in a slash. -/
def endsInSlash (p : Path) : Bool := p.bytes.getLast? == some slash

/-- The parts of a path that a lookup goes through. A slash at the end counts as a final `.`, so that
what stands before it has to be a directory. -/
def steps (p : Path) : List Bytes :=
  p.segments.filter (· != []) ++ if p.endsInSlash then [[dot]] else []

end Path

/-- Where a path leads. -/
inductive Spot where
  /-- Something that exists. -/
  | found (at_ : Location) (node : Node)
  /-- A free name in a directory that exists. -/
  | vacant (dir : Location) (name : Name)
  deriving DecidableEq

namespace Disk

/-- How many links one path may go through. -/
def maxLinks : Nat := 40

/-- The length from which on a path is refused. -/
def maxPathLength : Nat := 4096

/-- Goes through the parts of a path from the directory `here`. A link is handed to `onLink` together
with the directory it is in and the parts that follow it. -/
def stroll (d : Disk) (follow : Bool)
    (onLink : Location → Path → List Bytes → Except Fault Spot) :
    Location → List Bytes → Except Fault Spot
  | here, [] => .ok (.found here .directory)
  | here, part :: rest =>
    if part = [Path.dot] then stroll d follow onLink here rest
    else if part = [Path.dot, Path.dot] then stroll d follow onLink here.tail rest
    else
      match Name.ofBytes? part with
      | none => .error (.os .nameTooLong)
      | some name =>
        match d.node? (name :: here) with
        | some .directory => stroll d follow onLink (name :: here) rest
        | some (.file number) =>
          if rest = [] then .ok (.found (name :: here) (.file number))
          else .error (.os .notDirectory)
        | some (.link target) =>
          if rest = [] ∧ follow = false then .ok (.found (name :: here) (.link target))
          else onLink here target rest
        | none => if rest = [] then .ok (.vacant here name) else .error (.os .notFound)

/-- The directory that a path starts from when it is met in the directory `here`. -/
def start (here : Location) (p : Path) : Location := if p.isAbsolute then [] else here

/-- Goes through the parts of a path and through at most `links` links. -/
def resolve (d : Disk) (follow : Bool) : Nat → Location → List Bytes → Except Fault Spot
  | 0 => stroll d follow fun _ _ _ => .error (.os .tooManyLinks)
  | links + 1 =>
    stroll d follow fun here target rest =>
      if target.bytes = [] then .error (.os .notFound)
      else resolve d follow links (start here target) (target.steps ++ rest)

/-- Why a path is refused before anything is looked up. -/
def refusal? (d : Disk) (p : Path) : Option Fault :=
  if p.bytes.contains 0 then some .nulInPath
  else if p.bytes = [] then some (.os .notFound)
  else if maxPathLength ≤ p.bytes.length then some (.os .nameTooLong)
  else if !p.isAbsolute && !d.isDirectoryAt d.cwd then some (.os .notFound)
  else none

/-- Where a path leads, with a link at its end followed or not. -/
def locate (d : Disk) (p : Path) (follow : Bool := true) : Except Fault Spot :=
  match d.refusal? p with
  | some fault => .error fault
  | none => d.resolve follow maxLinks (start d.cwd p) p.steps

/-- What a path leads to, with all links followed. -/
def stat (d : Disk) (p : Path) : Except Fault (Location × Node) :=
  match d.locate p with
  | .error fault => .error fault
  | .ok (.found at_ node) => .ok (at_, node)
  | .ok (.vacant _ _) => .error (.os .notFound)

/-- What a path leads to, with a link at its end left alone. -/
def lstat (d : Disk) (p : Path) : Except Fault (Location × Node) :=
  match d.locate p false with
  | .error fault => .error fault
  | .ok (.found at_ node) => .ok (at_, node)
  | .ok (.vacant _ _) => .error (.os .notFound)

/-- Whether a path leads to a directory. -/
def isDirectory (d : Disk) (p : Path) : Bool :=
  match d.stat p with
  | .ok (_, .directory) => true
  | _ => false

/-- Whether a path leads to a file. -/
def isFile (d : Disk) (p : Path) : Bool :=
  match d.stat p with
  | .ok (_, .file _) => true
  | _ => false

/-- What opening a path for reading gives. A directory can be opened, but not read as a file. -/
inductive Opened where
  | directory
  | file (number : Nat) (data : FileData)

/-- Opens a path for reading. All files belong to the one who works on the disk, so the owner's
permission counts. -/
def openPath (d : Disk) (p : Path) : Except Fault Opened :=
  match d.stat p with
  | .error fault => .error fault
  | .ok (_, .file number) =>
    if (d.data number).ownerReads then .ok (.file number (d.data number))
    else .error (.os .accessDenied)
  | .ok (_, _) => .ok .directory

/-- The bytes behind something opened. -/
def Opened.read : Opened → Except Fault Bytes
  | .directory => .error (.os .isDirectory)
  | .file _ f => f.read

/-- Whether the owner may execute what was opened. -/
def Opened.ownerExecutes : Opened → Bool
  | .directory => false
  | .file _ f => f.ownerExecutes

/-- The number of bytes that the system states for a node. -/
def size (d : Disk) : Node → Nat
  | .file number => (d.data number).content.length
  | _ => 0

/-- The bytes of the file that a path leads to. -/
def contentsOf (d : Disk) (p : Path) : Except Fault Bytes := do (← d.openPath p).read

/-! ## What is found exists -/

/-- A spot tells the truth about the table: what is found is there, and a free name is free in a
directory. -/
def Holds (d : Disk) : Spot → Prop
  | .found at_ node => d.node? at_ = some node
  | .vacant dir name => d.node? dir = some .directory ∧ d.node? (name :: dir) = none

theorem node?_tail {d : Disk} {here : Location} (h : d.node? here = some .directory) :
    d.node? here.tail = some .directory := by
  cases here with
  | nil => exact h
  | cons name dir => exact node?_parent h

theorem stroll_holds {d : Disk} {follow : Bool}
    {onLink : Location → Path → List Bytes → Except Fault Spot}
    (hlink : ∀ here target rest spot, d.node? here = some .directory →
      onLink here target rest = .ok spot → d.Holds spot)
    {here : Location} {parts : List Bytes} {spot : Spot} (hhere : d.node? here = some .directory)
    (h : d.stroll follow onLink here parts = .ok spot) : d.Holds spot := by
  induction parts generalizing here with
  | nil =>
    simp only [stroll, Except.ok.injEq] at h
    subst h
    exact hhere
  | cons part rest ih =>
    simp only [stroll] at h
    split at h
    · exact ih hhere h
    · split at h
      · exact ih (node?_tail hhere) h
      · split at h
        · cases h
        · next name _ =>
          split at h
          · next hnode => exact ih hnode h
          · next number hnode =>
            split at h
            · cases h; exact hnode
            · cases h
          · next target hnode =>
            split at h
            · cases h; exact hnode
            · exact hlink _ _ _ _ hhere h
          · next hnode =>
            split at h
            · cases h; exact ⟨hhere, hnode⟩
            · cases h

theorem node?_start {d : Disk} {here : Location} (p : Path) (h : d.node? here = some .directory) :
    d.node? (start here p) = some .directory := by
  unfold start
  split
  · simp [node?]
  · exact h

theorem resolve_holds {d : Disk} {follow : Bool} {links : Nat} {here : Location}
    {parts : List Bytes} {spot : Spot} (hhere : d.node? here = some .directory)
    (h : d.resolve follow links here parts = .ok spot) : d.Holds spot := by
  induction links generalizing here parts spot with
  | zero => exact stroll_holds (by intro _ _ _ _ _ h; cases h) hhere h
  | succ links ih =>
    refine stroll_holds ?_ hhere h
    intro here' target rest spot' hhere' h'
    split at h'
    · cases h'
    · exact ih (node?_start target hhere') h'

theorem locate_holds {d : Disk} {p : Path} {follow : Bool} {spot : Spot}
    (h : d.locate p follow = .ok spot) : d.Holds spot := by
  unfold locate at h
  split at h
  · cases h
  · next hnone =>
    refine resolve_holds ?_ h
    unfold start
    split
    · simp [node?]
    · next hrel =>
      simp only [refusal?] at hnone
      repeat' split at hnone
      all_goals simp_all [isDirectoryAt]

/-- Whatever `stat` answers is in the table. -/
theorem node?_of_stat {d : Disk} {p : Path} {at_ : Location} {node : Node}
    (h : d.stat p = .ok (at_, node)) : d.node? at_ = some node := by
  unfold stat at h
  split at h
  · cases h
  · next hl => cases h; exact locate_holds hl
  · cases h

end Disk

end ReleaseBundle
