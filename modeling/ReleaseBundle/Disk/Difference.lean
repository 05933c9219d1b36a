import ReleaseBundle.Disk.Basic

/-!
# What differs between two disks

`Disk.place` builds a picture of a part of a file system entry by entry, and `changesTo` lists what
has to be done to turn one disk into another. Entries go away from the inside out and come from the
outside in, so that each step applies to what the steps before it have left.
-/

namespace ReleaseBundle

namespace Disk

/-- The location that a path from the root names if no link is on the way. -/
def locationOf (p : Path) : Location := (p.segments.filterMap Name.ofBytes?).reverse

/-- Puts an entry at a location, and directories on the way to it where nothing is yet. What is there
already stays. -/
def place : Location → Node → Disk → Disk
  | [], _, d => d
  | name :: dir, node, d => (place dir .directory d).add dir name node

/-- Puts a file at a location, and directories on the way to it. -/
def placeFile (at_ : Location) (data : FileData) (d : Disk) : Disk :=
  let number := d.freshNumber
  (place at_ (.file number) d).setFile number data

/-- The entries of the table, the outermost first. -/
def outermostFirst (nodes : List (Location × Node)) : List (Location × Node) :=
  nodes.mergeSort fun a b => a.1.length ≤ b.1.length

/-- A step from one disk to another. -/
inductive Change where
  | vanished (at_ : Location) (node : Node)
  | directory (at_ : Location)
  | link (at_ : Location) (target : Path)
  | file (at_ : Location) (data : FileData)

/-- The step that makes an entry. -/
def arrival (d : Disk) : Location × Node → Change
  | (at_, .directory) => .directory at_
  | (at_, .link target) => .link at_ target
  | (at_, .file number) => .file at_ (d.data number)

/-- The entries of `d` that `e` does not have. -/
def lost (d e : Disk) : List (Location × Node) := d.nodes.filter fun entry => !e.nodes.contains entry

/-- Whether an entry of `e` is new to `d`, or a file with other contents. -/
def differs (d e : Disk) (entry : Location × Node) : Bool :=
  !d.nodes.contains entry ||
    match entry.2 with
    | .file number => d.data number != e.data number
    | _ => false

/-- The steps that turn the disk `d` into the disk `e`. -/
def changesTo (d e : Disk) : List Change :=
  (outermostFirst (lost d e)).reverse.map (fun (at_, node) => .vanished at_ node) ++
    (outermostFirst (e.nodes.filter (differs d e))).map e.arrival

end Disk

end ReleaseBundle
