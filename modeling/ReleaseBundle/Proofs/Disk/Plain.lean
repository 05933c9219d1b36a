import ReleaseBundle.Proofs.Bundle.Packing

/-!
# Disks without links

Without symbolic links the text of a path decides where it ends, if it ends anywhere: `landing` goes
through the parts and looks at no disk. Two paths that land in different places then lead to different
files, unless one file has both names.
-/

namespace ReleaseBundle

namespace Node

def isLink : Node → Bool
  | link _ => true
  | _ => false

def number? : Node → Option Nat
  | file n => some n
  | _ => none

theorem number?_eq_some_iff {node : Node} {n : Nat} : node.number? = some n ↔ node = .file n := by
  cases node <;> simp [number?]

end Node

end ReleaseBundle

namespace ReleaseBundle.Disk

variable {d e : Disk} {follow : Bool} {links : Nat} {here at_ l : Location} {parts : List Bytes}
  {spot : Spot} {p q : Path} {node : Node} {n : Nat}

/-- No symbolic links. -/
def Plain (d : Disk) : Prop := ∀ l target, d.node? l ≠ some (.link target)

/-- No hard links: every file has one name. -/
def Unshared (d : Disk) : Prop :=
  ∀ l l' n, d.node? l = some (.file n) → d.node? l' = some (.file n) → l = l'

theorem mem_nodes_iff (hnode : node ≠ .directory) : d.node? l = some node ↔ (l, node) ∈ d.nodes ∧ l ≠ [] := by
  cases l with
  | nil => simp [hnode.symm]
  | cons name dir => simp [node?_cons_eq_some_iff]

theorem plain_iff : d.Plain ↔ ∀ entry ∈ d.nodes, entry.2.isLink = true → entry.1 = [] := by
  constructor
  · rintro hplain ⟨l, node⟩ hentry hlink
    cases node with
    | link target =>
      by_contra hnil
      exact hplain l target ((mem_nodes_iff (by simp)).2 ⟨hentry, hnil⟩)
    | directory => cases hlink
    | file n => cases hlink
  · intro h l target hlink
    obtain ⟨hentry, hnil⟩ := (mem_nodes_iff (by simp)).1 hlink
    exact hnil (h _ hentry rfl)

theorem unshared_iff :
    d.Unshared ↔ ∀ entry ∈ d.nodes, ∀ entry' ∈ d.nodes, entry.1 ≠ [] → entry'.1 ≠ [] →
      entry.2.number?.isSome = true → entry.2.number? = entry'.2.number? → entry.1 = entry'.1 := by
  constructor
  · rintro hunshared ⟨l, node⟩ hentry ⟨l', node'⟩ hentry' hnil hnil' hsome hsame
    obtain ⟨n, hn⟩ := Option.isSome_iff_exists.1 hsome
    have hfile := Node.number?_eq_some_iff.1 hn
    have hfile' := Node.number?_eq_some_iff.1 (hsame.symm.trans hn)
    subst hfile hfile'
    exact hunshared l l' n ((mem_nodes_iff (by simp)).2 ⟨hentry, hnil⟩)
      ((mem_nodes_iff (by simp)).2 ⟨hentry', hnil'⟩)
  · intro h l l' n hfile hfile'
    obtain ⟨hentry, hnil⟩ := (mem_nodes_iff (by simp)).1 hfile
    obtain ⟨hentry', hnil'⟩ := (mem_nodes_iff (by simp)).1 hfile'
    exact h _ hentry _ hentry' hnil hnil' rfl rfl

instance : Decidable d.Plain := decidable_of_iff' _ plain_iff

instance : Decidable d.Unshared := decidable_of_iff' _ unshared_iff

/-- Where the parts of a path end if nothing on the way is a link. A part that is no name leads nowhere
and is passed over. -/
def landing (here : Location) : List Bytes → Location
  | [] => here
  | part :: rest =>
    if part = [Path.dot] then landing here rest
    else if part = [Path.dot, Path.dot] then landing here.tail rest
    else
      match Name.ofBytes? part with
      | some name => landing (name :: here) rest
      | none => landing here rest

@[simp] theorem landing_nil (here : Location) : landing here [] = here := rfl

@[simp] theorem landing_dot (here : Location) (rest : List Bytes) :
    landing here ([Path.dot] :: rest) = landing here rest := by simp [landing]

@[simp] theorem landing_dots (here : Location) (rest : List Bytes) :
    landing here ([Path.dot, Path.dot] :: rest) = landing here.tail rest := by simp [landing]

@[simp] theorem landing_name (here : Location) (name : Name) (rest : List Bytes) :
    landing here (name.bytes :: rest) = landing (name :: here) rest := by
  simp [landing, name.bytes_ne_dot, name.bytes_ne_dots, Name.ofBytes?_bytes]

theorem landing_append (here : Location) (front rest : List Bytes) :
    landing here (front ++ rest) = landing (landing here front) rest := by
  induction front generalizing here with
  | nil => rfl
  | cons part front ih =>
    simp only [List.cons_append, landing]
    split
    · exact ih here
    · split
      · exact ih here.tail
      · split
        · exact ih _
        · exact ih here

/-- Parts that do not step up lead on to something below. -/
theorem suffix_landing (here : Location) (hup : [Path.dot, Path.dot] ∉ parts) :
    here <:+ landing here parts := by
  induction parts generalizing here with
  | nil => exact List.suffix_refl here
  | cons part rest ih =>
    simp only [List.mem_cons, not_or] at hup
    simp only [landing, if_neg (Ne.symm hup.1)]
    split
    · exact ih here hup.2
    · split
      · next name _ => exact (List.suffix_cons name here).trans (ih _ hup.2)
      · exact ih here hup.2

theorem branch_landing (here : Location) (name : Name) (hup : [Path.dot, Path.dot] ∉ parts) :
    name :: here <:+ landing here (name.bytes :: parts) := by
  rw [landing_name]
  exact suffix_landing (name :: here) hup

/-- What is below an entry of a directory is below no other entry of it. -/
theorem eq_of_branch {a b : Name} (ha : a :: here <:+ l) (hb : b :: here <:+ l) : a = b := by
  have hsame := List.suffix_of_suffix_length_le ha hb (by simp)
  exact (List.cons.inj (hsame.eq_of_length (by simp))).1

/-! ## Routes on plain disks -/

/-- A route without links does not depend on how links are treated. -/
theorem Route.plain (hplain : d.Plain) (follow' : Bool) (links' : Nat)
    (h : Route d follow links here parts spot) : Route d follow' links' here parts spot := by
  induction h with
  | arrived links here => exact .arrived links' here
  | stay _ ih => exact .stay ih
  | ascend _ ih => exact .ascend ih
  | enter name hnode _ ih => exact .enter name hnode ih
  | file name hnode => exact .file name hnode
  | link name _ hnode => exact absurd hnode (hplain _ _)
  | jump name hnode _ _ _ _ => exact absurd hnode (hplain _ _)
  | vacant name hnode => exact .vacant name hnode

theorem Route.location (hplain : d.Plain) (h : Route d follow links here parts spot) :
    spot.location = landing here parts := by
  induction h with
  | arrived links here => rfl
  | stay _ ih => rw [landing_dot, ih]
  | ascend _ ih => rw [landing_dots, ih]
  | enter name hnode _ ih => rw [landing_name, ih]
  | file name hnode => rw [landing_name]; rfl
  | link name _ hnode => exact absurd hnode (hplain _ _)
  | jump name hnode _ _ _ _ => exact absurd hnode (hplain _ _)
  | vacant name hnode => rw [landing_name]; rfl

theorem locate_location (hplain : d.Plain) (h : d.locate p follow = .ok spot) :
    spot.location = landing (start d.cwd p) p.steps :=
  (locate_eq_ok_iff.1 h).2.location hplain

theorem stat_location (hplain : d.Plain) (h : d.stat p = .ok (at_, node)) :
    at_ = landing (start d.cwd p) p.steps :=
  locate_location hplain (stat_eq_ok_iff_locate.1 h)

/-! ## Plain disks stay plain -/

theorem Extends.plain {written made : List Path} (h : Extends d e written made) (hplain : d.Plain) :
    e.Plain := by
  intro l target hlink
  rcases h.added l _ hlink with hold | ⟨hdirectory, _⟩ | ⟨_, hfile, _⟩
  · exact hplain l target hold
  · cases hdirectory
  · cases hfile

theorem plain_staged {dir : Location} {name : Name} {f : FileData} (hplain : d.Plain)
    (hdir : d.node? dir = some .directory) (hfree : d.node? (name :: dir) = none) :
    (d.staged dir name f).Plain :=
  fun l target hlink => hplain l target (node?_of_staged hdir hfree (by simp) hlink)

theorem Replaced.plain {f : FileData} (h : Replaced d e at_ n f) (hplain : d.Plain) : e.Plain := by
  intro l target hlink
  rw [h.node?] at hlink
  split at hlink
  · cases hlink
  · exact hplain l target hlink

/-! ## Places below a root -/

/-- Where the path of a root leads without links. -/
def rootPlace (d : Disk) (root : Path) : Location := landing (start d.cwd root) root.base

theorem landing_under {root : Path} (h : Path.Under root p parts) :
    landing (start d.cwd p) p.steps = landing (d.rootPlace root) parts := by
  rw [h.steps, landing_append, rootPlace, start, start, h.isAbsolute]

theorem stat_under {root : Path} (hplain : d.Plain) (h : Path.Under root p parts)
    (hstat : d.stat p = .ok (at_, node)) : at_ = landing (d.rootPlace root) parts := by
  rw [stat_location hplain hstat, landing_under h]

end ReleaseBundle.Disk

namespace ReleaseBundle.Bundle

open Disk (landing)

variable {d e ground : Disk} {source archive root : Path} {f : Format} {entries : List Entry}
  {items : List Item} {at_ : Location} {parts : List Bytes} {medium : Bundle.Medium}

/-- Without links an archive is put where its path lands. -/
theorem Packed.place (h : Packed medium d source archive f entries items ground at_ e) (hplain : d.Plain)
    (hunder : Path.Under root archive parts) : at_ = landing (d.rootPlace root) parts := by
  obtain ⟨dir, name, spot, hplace, _, hlocate, _, rfl⟩ := h.staged
  have hstaged := Disk.plain_staged (f := stagingFile (Archive.encode f items))
    (h.grown.plain hplain) hplace.node? hplace.free
  rw [Disk.locate_location hstaged hlocate, Disk.landing_under hunder, Disk.rootPlace, Disk.rootPlace,
    Disk.cwd_staged, h.grown.cwd]

end ReleaseBundle.Bundle
