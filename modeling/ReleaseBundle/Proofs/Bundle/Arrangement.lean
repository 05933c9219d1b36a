import ReleaseBundle.Proofs.Bundle.Contents
import ReleaseBundle.Proofs.Bundle.Loops
import ReleaseBundle.Proofs.Bundle.Order
import ReleaseBundle.Proofs.Path.Meaning

/-!
# How the entries of a bundle are arranged

Whoever unpacks an archive relies on more than what is in it: a directory has to come before what it holds,
no name may come twice, and no name may lead out of the place that is unpacked into. A tour opens only
directories that it has listed, and no step breaks that, so what it lists has been come to from a directory
listed before. Names follow from places: all that a walk comes to is below the path it started from, however
that is spelled, so the path can be taken off again, and what is left are names of entries.
-/

namespace ReleaseBundle.Bundle

variable {d : Disk} {source : Path} {rootName : String} {top : Location} {es : List Entry}

/-! ## Directories are listed before they are opened -/

/-- The entry was come to from a directory of the list. -/
def Held (es : List Entry) (e : Entry) : Prop :=
  ∃ p ∈ es, p.isDirectory = true ∧ ∃ name : Name, e.source = p.source.child name.bytes

/-- All entries but the first were come to from a directory that is listed before. -/
def Nested (es : List Entry) : Prop :=
  ∀ front e rest, es = front ++ e :: rest → front ≠ [] → Held front e

theorem Nested.concat {e : Entry} (h : Nested es) (hheld : Held es e) : Nested (es ++ [e]) := by
  intro front e' rest hsplit hfront
  rcases List.eq_nil_or_concat' rest with rfl | ⟨rest, last, rfl⟩
  · obtain ⟨rfl, hlast⟩ := List.append_inj' hsplit rfl
    cases hlast
    exact hheld
  · rw [← List.cons_append, ← List.append_assoc] at hsplit
    exact h front e' rest (List.append_inj' hsplit rfl).1 hfront

/-- The path of the directory that is opened, or whose entry is visited. -/
def Task.directory : Task → Path
  | .enter here _ => here.path
  | .visit v => v.here.path

/-- A task lists nothing and goes on in its directory, or it lists one entry of its directory. If that is a
directory, it may be opened. -/
theorem Task.perform_cases {task : Task} {tasks : List Task}
    (h : task.perform d source rootName = .ok (es, tasks)) :
    (es = [] ∧ ∀ t ∈ tasks, t.directory = task.directory) ∨
      ∃ e, es = [e] ∧ (∃ name : Name, e.source = task.directory.child name.bytes) ∧
        ∀ t ∈ tasks, e.isDirectory = true ∧ t.directory = e.source := by
  cases task with
  | enter here above =>
    simp only [Task.perform] at h
    split at h
    · cases h
    cases h
    refine Or.inl ⟨rfl, fun t ht => ?_⟩
    obtain ⟨c, _, rfl⟩ := List.mem_map.1 ht
    rfl
  | visit v =>
    simp only [Task.perform] at h
    split at h
    · cases h
    next what _ =>
    split at h
    · cases h
    next called _ =>
    cases what with
    | file =>
      cases h
      exact Or.inr ⟨_, rfl, ⟨v.name, rfl⟩, by simp⟩
    | directory l =>
      cases h
      refine Or.inr ⟨_, rfl, ⟨v.name, rfl⟩, fun t ht => ?_⟩
      rw [List.mem_singleton.1 ht]
      exact ⟨rfl, rfl⟩

/-- What has been listed is nested, and the directory of every task on the agenda is listed. -/
structure Tour.Rooted (t : Tour) : Prop where
  nested : Nested t.listed
  agenda : ∀ task ∈ t.agenda, ∃ p ∈ t.listed, p.isDirectory = true ∧ p.source = task.directory

namespace Tour.Rooted

theorem start (source : Path) (rootName : String) (top : Location) :
    (Tour.start source rootName top).Rooted where
  nested := by
    intro front e rest hsplit hfront
    rcases List.append_eq_singleton_iff.1 hsplit.symm with ⟨rfl, _⟩ | ⟨_, hnil⟩
    · exact absurd rfl hfront
    · cases hnil
  agenda := by
    intro task htask
    rw [List.mem_singleton.1 htask]
    exact ⟨_, List.mem_cons_self, rfl, rfl⟩

theorem next {t u : Tour} (h : t.Rooted) (hnext : Tour.Next d source rootName t u) : u.Rooted := by
  obtain ⟨listed, rest, hperform⟩ := hnext
  -- the directory of the task is listed already, so what the task lists comes behind it
  obtain ⟨p, hp, hdirectory, hsource⟩ := h.agenda _ List.mem_cons_self
  rcases Task.perform_cases hperform with ⟨rfl, htasks⟩ | ⟨e, rfl, ⟨name, hname⟩, htasks⟩
  · simp only [List.append_nil]
    refine ⟨h.nested, fun task htask => ?_⟩
    rcases List.mem_append.1 htask with htask | htask
    · exact ⟨p, hp, hdirectory, hsource.trans (htasks task htask).symm⟩
    · exact h.agenda task (List.mem_cons_of_mem _ htask)
  · refine ⟨h.nested.concat ⟨p, hp, hdirectory, name, by rw [hname, hsource]⟩, fun task htask => ?_⟩
    rcases List.mem_append.1 htask with htask | htask
    · obtain ⟨hopened, hsame⟩ := htasks task htask
      exact ⟨e, by simp, hopened, hsame.symm⟩
    · obtain ⟨q, hq, hlisted⟩ := h.agenda task (List.mem_cons_of_mem _ htask)
      exact ⟨q, List.mem_append_left _ hq, hlisted⟩

theorem run {t u : Tour} (h : t.Rooted) (hrun : Tour.Run d source rootName t u) : u.Rooted := by
  induction hrun with
  | refl => exact h
  | tail _ hnext ih => exact ih.next hnext

end Tour.Rooted

theorem nested_of_collect (hsource : d.stat source = .ok (top, .directory))
    (hname : source.fileName? = some (Text.ofString rootName)) (h : collect d source = .ok es) :
    Nested es := by
  obtain ⟨last, hrun, hhalted⟩ := ends_collect hsource hname
  rw [h] at hhalted
  cases hhalted with
  | done => exact ((Tour.Rooted.start source rootName top).run hrun).nested

/-! ## The path of the bundle can be taken off -/

/-- All that a walk comes to is below its source, in every spelling of the source. -/
theorem Meets.relativeTo? {v : Visit} (hsource : d.stat source = .ok (top, .directory))
    (h : Meets d source rootName top v) : ∃ rest, v.path.relativeTo? source = some rest := by
  obtain ⟨rel, hpath, _⟩ := (h.descent hsource).1.path_below
  rw [Visit.path, hpath, ← Path.below_concat]
  exact ⟨_, Path.relativeTo?_below (Disk.bytes_ne_nil_of_stat hsource) _⟩

theorem collect_ne_outsideSource (d : Disk) (source : Path) :
    collect d source ≠ .error .outsideSource := by
  intro h
  have hcollected := h
  unfold collect at h
  split at h
  · cases h
  next bytes hbytes =>
  split at h
  · cases h
  next chars hchars =>
  split at h
  · cases h
  next l node hstat =>
  split at h
  · next e herror =>
    cases h
    rcases entryName_below_cases (Disk.bytes_ne_nil_of_stat hstat) (String.ofList chars) [] with
      ⟨_, hcalled, _⟩ | ⟨hother, _⟩
    · rw [Path.below_nil, herror] at hcalled
      cases hcalled
    · rw [Path.below_nil, herror] at hother
      cases hother
  · split at h
    · next hdirectory =>
      have hname : source.fileName? = some (Text.ofString (String.ofList chars)) := by
        rw [Text.ofString, String.toList_ofList, Text.encode_of_decode? hchars, hbytes]
      rw [hdirectory] at hstat
      obtain ⟨v, _, hfails⟩ := fails_of_collect hstat hname hcollected
      cases hfails
    · cases h

/-! ## Names -/

/-- The parts of what an entry is called. -/
def Entry.parts (e : Entry) : List Bytes := Path.splitSlash (Text.ofString e.name)

variable {rel : List Name} {rels : List (List Name)} {e : Entry}

/-- An entry has the name of the bundle and the names on the way to it for parts. -/
theorem Listed.parts (h : Listed d source rootName rel e)
    (hroot : source.fileName? = some (Text.ofString rootName)) :
    e.parts = Text.ofString rootName :: rel.map Name.bytes := by
  obtain ⟨_, hslash, hnil, _⟩ := Path.fileName?_spec hroot
  rw [Entry.parts, h.name, Path.splitSlash_glue fun t ht => (parts_of_place hslash hnil rel t ht).2]

/-- The parts lead neither up nor nowhere. -/
theorem Listed.proper (h : Listed d source rootName rel e)
    (hroot : source.fileName? = some (Text.ofString rootName)) :
    ∀ part ∈ e.parts, part ≠ [] ∧ part ≠ [Path.dot] ∧ part ≠ [Path.dot, Path.dot] := by
  rw [h.parts hroot]
  intro part hpart
  rcases List.mem_cons.1 hpart with rfl | hpart
  · exact (Path.fileName?_spec hroot).2.2
  · obtain ⟨name, _, rfl⟩ := List.mem_map.1 hpart
    exact ⟨name.bytes_ne_nil, name.bytes_ne_dot, name.bytes_ne_dots⟩

/-- What is listed one level deeper has one part more in its name. -/
theorem Listed.name_child {p : Entry} {place : List Name} {name : Name}
    (hp : Listed d source rootName place p)
    (he : Listed d source rootName rel e) (hsource : source.bytes ≠ [])
    (hchild : e.source = p.source.child name.bytes) :
    Text.ofString e.name = Text.ofString p.name ++ Path.slash :: name.bytes := by
  obtain rfl : rel = place ++ [name] := by
    apply below_injective hsource
    rw [← he.source, hchild, hp.source, Path.below_concat]
  rw [he.name, hp.name, Path.glue_eq_trail, Path.glue_eq_trail]
  simp [Path.trail]

theorem Complete.pairwise (h : Complete d source rootName rels es)
    (hroot : source.fileName? = some (Text.ofString rootName)) (hordered : rels.Pairwise Before) :
    es.Pairwise fun a b => a.parts < b.parts := by
  have hparts : es.map Entry.parts = rels.map fun rel => Text.ofString rootName :: rel.map Name.bytes := by
    apply Eq.symm
    rw [← List.forall₂_eq_eq_eq, List.forall₂_map_left_iff, List.forall₂_map_right_iff]
    exact h.listed.imp fun rel e hlisted => (hlisted.parts hroot).symm
  rw [← List.pairwise_map (f := Entry.parts), hparts, List.pairwise_map]
  exact hordered.imp fun hbefore => List.cons_lt_cons_self.2 hbefore

/-- The entries are arranged like a tree that is read from its root on: each directory before what it holds,
each name once, and no name that leads elsewhere than below the root. -/
structure Arranged (source : Path) (rootName : String) (es : List Entry) : Prop where
  head : ∃ rest, es = ⟨source, rootName, true⟩ :: rest
  ordered : es.Pairwise fun a b => a.parts < b.parts
  nodup : (es.map Entry.name).Nodup
  parent : ∀ front e rest, es = front ++ e :: rest → front ≠ [] →
    ∃ p ∈ front, p.isDirectory = true ∧ ∃ part, Path.slash ∉ part ∧
      Text.ofString e.name = Text.ofString p.name ++ Path.slash :: part
  proper : ∀ e ∈ es, (Text.ofString e.name).head? ≠ some Path.slash ∧
    ∀ part ∈ e.parts, part ≠ [] ∧ part ≠ [Path.dot] ∧ part ≠ [Path.dot, Path.dot]
  stripped : ∀ e ∈ es, ∃ rest, e.source.relativeTo? source = some rest ∧
    e.parts = Text.ofString rootName :: rest.map Component.bytes

theorem head?_ne_slash {bs : Bytes} (h : ∀ part ∈ Path.splitSlash bs, part ≠ []) :
    bs.head? ≠ some Path.slash := by
  intro hhead
  obtain ⟨rest, rfl⟩ := List.head?_eq_some_iff.1 hhead
  exact h [] (by simp [Path.splitSlash]) rfl

theorem Complete.arranged (h : Complete d source rootName rels es) (hsource : source.bytes ≠ [])
    (hroot : source.fileName? = some (Text.ofString rootName)) (hordered : rels.Pairwise Before)
    (hnested : Nested es) (hhead : ∃ rest, es = ⟨source, rootName, true⟩ :: rest) :
    Arranged source rootName es where
  head := hhead
  ordered := h.pairwise hroot hordered
  nodup := by
    refine List.pairwise_map.2 ((h.pairwise hroot hordered).imp fun {a b} hbefore hsame => ?_)
    rw [Entry.parts, Entry.parts, hsame] at hbefore
    exact List.lt_irrefl _ hbefore
  parent := by
    intro front e rest hsplit hfront
    obtain ⟨p, hp, hdirectory, name, hchild⟩ := hnested front e rest hsplit hfront
    have hmem := (mem_of_forall₂ h.listed).2
    obtain ⟨place, _, hplace⟩ := hmem p (by simp [hsplit, hp])
    obtain ⟨rel, _, hrel⟩ := hmem e (by simp [hsplit])
    exact ⟨p, hp, hdirectory, name.bytes, name.slash_not_mem, hplace.name_child hrel hsource hchild⟩
  proper := by
    intro e he
    obtain ⟨rel, _, hrel⟩ := (mem_of_forall₂ h.listed).2 e he
    exact ⟨head?_ne_slash fun part hpart => (hrel.proper hroot part hpart).1, hrel.proper hroot⟩
  stripped := by
    intro e he
    obtain ⟨rel, _, hrel⟩ := (mem_of_forall₂ h.listed).2 e he
    refine ⟨_, by rw [hrel.source, Path.relativeTo?_below hsource], ?_⟩
    rw [hrel.parts hroot, List.map_map]
    rfl

/-- What is listed of a directory is arranged, and the directory's path can be taken off all that the walk
comes to: on every disk and in every spelling, no walk fails because something lies outside. -/
theorem collect_arranged (d : Disk) (source : Path) :
    collect d source ≠ .error .outsideSource ∧
      (∀ rootName top v, d.stat source = .ok (top, .directory) → Meets d source rootName top v →
        ∃ rest, v.path.relativeTo? source = some rest) ∧
      ∀ es, d.isDirectory source = true → collect d source = .ok es →
        ∃ rootName, source.fileName? = some (Text.ofString rootName) ∧ Arranged source rootName es := by
  refine ⟨collect_ne_outsideSource d source, fun _ _ _ hsource hmeets => hmeets.relativeTo? hsource,
    fun es hdirectory hcollected => ?_⟩
  obtain ⟨l, hstat⟩ := Disk.isDirectory_iff.1 hdirectory
  obtain ⟨rootName, rels, hroot, hcomplete⟩ := complete_of_collect hdirectory hcollected
  have hhead := hcollected
  rw [collect_eq hstat hroot, map_eq_ok_iff] at hhead
  obtain ⟨rest, _, hrest⟩ := hhead
  exact ⟨rootName, hroot, hcomplete.arranged (Disk.bytes_ne_nil_of_stat hstat) hroot
    (hcomplete.ordered hdirectory hcollected) (nested_of_collect hstat hroot hcollected) ⟨rest, hrest.symm⟩⟩

/-! ## A name that another one begins with -/

/-- A directory in the directory that is walked. -/
def shortName : Name := ⟨Text.ofString "doc", by decide⟩

/-- A directory in that one. -/
def innerName : Name := ⟨Text.ofString "more", by decide⟩

/-- A directory whose name begins like that of its sibling. -/
def longerName : Name := ⟨Text.ofString "doc.old", by decide⟩

/-- A directory with two directories and a link to a third one. The first holds another directory. -/
def crowded : Disk :=
  Disk.place [innerName, shortName, insideName] .directory
    (Disk.place [longerName, insideName] .directory branching)

/-- The directory, spelled in a roundabout way. -/
def roundabout : Path := .ofString ".//S//."

/-- What the directory holds, in order. -/
def crowdedChildren : List (Name × Node) :=
  [(shortName, .directory), (longerName, .directory), (thereName, .link (.ofString "../V"))]

/-- What is listed. As plain text the last name but one would come before the one in front of it. -/
def crowdedEntries : List Entry :=
  [⟨roundabout, "S", true⟩, ⟨.ofString ".//S//./doc", "S/doc", true⟩,
    ⟨.ofString ".//S//./doc/more", "S/doc/more", true⟩, ⟨.ofString ".//S//./doc.old", "S/doc.old", true⟩,
    ⟨.ofString ".//S//./l", "S/l", true⟩]

theorem crowded_opened : crowded.stat roundabout = .ok ([insideName], .directory) ∧
    Tour.Next crowded roundabout "S" (.start roundabout "S" [insideName])
      ⟨crowdedEntries.take 1, visits ⟨[insideName], roundabout⟩ [] crowdedChildren⟩ := by
  have hstat : crowded.stat roundabout = .ok ([insideName], .directory) := by decide +kernel
  have hchildren : (crowded.children [insideName]).Perm crowdedChildren := by decide +kernel
  have hsorted : sortedChildren crowded [insideName] = crowdedChildren := by
    refine sortedChildren_eq (by decide) fun c => ?_
    rw [← hchildren.mem_iff]
    exact Disk.mem_children
  have hnext : Tour.Next crowded roundabout "S" (.start roundabout "S" [insideName]) _ :=
    Tour.next_enter hstat _ _
  rw [hsorted, List.append_nil] at hnext
  exact ⟨hstat, hnext⟩

/-- The directory is listed, and what is listed is arranged, also for a spelling of its path that nothing in
the list shows. -/
theorem crowded_arranged :
    collect crowded roundabout = .ok crowdedEntries ∧
      (∃ rootName, roundabout.fileName? = some (Text.ofString rootName) ∧
        Arranged roundabout rootName crowdedEntries) ∧
      ∃ v, v.name = shortName ∧ Meets crowded roundabout "S" [insideName] v ∧
        ∃ rest, v.path.relativeTo? roundabout = some rest := by
  obtain ⟨hstat, hopened⟩ := crowded_opened
  have hname : roundabout.fileName? = some (Text.ofString "S") := by decide +kernel
  have hrest : (Tour.mk (crowdedEntries.take 1) (visits ⟨[insideName], roundabout⟩ [] crowdedChildren)).after
      crowded roundabout "S" 8 = ⟨crowdedEntries, []⟩ := by decide +kernel
  have hrun := Tour.run_after crowded roundabout "S" 8
    ⟨crowdedEntries.take 1, visits ⟨[insideName], roundabout⟩ [] crowdedChildren⟩
  rw [hrest] at hrun
  have hcollected : collect crowded roundabout = .ok crowdedEntries :=
    (ends_collect hstat hname).unique ((Tour.Halted.done crowdedEntries).ends.of_run (.head hopened hrun))
  have hmeets : Meets crowded roundabout "S" [insideName]
      ⟨⟨[insideName], roundabout⟩, [], shortName, .directory⟩ := ⟨_, _, .single hopened⟩
  obtain ⟨_, hstripped, harranged⟩ := collect_arranged crowded roundabout
  exact ⟨hcollected, harranged _ (Disk.isDirectory_iff.2 ⟨_, hstat⟩) hcollected,
    _, rfl, hmeets, hstripped _ _ _ hstat hmeets⟩

end ReleaseBundle.Bundle
