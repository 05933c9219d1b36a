import ReleaseBundle.Proofs.Bundle.Walk
import Mathlib.Logic.Relation

/-!
# The walk, one step at a time

A tour keeps what it has listed so far and an agenda. The first task on the agenda is done next, and what
it leads to comes before the rest, so entries are come to in the order of the walk. A tour halts when
nothing is left to do, or at the first task that fails. There is one way to go on at most, and by
induction on the walk every directory that is entered is left again or ends the tour: no tour goes on
forever, and it halts with what the walk returns.
-/

namespace ReleaseBundle.Bundle

/-- An entry of a directory when the walk comes to it. -/
structure Visit where
  /-- The directory that has the entry. -/
  here : Ancestor
  /-- The directories around it, the innermost first. -/
  above : List Ancestor
  name : Name
  node : Node
  deriving DecidableEq

namespace Visit

/-- The directories that the walk is inside of, the innermost first. -/
def stack (v : Visit) : List Ancestor := v.here :: v.above

/-- Where the entry is, whatever it leads to. -/
def location (v : Visit) : Location := v.name :: v.here.location

def path (v : Visit) : Path := v.here.path.child v.name.bytes

end Visit

inductive Task where
  /-- A directory is opened, with the directories around it. -/
  | enter (here : Ancestor) (above : List Ancestor)
  | visit (v : Visit)
  deriving DecidableEq

/-- The visits to some entries of a directory. -/
def visits (here : Ancestor) (above : List Ancestor) (cs : List (Name × Node)) : List Task :=
  cs.map fun c => .visit ⟨here, above, c.1, c.2⟩

variable (d : Disk) (source : Path) (rootName : String)

/-- What doing a task lists, and the tasks that it leads to. -/
def Task.perform : Task → Except ArchiveFailure (List Entry × List Task)
  | .enter here above =>
    match d.stat here.path with
    | .error fault => .error (.walk (.unreadable here.path fault))
    | .ok _ => .ok ([], visits here above (sortedChildren d here.location))
  | .visit v =>
    match standing d v.stack v.location v.path v.node with
    | .error e => .error (.walk e)
    | .ok what =>
      match entryName source rootName v.path with
      | .error e => .error e
      | .ok called =>
        match what with
        | .file => .ok ([⟨v.path, called, false⟩], [])
        | .directory l => .ok ([⟨v.path, called, true⟩], [.enter ⟨l, v.path⟩ v.stack])

/-- A walk on its way. -/
structure Tour where
  listed : List Entry
  agenda : List Task
  deriving DecidableEq

namespace Tour

/-- The walk through `source`, which leads to the directory `top`, before its first step. -/
def start (top : Location) : Tour := ⟨[⟨source, rootName, true⟩], [.enter ⟨top, source⟩ []]⟩

/-- The first task is done. -/
inductive Next : Tour → Tour → Prop where
  | perform {task : Task} {es : List Entry} {tasks : List Task} (listed : List Entry) (rest : List Task) :
    task.perform d source rootName = .ok (es, tasks) →
    Next ⟨listed, task :: rest⟩ ⟨listed ++ es, tasks ++ rest⟩

/-- The tour after its first task, if it has one that does not fail. -/
def next? : Tour → Option Tour
  | ⟨_, []⟩ => none
  | ⟨listed, task :: rest⟩ =>
    match task.perform d source rootName with
    | .error _ => none
    | .ok (es, tasks) => some ⟨listed ++ es, tasks ++ rest⟩

/-- Any number of tasks is done. -/
abbrev Run : Tour → Tour → Prop := Relation.ReflTransGen (Next d source rootName)

/-- Nothing is left to do, or the first task fails. -/
inductive Halted : Tour → Except ArchiveFailure (List Entry) → Prop where
  | done (listed : List Entry) : Halted ⟨listed, []⟩ (.ok listed)
  | failed {task : Task} {e : ArchiveFailure} (listed : List Entry) (rest : List Task) :
    task.perform d source rootName = .error e → Halted ⟨listed, task :: rest⟩ (.error e)

variable {d source rootName} {t u : Tour} {r : Except ArchiveFailure (List Entry)}

/-! ## One step -/

theorem next_enter {here : Ancestor} {above : List Ancestor} {x : Location × Node}
    (hstat : d.stat here.path = .ok x) (listed : List Entry) (rest : List Task) :
    Next d source rootName ⟨listed, .enter here above :: rest⟩
      ⟨listed, visits here above (sortedChildren d here.location) ++ rest⟩ := by
  have hperform : (Task.enter here above).perform d source rootName =
      .ok ([], visits here above (sortedChildren d here.location)) := by
    simp only [Task.perform, hstat]
  simpa using Next.perform listed rest hperform

theorem next_file {v : Visit} {called : String}
    (hstanding : standing d v.stack v.location v.path v.node = .ok .file)
    (hname : entryName source rootName v.path = .ok called) (listed : List Entry) (rest : List Task) :
    Next d source rootName ⟨listed, .visit v :: rest⟩ ⟨listed ++ [⟨v.path, called, false⟩], rest⟩ := by
  have hperform : (Task.visit v).perform d source rootName = .ok ([⟨v.path, called, false⟩], []) := by
    simp only [Task.perform, hstanding, hname]
  exact .perform listed rest hperform

theorem next_directory {v : Visit} {called : String} {l : Location}
    (hstanding : standing d v.stack v.location v.path v.node = .ok (.directory l))
    (hname : entryName source rootName v.path = .ok called) (listed : List Entry) (rest : List Task) :
    Next d source rootName ⟨listed, .visit v :: rest⟩
      ⟨listed ++ [⟨v.path, called, true⟩], .enter ⟨l, v.path⟩ v.stack :: rest⟩ := by
  have hperform : (Task.visit v).perform d source rootName =
      .ok ([⟨v.path, called, true⟩], [.enter ⟨l, v.path⟩ v.stack]) := by
    simp only [Task.perform, hstanding, hname]
  exact .perform listed rest hperform

/-! ## There is one way to go on -/

theorem next_iff : Next d source rootName t u ↔ t.next? d source rootName = some u := by
  constructor
  · rintro ⟨listed, rest, hperform⟩
    simp only [next?, hperform]
  · intro h
    unfold next? at h
    split at h
    · cases h
    · split at h
      · cases h
      next hperform =>
      cases h
      exact .perform _ _ hperform

instance : Decidable (Next d source rootName t u) := decidable_of_iff _ next_iff.symm

theorem next_rightUnique : Relator.RightUnique (Next d source rootName) := by
  intro t u u' hfirst hsecond
  rw [next_iff] at hfirst hsecond
  exact Option.some.inj (hfirst.symm.trans hsecond)

/-- The tour when it has gone on for up to `n` tasks. -/
def after (d : Disk) (source : Path) (rootName : String) : ℕ → Tour → Tour
  | 0, t => t
  | n + 1, t =>
    match t.next? d source rootName with
    | none => t
    | some u => u.after d source rootName n

theorem run_after (d : Disk) (source : Path) (rootName : String) (n : ℕ) (t : Tour) :
    Run d source rootName t (t.after d source rootName n) := by
  induction n generalizing t with
  | zero => exact .refl
  | succ n ih =>
    unfold after
    split
    · exact .refl
    · next u hnext => exact .head (next_iff.2 hnext) (ih u)

/-- A tour that goes on has come no further than before, or has taken the one step there is. -/
theorem run_cases {w : Tour} (hnext : Next d source rootName t u) (hrun : Run d source rootName t w) :
    w = t ∨ Run d source rootName u w := by
  rcases hrun.cases_head with rfl | ⟨u', hnext', hrest⟩
  · exact Or.inl rfl
  · rw [next_rightUnique hnext hnext']
    exact Or.inr hrest

theorem Halted.not_next (h : Halted d source rootName t r) (u : Tour) : ¬ Next d source rootName t u := by
  rintro ⟨listed, rest, hok⟩
  cases h with
  | failed _ _ herror =>
    rw [herror] at hok
    cases hok

theorem Halted.eq_of_run (h : Halted d source rootName t r) (hrun : Run d source rootName t u) : u = t := by
  rcases hrun.cases_head with rfl | ⟨next, hnext, _⟩
  · rfl
  · exact absurd hnext (h.not_next next)

theorem Halted.unique {r' : Except ArchiveFailure (List Entry)} (h : Halted d source rootName t r)
    (h' : Halted d source rootName t r') : r = r' := by
  cases h with
  | done => cases h'; rfl
  | failed _ _ herror =>
    cases h' with
    | failed _ _ herror' =>
      rw [herror] at herror'
      cases herror'
      rfl

/-- Whatever a tour comes to lies on the way to where it halts. -/
theorem Halted.run_of_run {origin : Tour} (h : Halted d source rootName t r)
    (hrun : Run d source rootName origin t) (hother : Run d source rootName origin u) :
    Run d source rootName u t := by
  rcases hrun.total_of_right_unique next_rightUnique hother with hpast | hbefore
  · rw [h.eq_of_run hpast]
  · exact hbefore

/-- A tour that halts somewhere does not go on forever. -/
theorem Halted.finite {origin : Tour} (h : Halted d source rootName t r)
    (hrun : Run d source rootName origin t) :
    ¬ ∃ tours : ℕ → Tour, tours 0 = origin ∧ ∀ n, Next d source rootName (tours n) (tours (n + 1)) := by
  induction hrun using Relation.ReflTransGen.head_induction_on with
  | refl =>
    rintro ⟨tours, rfl, hnext⟩
    exact h.not_next _ (hnext 0)
  | head hfirst _ ih =>
    rintro ⟨tours, rfl, hnext⟩
    exact ih ⟨fun n => tours (n + 1), next_rightUnique (hnext 0) hfirst, fun n => hnext (n + 1)⟩

/-! ## A tour within a longer one -/

/-- The tour when `front` has been listed before it and `rest` is to be done after it. -/
def within (front : List Entry) (rest : List Task) (t : Tour) : Tour :=
  ⟨front ++ t.listed, t.agenda ++ rest⟩

theorem Next.within (front : List Entry) (rest : List Task) (h : Next d source rootName t u) :
    Next d source rootName (t.within front rest) (u.within front rest) := by
  obtain ⟨listed, after, hok⟩ := h
  simpa [Tour.within] using Next.perform (front ++ listed) (after ++ rest) hok

theorem run_within (front : List Entry) (rest : List Task) (h : Run d source rootName t u) :
    Run d source rootName (t.within front rest) (u.within front rest) :=
  h.lift _ fun _ _ hnext => hnext.within front rest

theorem Halted.within_error {e : ArchiveFailure} (front : List Entry) (rest : List Task)
    (h : Halted d source rootName t (.error e)) :
    Halted d source rootName (t.within front rest) (.error e) := by
  cases h with
  | failed listed after herror => exact .failed _ _ herror

theorem Halted.within_nil (front : List Entry) (h : Halted d source rootName t r) :
    Halted d source rootName (t.within front []) (r.map (front ++ ·)) := by
  cases h with
  | done listed => exact .done _
  | failed listed after herror => exact .failed _ _ herror

/-! ## The walk halts -/

/-- The tour comes to where it halts, and halts with `r`. -/
def Ends (d : Disk) (source : Path) (rootName : String) (t : Tour) (r : Except ArchiveFailure (List Entry)) :
    Prop :=
  ∃ last, Run d source rootName t last ∧ Halted d source rootName last r

theorem Halted.ends (h : Halted d source rootName t r) : Ends d source rootName t r := ⟨t, .refl, h⟩

theorem Ends.unique {r' : Except ArchiveFailure (List Entry)} (h : Ends d source rootName t r)
    (h' : Ends d source rootName t r') : r = r' := by
  obtain ⟨last, hrun, hhalted⟩ := h
  obtain ⟨last', hrun', hhalted'⟩ := h'
  obtain rfl := hhalted'.eq_of_run (hhalted.run_of_run hrun hrun')
  exact hhalted.unique hhalted'

theorem Ends.of_run (hrun : Run d source rootName t u) (h : Ends d source rootName u r) :
    Ends d source rootName t r := by
  obtain ⟨last, hrest, hhalted⟩ := h
  exact ⟨last, hrun.trans hrest, hhalted⟩

theorem Ends.within_error {e : ArchiveFailure} (front : List Entry) (rest : List Task)
    (h : Ends d source rootName t (.error e)) : Ends d source rootName (t.within front rest) (.error e) := by
  obtain ⟨last, hrun, hhalted⟩ := h
  exact ⟨_, run_within front rest hrun, hhalted.within_error front rest⟩

theorem Ends.within_nil (front : List Entry) (h : Ends d source rootName t r) :
    Ends d source rootName (t.within front []) (r.map (front ++ ·)) := by
  obtain ⟨last, hrun, hhalted⟩ := h
  exact ⟨_, run_within front [] hrun, hhalted.within_nil front⟩

/-- A tour that is through with its tasks has them listed. -/
theorem Ends.run_listed {tasks : List Task} {es : List Entry}
    (h : Ends d source rootName ⟨[], tasks⟩ (.ok es)) (front : List Entry) (rest : List Task) :
    Run d source rootName ⟨front, tasks ++ rest⟩ ⟨front ++ es, rest⟩ := by
  obtain ⟨_, hrun, ⟨_⟩⟩ := h
  simpa [within] using run_within front rest hrun

theorem Ends.from {rest : List Task} (front : List Entry) (h : Ends d source rootName ⟨[], rest⟩ r) :
    Ends d source rootName ⟨front, rest⟩ (r.map (front ++ ·)) := by
  simpa [within] using h.within_nil front

theorem ends_walk (d : Disk) (source : Path) (rootName : String) :
    (∀ here above,
      Ends d source rootName ⟨[], [.enter here above]⟩ (walkDirectory d source rootName here above)) ∧
    (∀ here above (cs : List (Child d here.location)),
      Ends d source rootName ⟨[], visits here above (cs.map Subtype.val)⟩
        (walkChildren d source rootName here above cs)) := by
  refine walkDirectory.mutual_induct d source rootName
    (fun here above =>
      Ends d source rootName ⟨[], [.enter here above]⟩ (walkDirectory d source rootName here above))
    (fun here above cs =>
      Ends d source rootName ⟨[], visits here above (cs.map Subtype.val)⟩
        (walkChildren d source rootName here above cs))
    ?unreadable ?opened ?nil ?refused ?unnamed ?file ?broken ?directory
  case unreadable =>
    intro here above fault hstat
    rw [walkDirectory, hstat]
    exact (Halted.failed [] [] (by simp only [Task.perform, hstat])).ends
  case opened =>
    intro here above x hstat ih
    rw [map_childrenOf] at ih
    rw [walkDirectory, hstat]
    have hnext : Next d source rootName ⟨[], [.enter here above]⟩ _ := next_enter hstat [] []
    rw [List.append_nil] at hnext
    exact ih.of_run (.single hnext)
  case nil =>
    intro here above
    rw [walkChildren]
    exact (Halted.done []).ends
  case refused =>
    intro here above name node hc rest path e hstanding
    subst path
    simp only [walkChildren_eq, hstanding]
    refine (Halted.failed [] _ ?_).ends
    simp only [Task.perform, Visit.stack, Visit.location, Visit.path, hstanding]
  case unnamed =>
    intro here above name node hc rest path what hstanding e hname
    subst path
    simp only [walkChildren_eq, hstanding, hname]
    refine (Halted.failed [] _ ?_).ends
    simp only [Task.perform, Visit.stack, Visit.location, Visit.path, hstanding, hname]
  case file =>
    intro here above name node hc rest path called hname hstanding _ ih
    subst path
    simp only [walkChildren_eq, hstanding, hname]
    have hnext := next_file (v := ⟨here, above, name, node⟩) hstanding hname []
    exact (ih.from _).of_run (.single (hnext _))
  case broken =>
    intro here above name node hc rest path called hname l hstanding e hbelow _ ihBelow
    subst path
    rw [hbelow] at ihBelow
    simp only [walkChildren_eq, hstanding, hname, hbelow]
    have hnext := next_directory (v := ⟨here, above, name, node⟩) hstanding hname []
    exact (ihBelow.within_error [_] _).of_run (.single (hnext _))
  case directory =>
    intro here above name node hc rest path called hname l hstanding below hbelow _ ihBelow ih
    subst path
    rw [hbelow] at ihBelow
    simp only [walkChildren_eq, hstanding, hname, hbelow]
    have hnext := next_directory (v := ⟨here, above, name, node⟩) hstanding hname []
    exact (ih.from _).of_run (.head (hnext _) (ihBelow.run_listed _ _))

end Tour

end ReleaseBundle.Bundle
