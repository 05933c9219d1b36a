import ReleaseBundle.Disk.Difference
import ReleaseBundle.Proofs.Bundle.Coverage
import ReleaseBundle.Proofs.Bundle.Tour
import ReleaseBundle.Proofs.Bytes.Encoding

/-!
# When a walk goes round in circles

The directories that a walk is inside of form a descent from the source: each was come to by its name in
the one before, and its path leads to it. That holds when the walk starts, and no step breaks it. So a task
fails for one of three reasons, which can be told from the disk and the descent alone: a link leads back to
a directory of the descent, a path is refused, or a name is not UTF-8. Since a walk halts with what its
last task gives, it reports a loop exactly if it comes to a link that leads back, and where it comes to
none of the three it returns its entries.
-/

namespace ReleaseBundle.Bundle

variable {d : Disk} {source : Path} {rootName : String} {top : Location} {rel : List Name}

/-! ## Why an entry fails -/

namespace Visit

/-- The entry is a link to a directory that the walk is inside of. The path of the innermost visit to it
is `outer`. -/
def LeadsBack (d : Disk) (v : Visit) (outer : Path) : Prop :=
  ∃ target l inner a around, v.node = .link target ∧ d.stat v.path = .ok (l, .directory) ∧
    v.stack = inner ++ a :: around ∧ a.location = l ∧ a.path = outer ∧ ∀ b ∈ inner, b.location ≠ l

/-- The entry is a link or a directory, and its path is not followed. -/
def Refused (d : Disk) (v : Visit) : Prop :=
  (∀ n, v.node ≠ .file n) ∧ ∃ fault, d.stat v.path = .error fault

/-- The entry has a name that is not UTF-8. -/
def Garbled (v : Visit) : Prop := Text.decode? v.name.bytes = none

instance (v : Visit) : Decidable v.Garbled := inferInstanceAs (Decidable (_ = _))

end Visit

theorem standing_error {v : Visit} {e : WalkFailure}
    (h : standing d v.stack v.location v.path v.node = .error e) :
    (∃ outer, v.LeadsBack d outer ∧ e = .loop v.path outer) ∨
      (v.Refused d ∧ ∃ fault, e = .unreadable v.path fault) := by
  unfold standing at h
  split at h
  · cases h
  · cases h
  next target hnode =>
  split at h
  · next fault hstat =>
    cases h
    exact Or.inr ⟨⟨by simp [hnode], fault, hstat⟩, fault, rfl⟩
  · next l hstat =>
    split at h
    · next a hfind =>
      cases h
      obtain ⟨hsame, inner, around, hstack, hinner⟩ := List.find?_eq_some_iff_append.1 hfind
      refine Or.inl ⟨a.path, ⟨target, l, inner, a, around, hnode, hstat, hstack, ?_, rfl, ?_⟩, rfl⟩
      · simpa using hsame
      · simpa using hinner
    · cases h
  · cases h

theorem standing_of_leadsBack {v : Visit} {outer : Path} (h : v.LeadsBack d outer) :
    standing d v.stack v.location v.path v.node = .error (.loop v.path outer) := by
  obtain ⟨target, l, inner, a, around, hnode, hstat, hstack, rfl, rfl, hinner⟩ := h
  have hfind : v.stack.find? (fun b => b.location == a.location) = some a :=
    List.find?_eq_some_iff_append.2 ⟨by simp, inner, around, hstack, by simpa using hinner⟩
  simp only [standing, hnode, hstat, hfind]

theorem mapM_eq_none_iff {α β : Type} {f : α → Option β} {as : List α} :
    as.mapM f = none ↔ ∃ a ∈ as, f a = none := by
  induction as with
  | nil => simp
  | cons a as ih =>
    cases hfirst : f a with
    | none => simp [List.mapM_cons, hfirst]
    | some b =>
      cases hrest : as.mapM f with
      | none => simpa [List.mapM_cons, hfirst, hrest] using ih.1 hrest
      | some bs => simpa [List.mapM_cons, hfirst, hrest] using ih

/-- What is below the bundle has a name unless a part of its path is not UTF-8. -/
theorem entryName_below_cases (hsource : source.bytes ≠ []) (rootName : String) (rel : List Name) :
    (∃ called, entryName source rootName (source.below rel) = .ok called ∧
        ∀ name ∈ rel, Text.decode? name.bytes ≠ none) ∨
      (entryName source rootName (source.below rel) = .error (.notUtf8 (source.below rel)) ∧
        ∃ name ∈ rel, Text.decode? name.bytes = none) := by
  have hnames : (rel.map fun name => Component.name name.bytes).mapM (fun c => Text.decode? c.bytes) = none ↔
      ∃ name ∈ rel, Text.decode? name.bytes = none := by
    rw [mapM_eq_none_iff]
    simp [Component.bytes]
  unfold entryName
  rw [Path.relativeTo?_below hsource]
  cases hdecoded : (rel.map fun name => Component.name name.bytes).mapM (fun c => Text.decode? c.bytes) with
  | none =>
    simp only [hdecoded]
    exact Or.inr ⟨trivial, hnames.1 hdecoded⟩
  | some parts =>
    simp only [hdecoded]
    refine Or.inl ⟨_, rfl, fun name hmem hnone => ?_⟩
    rw [hnames.2 ⟨name, hmem, hnone⟩] at hdecoded
    cases hdecoded

/-! ## The directories that a walk is inside of -/

/-- The directories are opened one out of the other, from the source on: each is come to under a name in
the one before, and is what its path leads to. The innermost comes first. -/
inductive Descent (d : Disk) (source : Path) (top : Location) : List Ancestor → Prop where
  | source : Descent d source top [⟨top, source⟩]
  | entry {here : Ancestor} {above : List Ancestor} {name : Name} {node : Node} {l : Location} :
    Descent d source top (here :: above) → d.node? (name :: here.location) = some node →
    Text.decode? name.bytes ≠ none → d.stat (here.path.child name.bytes) = .ok (l, .directory) →
    Descent d source top (⟨l, here.path.child name.bytes⟩ :: here :: above)

variable {here : Ancestor} {above : List Ancestor} {v : Visit}

theorem Descent.stat (hsource : d.stat source = .ok (top, .directory))
    (h : Descent d source top (here :: above)) : d.stat here.path = .ok (here.location, .directory) := by
  cases h with
  | source => exact hsource
  | entry _ _ _ hstat => exact hstat

theorem Descent.path_below (h : Descent d source top (here :: above)) :
    ∃ rel, here.path = source.below rel ∧ ∀ name ∈ rel, Text.decode? name.bytes ≠ none := by
  generalize hstack : here :: above = stack at h
  induction h generalizing here above with
  | source =>
    cases hstack
    exact ⟨[], rfl, by simp⟩
  | @entry outer around name node l _ _ hname _ ih =>
    cases hstack
    obtain ⟨rel, hpath, hnames⟩ := ih rfl
    refine ⟨rel ++ [name], by rw [hpath, Path.below_concat], fun n hn => ?_⟩
    rcases List.mem_append.1 hn with hn | hn
    · exact hnames n hn
    · rwa [List.mem_singleton.1 hn]

/-- In a descent only the entry's own name can keep it from being named. -/
theorem Descent.entryName_cases (hsource : d.stat source = .ok (top, .directory))
    (h : Descent d source top v.stack) (rootName : String) :
    (∃ called, entryName source rootName v.path = .ok called ∧ ¬ v.Garbled) ∨
      (entryName source rootName v.path = .error (.notUtf8 v.path) ∧ v.Garbled) := by
  obtain ⟨rel, hpath, hnames⟩ := h.path_below
  have hbelow : v.path = source.below (rel ++ [v.name]) := by
    rw [Visit.path, hpath, Path.below_concat]
  rw [hbelow]
  rcases entryName_below_cases (Disk.bytes_ne_nil_of_stat hsource) rootName (rel ++ [v.name]) with
    ⟨called, hcalled, hall⟩ | ⟨herror, n, hn, hnone⟩
  · exact Or.inl ⟨called, hcalled, hall v.name (by simp)⟩
  · refine Or.inr ⟨herror, ?_⟩
    rcases List.mem_append.1 hn with hn | hn
    · exact absurd hnone (hnames n hn)
    · rwa [List.mem_singleton.1 hn] at hnone

/-! ## What a walk comes to -/

/-- The walk comes to the entry: all that is before it in the order of the walk has been listed. -/
def Meets (d : Disk) (source : Path) (rootName : String) (top : Location) (v : Visit) : Prop :=
  ∃ listed rest, Tour.Run d source rootName (.start source rootName top) ⟨listed, .visit v :: rest⟩

/-- What stands on the agenda of a walk. -/
inductive Due (d : Disk) (source : Path) (rootName : String) (top : Location) : Task → Prop where
  | source : Due d source rootName top (.enter ⟨top, source⟩ [])
  | directory {v : Visit} {l : Location} : Meets d source rootName top v → Descent d source top v.stack →
    d.node? v.location = some v.node → Stands d v.location v.path v.node (.directory l) → ¬ v.Garbled →
    Due d source rootName top (.enter ⟨l, v.path⟩ v.stack)
  | visit {v : Visit} : Descent d source top v.stack → d.node? v.location = some v.node →
    Due d source rootName top (.visit v)

/-- What is opened belongs to the descent. -/
theorem Due.descent (hsource : d.stat source = .ok (top, .directory))
    (h : Due d source rootName top (.enter here above)) {x : Location × Node}
    (hstat : d.stat here.path = .ok x) : Descent d source top (here :: above) := by
  cases h with
  | source => exact .source
  | directory _ hdescent hnode hstands hname =>
    exact .entry hdescent hnode hname (hstands.stat_directory (hdescent.stat hsource) hnode hstat)

/-- What a task leads to stands on the agenda rightly. -/
theorem Due.step (hsource : d.stat source = .ok (top, .directory)) {task : Task} {listed es : List Entry}
    {rest tasks : List Task} (h : Due d source rootName top task)
    (hrun : Tour.Run d source rootName (.start source rootName top) ⟨listed, task :: rest⟩)
    (hperform : task.perform d source rootName = .ok (es, tasks)) :
    ∀ t ∈ tasks, Due d source rootName top t := by
  cases task with
  | enter here above =>
    simp only [Task.perform] at hperform
    split at hperform
    · cases hperform
    next hstat =>
    cases hperform
    intro t ht
    obtain ⟨c, hc, rfl⟩ := List.mem_map.1 ht
    exact .visit (h.descent hsource hstat) (mem_sortedChildren.1 hc)
  | visit v =>
    obtain ⟨hdescent, hnode⟩ : Descent d source top v.stack ∧ d.node? v.location = some v.node := by
      cases h with
      | visit hdescent hnode => exact ⟨hdescent, hnode⟩
    simp only [Task.perform] at hperform
    split at hperform
    · cases hperform
    next what hstanding =>
    split at hperform
    · cases hperform
    next called hcalled =>
    cases what with
    | file =>
      cases hperform
      simp
    | directory l =>
      cases hperform
      intro t ht
      rw [List.mem_singleton.1 ht]
      refine .directory ⟨listed, rest, hrun⟩ hdescent hnode (stands_of_standing hstanding) fun hgarbled => ?_
      rcases hdescent.entryName_cases hsource rootName with ⟨_, _, hclear⟩ | ⟨herror, _⟩
      · exact hclear hgarbled
      · rw [hcalled] at herror
        cases herror

theorem due_of_run (hsource : d.stat source = .ok (top, .directory)) {t : Tour}
    (hrun : Tour.Run d source rootName (.start source rootName top) t) :
    ∀ task ∈ t.agenda, Due d source rootName top task := by
  induction hrun with
  | refl =>
    intro task hmem
    rw [List.mem_singleton.1 hmem]
    exact .source
  | @tail t u hrun hnext ih =>
    obtain ⟨listed, rest, hperform⟩ := hnext
    intro task hmem
    rcases List.mem_append.1 hmem with hmem | hmem
    · exact (ih _ List.mem_cons_self).step hsource hrun hperform task hmem
    · exact ih task (List.mem_cons_of_mem _ hmem)

theorem Meets.descent (hsource : d.stat source = .ok (top, .directory))
    (h : Meets d source rootName top v) :
    Descent d source top v.stack ∧ d.node? v.location = some v.node := by
  obtain ⟨listed, rest, hrun⟩ := h
  cases due_of_run hsource hrun _ List.mem_cons_self with
  | visit hdescent hnode => exact ⟨hdescent, hnode⟩

/-! ## How a walk fails -/

/-- What keeps a walk from going on. -/
inductive Visit.Fails (d : Disk) (v : Visit) : ArchiveFailure → Prop where
  | loop {outer : Path} : v.LeadsBack d outer → v.Fails d (.walk (.loop v.path outer))
  | refused {fault : Fault} : v.Refused d → v.Fails d (.walk (.unreadable v.path fault))
  | garbled : v.Garbled → v.Fails d (.notUtf8 v.path)

theorem Due.fails (hsource : d.stat source = .ok (top, .directory)) {task : Task} {listed : List Entry}
    {rest : List Task} {e : ArchiveFailure} (h : Due d source rootName top task)
    (hrun : Tour.Run d source rootName (.start source rootName top) ⟨listed, task :: rest⟩)
    (hperform : task.perform d source rootName = .error e) :
    ∃ v, Meets d source rootName top v ∧ v.Fails d e := by
  cases h with
  | source =>
    simp only [Task.perform, hsource] at hperform
    cases hperform
  | @directory v l hmeets hdescent hnode hstands hname =>
    simp only [Task.perform] at hperform
    split at hperform
    · next fault hstat =>
      cases hperform
      refine ⟨v, hmeets, .refused ⟨fun n hfile => ?_, fault, hstat⟩⟩
      rw [hfile] at hstands
      cases hstands
    · cases hperform
  | @visit v hdescent hnode =>
    refine ⟨v, ⟨listed, rest, hrun⟩, ?_⟩
    simp only [Task.perform] at hperform
    split at hperform
    · next fault hstanding =>
      cases hperform
      rcases standing_error hstanding with ⟨outer, hback, rfl⟩ | ⟨hrefused, fault, rfl⟩
      · exact .loop hback
      · exact .refused hrefused
    · next what _ =>
      rcases hdescent.entryName_cases hsource rootName with ⟨called, hcalled, _⟩ | ⟨herror, hgarbled⟩
      · rw [hcalled] at hperform
        cases what <;> cases hperform
      · rw [herror] at hperform
        cases hperform
        exact .garbled hgarbled

/-- A directory whose name is UTF-8 is listed with what it holds. -/
theorem collect_eq (hsource : d.stat source = .ok (top, .directory))
    (hname : source.fileName? = some (Text.ofString rootName)) :
    collect d source =
      (walkDirectory d source rootName ⟨top, source⟩ []).map (⟨source, rootName, true⟩ :: ·) := by
  have hcalled : entryName source rootName source = .ok rootName := by
    have hrelative := Path.relativeTo?_below (Disk.bytes_ne_nil_of_stat hsource) []
    rw [Path.below_nil] at hrelative
    simp [entryName, hrelative]
  simp only [collect, hname, Text.ofString, Text.decode?_encode_text, hsource, String.ofList_toList, hcalled,
    if_true]

theorem ends_collect (hsource : d.stat source = .ok (top, .directory))
    (hname : source.fileName? = some (Text.ofString rootName)) :
    Tour.Ends d source rootName (.start source rootName top) (collect d source) := by
  rw [collect_eq hsource hname]
  exact ((Tour.ends_walk d source rootName).1 ⟨top, source⟩ []).from [⟨source, rootName, true⟩]

/-- A walk fails for what keeps it from going on at the entry that it has come to. -/
theorem fails_of_collect (hsource : d.stat source = .ok (top, .directory))
    (hname : source.fileName? = some (Text.ofString rootName)) {e : ArchiveFailure}
    (h : collect d source = .error e) : ∃ v, Meets d source rootName top v ∧ v.Fails d e := by
  obtain ⟨last, hrun, hhalted⟩ := ends_collect hsource hname
  rw [h] at hhalted
  cases hhalted with
  | failed listed rest hperform =>
    exact (due_of_run hsource hrun _ List.mem_cons_self).fails hsource hrun hperform

theorem collect_of_leadsBack (hsource : d.stat source = .ok (top, .directory))
    (hname : source.fileName? = some (Text.ofString rootName)) {v : Visit} {outer : Path}
    (hmeets : Meets d source rootName top v) (h : v.LeadsBack d outer) :
    collect d source = .error (.walk (.loop v.path outer)) := by
  obtain ⟨listed, rest, hrun⟩ := hmeets
  have hperform : (Task.visit v).perform d source rootName = .error (.walk (.loop v.path outer)) := by
    simp only [Task.perform, standing_of_leadsBack h]
  exact (ends_collect hsource hname).unique ((Tour.Halted.failed listed rest hperform).ends.of_run hrun)

/-- A walk comes to an end on every disk. It reports a loop exactly if it comes to a link that leads back to
a directory it is inside of; where it comes to no such link, nothing that is refused, and no name that is
not UTF-8, it returns its entries. A source without a UTF-8 name is not walked. -/
theorem walk_ends (hsource : d.stat source = .ok (top, .directory)) :
    (∀ rootName, source.fileName? = some (Text.ofString rootName) →
      (¬ ∃ tours : ℕ → Tour, tours 0 = .start source rootName top ∧
          ∀ n, Tour.Next d source rootName (tours n) (tours (n + 1))) ∧
        Tour.Ends d source rootName (.start source rootName top) (collect d source) ∧
        (∀ v, Meets d source rootName top v →
          Descent d source top v.stack ∧ d.node? v.location = some v.node) ∧
        (∀ path outer, collect d source = .error (.walk (.loop path outer)) ↔
          ∃ v, Meets d source rootName top v ∧ v.path = path ∧ v.LeadsBack d outer) ∧
        ((∀ v, Meets d source rootName top v →
            (∀ outer, ¬ v.LeadsBack d outer) ∧ ¬ v.Refused d ∧ ¬ v.Garbled) →
          ∃ es, collect d source = .ok es)) ∧
      ((∀ rootName, source.fileName? ≠ some (Text.ofString rootName)) →
        collect d source = .error (.sourceNotDirectory source) ∨
          collect d source = .error (.notUtf8 source)) := by
  refine ⟨fun rootName hname => ⟨?finite, ends_collect hsource hname, fun v hmeets => hmeets.descent hsource,
    fun path outer => ⟨fun hloop => ?found, ?reported⟩, fun hclear => ?returned⟩, fun hnone => ?unnamed⟩
  case finite =>
    obtain ⟨last, hrun, hhalted⟩ := ends_collect hsource hname
    exact hhalted.finite hrun
  case found =>
    obtain ⟨v, hmeets, hfails⟩ := fails_of_collect hsource hname hloop
    cases hfails with
    | loop hback => exact ⟨v, hmeets, rfl, hback⟩
  case reported =>
    rintro ⟨v, hmeets, rfl, hback⟩
    exact collect_of_leadsBack hsource hname hmeets hback
  case returned =>
    cases hresult : collect d source with
    | ok es => exact ⟨es, rfl⟩
    | error e =>
      obtain ⟨v, hmeets, hfails⟩ := fails_of_collect hsource hname hresult
      obtain ⟨hback, hrefused, hgarbled⟩ := hclear v hmeets
      cases hfails with
      | loop h => exact absurd h (hback _)
      | refused h => exact absurd h hrefused
      | garbled h => exact absurd h hgarbled
  case unnamed =>
    unfold collect
    split
    · exact Or.inl rfl
    next bytes hbytes =>
    split
    · exact Or.inr rfl
    next chars hchars =>
    have hother := hnone (String.ofList chars)
    rw [Text.ofString, String.toList_ofList, Text.encode_of_decode? hchars] at hother
    exact absurd hbytes hother

/-! ## Links to and fro -/

/-- A directory that is walked. -/
def insideName : Name := ⟨Text.ofString "S", by decide⟩

/-- A directory beside it. -/
def besideName : Name := ⟨Text.ofString "V", by decide⟩

/-- A link in the first directory. -/
def thereName : Name := ⟨Text.ofString "l", by decide⟩

/-- A link in the second directory. -/
def backName : Name := ⟨Text.ofString "r", by decide⟩

/-- A directory with a link to an empty directory beside it. -/
def branching : Disk :=
  Disk.place [besideName] .directory (Disk.place [thereName, insideName] (.link (.ofString "../V")) .empty)

/-- The same disk with a link back. -/
def twined : Disk := Disk.place [backName, besideName] (.link (.ofString "../S")) branching

/-- The link to the directory beside. -/
def wayThere : Visit := ⟨⟨[insideName], .ofString "S"⟩, [], thereName, .link (.ofString "../V")⟩

/-- The link back, come to through the other one. -/
def wayBack : Visit :=
  ⟨⟨[besideName], .ofString "S/l"⟩, [⟨[insideName], .ofString "S"⟩], backName, .link (.ofString "../S")⟩

/-- What is listed of both disks. -/
def twoListed : List Entry := [⟨.ofString "S", "S", true⟩, ⟨.ofString "S/l", "S/l", true⟩]

/-- On both disks the walk comes to the link and follows it. -/
theorem wayThere_followed : ∀ d ∈ [branching, twined],
    Tour.Next d (.ofString "S") "S" (.start (.ofString "S") "S" [insideName])
        ⟨twoListed.take 1, [.visit wayThere]⟩ ∧
      Tour.Next d (.ofString "S") "S" ⟨twoListed.take 1, [.visit wayThere]⟩
        ⟨twoListed, [.enter ⟨[besideName], .ofString "S/l"⟩ wayThere.stack]⟩ := by
  decide +kernel

theorem branching_meets {v : Visit} (h : Meets branching (.ofString "S") "S" [insideName] v) :
    v = wayThere := by
  obtain ⟨listed, rest, hrun⟩ := h
  obtain ⟨hopened, hfollowed⟩ := wayThere_followed branching (by simp)
  have hentered : Tour.Next branching (.ofString "S") "S"
      ⟨twoListed, [.enter ⟨[besideName], .ofString "S/l"⟩ wayThere.stack]⟩ ⟨twoListed, []⟩ := by
    decide +kernel
  rcases Tour.run_cases hopened hrun with hstart | hrun
  · cases hstart
  rcases Tour.run_cases hfollowed hrun with hhere | hrun
  · cases hhere
    rfl
  rcases Tour.run_cases hentered hrun with hinside | hrun
  · cases hinside
  · cases (Tour.Halted.done twoListed).eq_of_run hrun

theorem twined_meets : Meets twined (.ofString "S") "S" [insideName] wayBack := by
  obtain ⟨hopened, hfollowed⟩ := wayThere_followed twined (by simp)
  have hentered : Tour.Next twined (.ofString "S") "S"
      ⟨twoListed, [.enter ⟨[besideName], .ofString "S/l"⟩ wayThere.stack]⟩ ⟨twoListed, [.visit wayBack]⟩ := by
    decide +kernel
  exact ⟨twoListed, [], .head hopened (.head hfollowed (.single hentered))⟩

/-- With one link the walk returns. With the second link it comes back to its source, by another path than
it started from, and reports a loop. -/
theorem branching_listed_twined_refused :
    (∃ es, collect branching (.ofString "S") = .ok es) ∧
      collect twined (.ofString "S") = .error (.walk (.loop (.ofString "S/l/r") (.ofString "S"))) := by
  have hname : (Path.ofString "S").fileName? = some (Text.ofString "S") := by decide +kernel
  constructor
  · have hsource : branching.stat (.ofString "S") = .ok ([insideName], .directory) := by decide +kernel
    obtain ⟨_, _, _, _, hreturns⟩ := (walk_ends hsource).1 "S" hname
    have hthere : branching.stat wayThere.path = .ok ([besideName], .directory) := by decide +kernel
    have hstanding : standing branching wayThere.stack wayThere.location wayThere.path wayThere.node =
        .ok (.directory [besideName]) := by decide +kernel
    refine hreturns fun v hmeets => ?_
    rw [branching_meets hmeets]
    refine ⟨fun outer hback => ?_, fun ⟨_, fault, hstat⟩ => ?_, by decide +kernel⟩
    · rw [standing_of_leadsBack hback] at hstanding
      cases hstanding
    · rw [hthere] at hstat
      cases hstat
  · have hsource : twined.stat (.ofString "S") = .ok ([insideName], .directory) := by decide +kernel
    obtain ⟨_, _, _, hloops, _⟩ := (walk_ends hsource).1 "S" hname
    refine (hloops _ _).2 ⟨wayBack, twined_meets, by decide +kernel, ?_⟩
    exact ⟨.ofString "../S", [insideName], [⟨[besideName], .ofString "S/l"⟩],
      ⟨[insideName], .ofString "S"⟩, [], rfl, by decide +kernel, rfl, rfl, rfl, by decide⟩

/-! ## Links that lead somewhere and are not followed -/

/-- A link to the directory it is in. -/
def turnName : Name := ⟨Text.ofString "k", by decide⟩

/-- A file. -/
def endName : Name := ⟨Text.ofString "f", by decide⟩

/-- A directory with a link to a file, and a link to stay where one is. -/
def strained : Disk :=
  Disk.place [turnName] (.link (.ofString "."))
    (Disk.place [thereName, insideName] (.link (.ofString "../f"))
      (Disk.placeFile [endName] { content := Text.ofString "x", mode := 0o644 } .empty))

/-- The directory, through as many links as one path may go through. -/
def windingPath : Path :=
  ⟨(List.replicate Disk.maxLinks (Text.ofString "k/")).flatten ++ Text.ofString "S"⟩

/-- The link to the file. -/
def lastLink : Visit := ⟨⟨[insideName], windingPath⟩, [], thereName, .link (.ofString "../f")⟩

/-- All names are UTF-8, and the only entry that the walk comes to is a link to a file. It is one link too
many for its path, so the walk fails without a loop. A directory whose path ends in no name is not walked
at all. -/
theorem strained_refused :
    strained.stat windingPath = .ok ([insideName], .directory) ∧
      strained.stat (.ofString "S/l") = .ok ([endName], .file 1) ∧
      (∀ v, Meets strained windingPath "S" [insideName] v →
        v.location = Disk.locationOf (.ofString "S/l") ∧ (∀ outer, ¬ v.LeadsBack strained outer) ∧
          strained.stat v.path ≠ .error (.os .notFound) ∧ ¬ v.Garbled) ∧
      collect strained windingPath =
        .error (.walk (.unreadable (windingPath.child thereName.bytes) (.os .tooManyLinks))) ∧
      Disk.empty.stat (.ofString ".") = .ok ([], .directory) ∧
      collect .empty (.ofString ".") = .error (.sourceNotDirectory (.ofString ".")) := by
  have hsource : strained.stat windingPath = .ok ([insideName], .directory) := by decide +kernel
  have hname : windingPath.fileName? = some (Text.ofString "S") := by decide +kernel
  have hstat : strained.stat lastLink.path = .error (.os .tooManyLinks) := by decide +kernel
  have hopened : Tour.Next strained windingPath "S" (.start windingPath "S" [insideName])
      ⟨[⟨windingPath, "S", true⟩], [.visit lastLink]⟩ := by decide +kernel
  have hhalted : Tour.Halted strained windingPath "S" ⟨[⟨windingPath, "S", true⟩], [.visit lastLink]⟩
      (.error (.walk (.unreadable lastLink.path (.os .tooManyLinks)))) :=
    .failed _ _ (by decide +kernel)
  refine ⟨hsource, by decide +kernel, fun v hmeets => ?_, ?_, by decide +kernel, by decide +kernel⟩
  · obtain ⟨listed, rest, hrun⟩ := hmeets
    obtain rfl : v = lastLink := by
      rcases Tour.run_cases hopened hrun with hstart | hrun
      · cases hstart
      · cases hhalted.eq_of_run hrun
        rfl
    refine ⟨by decide +kernel, ?_, by simp [hstat], by decide +kernel⟩
    rintro outer ⟨_, _, _, _, _, _, hdirectory, _⟩
    rw [hstat] at hdirectory
    cases hdirectory
  · exact (ends_collect hsource hname).unique (hhalted.ends.of_run (.single hopened))

end ReleaseBundle.Bundle
