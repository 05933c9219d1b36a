import ReleaseBundle.CommandLine.Execute
import ReleaseBundle.Proofs.Pipeline.Failure
import ReleaseBundle.Proofs.Reporting

/-!
# The stages of a run

The stage of an orchestrator is kept in two places: it moves whenever a run enters a stage, and every
failure names the stage that it stops. Both agree however a run ends, and the log tells the same story.

A passage is truthful if its stage is the one that it entered last and its log shows exactly the stages
that it entered. This holds of every passage that enters stages and performs jobs whose log is not about
stages, so it follows from the way in which a run is put together. Which stages are entered before which
end is read off in the same way.
-/

namespace ReleaseBundle

open Event (IsNote)

/-! ## Stages in a row -/

namespace Stage

/-- The stages of a run that releases an archive. -/
def road : List Stage := [.building, .assembling, .readingVersion, .archiving, .done]

/-- The changes of stage of a run that is at one stage and enters others. -/
def moves (here : Stage) : List Stage → List (Stage × Stage)
  | [] => []
  | next :: rest => (here, next) :: next.moves rest

theorem getLastD_append (here : Stage) (entered further : List Stage) :
    (entered ++ further).getLastD here = further.getLastD (entered.getLastD here) := by
  induction entered generalizing here with
  | nil => rfl
  | cons next rest ih => rw [List.cons_append, List.getLastD_cons, ih, List.getLastD_cons]

theorem moves_append (here : Stage) (entered further : List Stage) :
    here.moves (entered ++ further) =
      here.moves entered ++ (entered.getLastD here).moves further := by
  induction entered generalizing here with
  | nil => rfl
  | cons next rest ih =>
    rw [List.cons_append, moves, moves, List.cons_append, ih, List.getLastD_cons]

end Stage

/-! ## Passages -/

namespace Passage

variable {σ α β : Type}

/-- The stage and the log of a passage tell which stages it entered, and it reports nothing but its log. -/
structure Truthful (p : Passage σ α) : Prop where
  stage : ∀ s state d, (p s state d).2.stage = (p s state d).2.entered.getLastD s
  moves : ∀ s state d,
    (p s state d).2.account.events.filterMap Event.transition? = s.moves (p s state d).2.entered
  logs : ∀ s state d, ∀ e ∈ (p s state d).2.account.events, ∃ record, e = .logged record

namespace Truthful

theorem pure (a : α) : (Passage.pure a : Passage σ α).Truthful := by
  constructor
  · intro s state d
    rfl
  · intro s state d
    rfl
  · intro s state d e he
    cases he

theorem enter (next : Stage) : (Passage.enter next : Passage σ Unit).Truthful := by
  constructor
  · intro s state d
    rfl
  · intro s state d
    rfl
  · intro s state d e he
    exact ⟨_, List.mem_singleton.1 he⟩

/-- A job whose log is not about stages moves nothing. -/
theorem perform {j : Job Failure α} (h : j.Reports IsNote) : (Passage.perform j : Passage σ α).Truthful := by
  constructor
  · intro s state d
    rfl
  · intro s state d
    apply List.filterMap_eq_nil_iff.2
    intro e he
    exact (h.holds d e he).still
  · intro s state d e he
    exact (h.holds d e he).logged

theorem bind {p : Passage σ α} {k : α → Passage σ β} (first : p.Truthful)
    (second : ∀ a, (k a).Truthful) : (p >>= k).Truthful := by
  constructor
  · intro s state d
    cases hresult : (p s state d).2.account.result with
    | error x =>
      rw [bind_error hresult]
      exact first.stage s state d
    | ok a =>
      simp only [bind_ok hresult, Progress.andThen]
      rw [(second a).stage, first.stage, Stage.getLastD_append]
  · intro s state d
    cases hresult : (p s state d).2.account.result with
    | error x =>
      rw [bind_error hresult]
      exact first.moves s state d
    | ok a =>
      simp only [bind_ok hresult, Progress.andThen]
      rw [List.filterMap_append, first.moves, (second a).moves, first.stage, Stage.moves_append]
  · intro s state d e he
    cases hresult : (p s state d).2.account.result with
    | error x =>
      rw [bind_error hresult] at he
      exact first.logs s state d e he
    | ok a =>
      rw [bind_ok hresult] at he
      rcases List.mem_append.1 he with hfirst | hsecond
      · exact first.logs s state d e hfirst
      · exact (second a).logs _ _ _ e hsecond

end Truthful

/-- Which stages a passage enters: `done` holds of its value and these stages if it succeeds, and
`failed` of its failure and these stages if it does not. -/
structure Goes (p : Passage σ α) (done : α → List Stage → Prop) (failed : Failure → List Stage → Prop) :
    Prop where
  ok : ∀ s state d a, (p s state d).2.account.result = .ok a → done a (p s state d).2.entered
  error : ∀ s state d x, (p s state d).2.account.result = .error x → failed x (p s state d).2.entered

namespace Goes

variable {done : α → List Stage → Prop} {failed : Failure → List Stage → Prop}

theorem pure {a : α} (h : done a []) : (Passage.pure a : Passage σ α).Goes done failed := by
  constructor
  · intro s state d b hb
    cases hb
    exact h
  · intro s state d x hx
    cases hx

theorem bind {p : Passage σ β} {k : β → Passage σ α} {middle : β → List Stage → Prop}
    (first : p.Goes middle failed)
    (second : ∀ b entered, middle b entered →
      (k b).Goes (fun a more => done a (entered ++ more)) (fun x more => failed x (entered ++ more))) :
    (p >>= k).Goes done failed := by
  constructor
  · intro s state d a ha
    cases hresult : (p s state d).2.account.result with
    | error x =>
      rw [bind_error hresult] at ha
      cases ha
    | ok b =>
      rw [bind_ok hresult] at ha ⊢
      exact (second b _ (first.ok s state d b hresult)).ok _ _ _ a ha
  · intro s state d y hy
    cases hresult : (p s state d).2.account.result with
    | error x =>
      rw [bind_error hresult] at hy ⊢
      cases hy
      exact first.error s state d _ hresult
    | ok b =>
      rw [bind_ok hresult] at hy ⊢
      exact (second b _ (first.ok s state d b hresult)).error _ _ _ y hy

theorem enter {next : Stage} {k : Unit → Passage σ α}
    (h : (k ()).Goes (fun a more => done a (next :: more)) (fun x more => failed x (next :: more))) :
    (Passage.enter next >>= k).Goes done failed := by
  have henters : (Passage.enter next : Passage σ Unit).Goes (fun _ entered => entered = [next]) failed := by
    constructor
    · intro s state d _ _
      rfl
    · intro s state d x hx
      cases hx
  apply henters.bind
  rintro _ _ rfl
  exact h

/-- A job enters no stage. -/
theorem perform {j : Job Failure β} {k : β → Passage σ α}
    (error : ∀ d x, (j d).result = .error x → failed x []) (h : ∀ b, (k b).Goes done failed) :
    (Passage.perform j >>= k).Goes done failed := by
  have hperforms : (Passage.perform j : Passage σ β).Goes (fun _ entered => entered = []) failed := by
    constructor
    · intro s state d _ _
      rfl
    · intro s state d x hx
      exact error d x hx
  apply hperforms.bind
  rintro b _ rfl
  exact h b

end Goes

/-- A passage that calls no invoker, beside the same passage for the states of another one. It leaves the
state as it is, and its progress does not depend on the state. -/
structure Apart {τ : Type} (p : Passage σ α) (q : Passage τ α) : Prop where
  state : ∀ s state d, (p s state d).1 = state
  progress : ∀ s state state' d, (p s state d).2 = (q s state' d).2

namespace Apart

variable {τ : Type}

theorem pure (a : α) : (Passage.pure a : Passage σ α).Apart (Passage.pure a : Passage τ α) :=
  ⟨fun _ _ _ => rfl, fun _ _ _ _ => rfl⟩

theorem enter (next : Stage) :
    (Passage.enter next : Passage σ Unit).Apart (Passage.enter next : Passage τ Unit) :=
  ⟨fun _ _ _ => rfl, fun _ _ _ _ => rfl⟩

theorem perform (j : Job Failure α) :
    (Passage.perform j : Passage σ α).Apart (Passage.perform j : Passage τ α) :=
  ⟨fun _ _ _ => rfl, fun _ _ _ _ => rfl⟩

theorem bind {p : Passage σ α} {q : Passage τ α} {k : α → Passage σ β} {l : α → Passage τ β}
    (first : p.Apart q) (second : ∀ a, (k a).Apart (l a)) : (p >>= k).Apart (q >>= l) := by
  constructor
  · intro s state d
    cases hresult : (p s state d).2.account.result with
    | error x =>
      rw [bind_error hresult]
      exact first.state s state d
    | ok a =>
      simp only [bind_ok hresult]
      rw [(second a).state, first.state]
  · intro s state state' d
    have hsame := first.progress s state state' d
    cases hresult : (q s state' d).2.account.result with
    | error x => rw [bind_error hresult, bind_error (hsame ▸ hresult), hsame]
    | ok a =>
      simp only [bind_ok hresult, bind_ok (hsame ▸ hresult : (p s state d).2.account.result = .ok a)]
      rw [hsame, (second a).progress]

end Apart

end Passage

/-! ## The stages of the pipeline -/

namespace Pipeline

open Passage (enter perform)

variable {σ : Type}

/-- How a run ends that entered the given stages. -/
inductive Stops : Except Failure Verdict → List Stage → Prop where
  | unavailable (x : Unavailable) : Stops (.error (.build x)) [.building]
  | unbuilt (r : BuildResult) : Stops (.ok (.buildFailed r)) [.building, .buildFailed]
  | unassembled (x : BundleFailure) : Stops (.error (.bundle x)) [.building, .assembling]
  | unversioned (x : ManifestFailure) :
    Stops (.error (.manifest x)) [.building, .assembling, .readingVersion]
  | unarchived (x : ArchiveFailure) :
    Stops (.error (.archive x)) [.building, .assembling, .readingVersion, .archiving]
  | released (a : Artifact) : Stops (.ok (.released a)) Stage.road

/-- What follows a build. -/
def conclude (s : Settings) (result : BuildResult) : Passage σ Verdict :=
  if result.isSuccess then bundle s
  else do
    enter .buildFailed
    perform (Job.log (.bundlingSkipped result.diagnostic))
    return .buildFailed result

theorem bundle_truthful (s : Settings) : (bundle s : Passage σ Verdict).Truthful := by
  apply Passage.Truthful.bind (.enter _)
  intro _
  apply Passage.Truthful.bind (.perform ((Bundle.assemble_reports _ _ _).mapError _))
  intro _
  apply Passage.Truthful.bind (.enter _)
  intro _
  apply Passage.Truthful.bind (.perform ((Manifest.readVersion_reports _).mapError _))
  intro version
  apply Passage.Truthful.bind (.perform (.log ⟨⟨_, rfl⟩, rfl⟩))
  intro _
  apply Passage.Truthful.bind (.enter _)
  intro _
  apply Passage.Truthful.bind (.perform ((archive_reports s version).mapError _))
  intro artifact
  exact Passage.Truthful.bind (.enter _) fun _ => .pure _

theorem conclude_truthful (s : Settings) (result : BuildResult) :
    (conclude s result : Passage σ Verdict).Truthful := by
  unfold conclude
  split
  · exact bundle_truthful s
  · apply Passage.Truthful.bind (.enter _)
    intro _
    apply Passage.Truthful.bind (.perform (.log ⟨⟨_, rfl⟩, rfl⟩))
    intro _
    exact .pure _

/-- Nothing calls the invoker once the build is over. -/
theorem bundle_apart {τ : Type} (s : Settings) :
    (bundle s : Passage σ Verdict).Apart (bundle s : Passage τ Verdict) := by
  apply Passage.Apart.bind (.enter _)
  intro _
  apply Passage.Apart.bind (.perform _)
  intro _
  apply Passage.Apart.bind (.enter _)
  intro _
  apply Passage.Apart.bind (.perform _)
  intro version
  apply Passage.Apart.bind (.perform _)
  intro _
  apply Passage.Apart.bind (.enter _)
  intro _
  apply Passage.Apart.bind (.perform _)
  intro artifact
  exact Passage.Apart.bind (.enter _) fun _ => .pure _

theorem conclude_apart {τ : Type} (s : Settings) (result : BuildResult) :
    (conclude s result : Passage σ Verdict).Apart (conclude s result : Passage τ Verdict) := by
  unfold conclude
  split
  · exact bundle_apart s
  · apply Passage.Apart.bind (.enter _)
    intro _
    exact Passage.Apart.bind (.perform _) fun _ => .pure _

/-- The failure of a renamed job is a renamed failure. -/
theorem error_of_mapError {ε α : Type} {j : Job ε α} {f : ε → Failure} {d : Disk} {x : Failure}
    (h : (j.mapError f d).result = .error x) : ∃ y, x = f y := by
  cases hresult : (j d).result with
  | ok a => simp [Job.mapError, hresult] at h
  | error y =>
    simp only [Job.mapError, hresult, Job.mapError_error, Except.error.injEq] at h
    exact ⟨y, h.symm⟩

theorem bundle_goes (s : Settings) :
    (bundle s : Passage σ Verdict).Goes (fun v entered => Stops (.ok v) (.building :: entered))
      (fun x entered => Stops (.error x) (.building :: entered)) := by
  apply Passage.Goes.enter
  apply Passage.Goes.perform
  · intro d x hx
    obtain ⟨y, rfl⟩ := error_of_mapError hx
    exact .unassembled y
  intro _
  apply Passage.Goes.enter
  apply Passage.Goes.perform
  · intro d x hx
    obtain ⟨y, rfl⟩ := error_of_mapError hx
    exact .unversioned y
  intro version
  apply Passage.Goes.perform
  · intro d x hx
    cases hx
  intro _
  apply Passage.Goes.enter
  apply Passage.Goes.perform
  · intro d x hx
    obtain ⟨y, rfl⟩ := error_of_mapError hx
    exact .unarchived y
  intro artifact
  apply Passage.Goes.enter
  exact Passage.Goes.pure (.released artifact)

theorem conclude_goes (s : Settings) (result : BuildResult) :
    (conclude s result : Passage σ Verdict).Goes (fun v entered => Stops (.ok v) (.building :: entered))
      (fun x entered => Stops (.error x) (.building :: entered)) := by
  unfold conclude
  split
  · exact bundle_goes s
  · apply Passage.Goes.enter
    apply Passage.Goes.perform
    · intro d x hx
      cases hx
    intro _
    exact Passage.Goes.pure (.unbuilt result)

section Release

variable (s : Settings) (invoker : Invoker σ) (here : Stage) (state : σ) (d : Disk)

/-- A run whose build could not be started. -/
theorem release_unavailable {x : Unavailable} (h : (invoker state d).2.result = .error x) :
    release s invoker here state d =
      ((invoker state d).1, ⟨.building, [.building],
        ⟨(invoker state d).2.disk, (invoker state d).2.trace,
          .logged (.stageEntered here .building) :: (invoker state d).2.events, .error (.build x)⟩⟩) := by
  simp [release, bind, Passage.bind, Progress.failed, Progress.andThen, h]

/-- A run goes on where the build ended. -/
theorem release_built {r : BuildResult} (h : (invoker state d).2.result = .ok r) :
    release s invoker here state d =
      ((conclude s r .building (invoker state d).1 (invoker state d).2.disk).1,
        Progress.andThen
          ⟨.building, [.building], ⟨(invoker state d).2.disk, (invoker state d).2.trace,
            .logged (.stageEntered here .building) :: (invoker state d).2.events, .ok r⟩⟩
          (conclude s r .building (invoker state d).1 (invoker state d).2.disk).2) := by
  simp [release, conclude, bind, Passage.bind, Progress.andThen, h]

end Release

/-- Where a run stops that ends in a given way, and how. -/
theorem Stops.stage {result : Except Failure Verdict} {entered : List Stage}
    (h : Stops result entered) :
    (entered.getLastD .building = .done ↔ ∃ a, result = .ok (.released a)) ∧
      (entered.getLastD .building = .buildFailed ↔ ∃ r, result = .ok (.buildFailed r)) ∧
      ∀ x, result = .error x → entered.getLastD .building = x.stage := by
  cases h <;> simp [Stage.road, Failure.stage]

theorem Stops.visits {result : Except Failure Verdict} {entered : List Stage}
    (h : Stops result entered) :
    (∃ rest, entered = .building :: rest) ∧
      (entered <+: Stage.road ∨ entered = [.building, .buildFailed]) := by
  cases h <;> simp [Stage.road]

/-- What is said about a run that failed. -/
theorem Stops.closing {x : Failure} {entered : List Stage} (h : Stops (.error x) entered) :
    x.stage ∈ [Stage.building, .assembling, .readingVersion, .archiving] ∧
      CommandLine.closing (.error x) =
        [.failure ("Release failed during " ++ x.stage.title ++ ": " ++ x.message),
          .recovery x.recovery] := by
  cases h with
  | unavailable x => exact ⟨by simp [Failure.stage], rfl⟩
  | unassembled x => exact ⟨by simp [Failure.stage], rfl⟩
  | unversioned x => exact ⟨by simp [Failure.stage], rfl⟩
  | unarchived x => exact ⟨by simp [Failure.stage], rfl⟩

/-- A whole run: the build, and what follows it. -/
structure Told (s : Settings) (left : Account Unavailable BuildResult) (here : Stage)
    (p : Progress Verdict) : Prop where
  stops : Stops p.account.result p.entered
  stage : p.stage = p.entered.getLastD .building
  told : ∃ work changes,
    p.account.events = .logged (.stageEntered here .building) :: (left.events ++ work) ∧
      p.account.trace = left.trace ++ changes ∧ (∀ e ∈ work, ∃ record, e = .logged record) ∧
      work.filterMap Event.transition? = Stage.moves .building p.entered.tail

theorem told (s : Settings) (invoker : Invoker σ) (here : Stage) (state : σ) (d : Disk) :
    Told s (invoker state d).2 here (release s invoker here state d).2 := by
  cases hbuild : (invoker state d).2.result with
  | error x =>
    rw [release_unavailable s invoker here state d hbuild]
    constructor
    · exact .unavailable x
    · rfl
    · exact ⟨[], [], by simp, by simp, by simp, rfl⟩
  | ok r =>
    have htruth : (conclude s r : Passage σ Verdict).Truthful := conclude_truthful s r
    have hgoes := @conclude_goes σ s r
    rw [release_built s invoker here state d hbuild]
    constructor
    · simp only [Progress.andThen]
      cases hresult : (conclude s r .building (invoker state d).1 (invoker state d).2.disk).2.account.result with
      | error x => exact hgoes.error _ _ _ x hresult
      | ok v => exact hgoes.ok _ _ _ v hresult
    · simp only [Progress.andThen, List.singleton_append, List.getLastD_cons]
      exact htruth.stage _ _ _
    · exact ⟨_, _, rfl, rfl, htruth.logs _ _ _, htruth.moves _ _ _⟩

/-- Where a run starts shows in the log only. -/
theorem release_anywhere (s : Settings) (invoker : Invoker σ) (here there : Stage) (state : σ) (d : Disk) :
    (release s invoker there state d).1 = (release s invoker here state d).1 ∧
      (release s invoker there state d).2.stage = (release s invoker here state d).2.stage ∧
      (release s invoker there state d).2.entered = (release s invoker here state d).2.entered ∧
      (release s invoker there state d).2.account.disk = (release s invoker here state d).2.account.disk ∧
      (release s invoker there state d).2.account.trace = (release s invoker here state d).2.account.trace ∧
      (release s invoker there state d).2.account.result =
        (release s invoker here state d).2.account.result := by
  cases hbuild : (invoker state d).2.result with
  | error x =>
    rw [release_unavailable s invoker here state d hbuild, release_unavailable s invoker there state d hbuild]
    exact ⟨rfl, rfl, rfl, rfl, rfl, rfl⟩
  | ok r =>
    rw [release_built s invoker here state d hbuild, release_built s invoker there state d hbuild]
    exact ⟨rfl, rfl, rfl, rfl, rfl, rfl⟩

end Pipeline

/-! ## Orchestrators -/

variable {σ : Type}

/-- An invoker that keeps a list of the disks that it was called on. -/
def Invoker.recorded (invoker : Invoker σ) : Invoker (List Disk × σ) := fun state d =>
  ((state.1 ++ [d], (invoker state.2 d).1), (invoker state.2 d).2)

namespace Orchestrator

/-- An orchestrator after runs on the given disks. Whatever happens to the disk between two runs, every
run starts on some disk. -/
def after (o : Orchestrator σ) : List Disk → Orchestrator σ
  | [] => o
  | d :: ds => (o.run d).1.after ds

/-- The orchestrator with an invoker that keeps a list of its calls. -/
def recorded (o : Orchestrator σ) (calls : List Disk) : Orchestrator (List Disk × σ) :=
  ⟨o.settings, o.invoker.recorded, (calls, o.state), o.stage⟩

/-- A run leaves the invoker as the build left it. -/
theorem run_state (o : Orchestrator σ) (d : Disk) : (o.run d).1.state = (o.invoker o.state d).1 := by
  suffices hrelease : (Pipeline.release o.settings o.invoker o.stage o.state d).1 = (o.invoker o.state d).1 by
    simp only [run, hrelease]
  cases hbuild : (o.invoker o.state d).2.result with
  | error x => rw [Pipeline.release_unavailable _ _ _ _ _ hbuild]
  | ok r =>
    have hafter : (Pipeline.conclude o.settings r : Passage σ Verdict).Apart
        (Pipeline.conclude o.settings r : Passage σ Verdict) := Pipeline.conclude_apart _ _
    rw [Pipeline.release_built _ _ _ _ _ hbuild]
    exact hafter.state _ _ _

/-- A run calls the invoker once, on the disk on which the run starts. -/
theorem run_recorded (o : Orchestrator σ) (calls : List Disk) (d : Disk) :
    (o.recorded calls).run d = ((o.run d).1.recorded (calls ++ [d]), (o.run d).2) := by
  have hleft : o.invoker.recorded (calls, o.state) d =
      ((calls ++ [d], (o.invoker o.state d).1), (o.invoker o.state d).2) := rfl
  suffices hrelease : Pipeline.release o.settings o.invoker.recorded o.stage (calls, o.state) d =
      ((calls ++ [d], (Pipeline.release o.settings o.invoker o.stage o.state d).1),
        (Pipeline.release o.settings o.invoker o.stage o.state d).2) by
    simp only [run, recorded, hrelease]
  cases hbuild : (o.invoker o.state d).2.result with
  | error x =>
    have hbuilt : (o.invoker.recorded (calls, o.state) d).2.result = .error x := hbuild
    rw [Pipeline.release_unavailable _ _ _ _ _ hbuild, Pipeline.release_unavailable _ _ _ _ _ hbuilt, hleft]
  | ok r =>
    have hbuilt : (o.invoker.recorded (calls, o.state) d).2.result = .ok r := hbuild
    rw [Pipeline.release_built _ _ _ _ _ hbuild, Pipeline.release_built _ _ _ _ _ hbuilt, hleft]
    have hwith : (Pipeline.conclude o.settings r : Passage (List Disk × σ) Verdict).Apart
        (Pipeline.conclude o.settings r : Passage σ Verdict) := Pipeline.conclude_apart _ _
    have hwithout : (Pipeline.conclude o.settings r : Passage σ Verdict).Apart
        (Pipeline.conclude o.settings r : Passage σ Verdict) := Pipeline.conclude_apart _ _
    simp only [hwith.state, hwithout.state, hwith.progress _ _ (o.invoker o.state d).1]

theorem after_recorded (o : Orchestrator σ) (calls ds : List Disk) :
    (o.recorded calls).after ds = (o.after ds).recorded (calls ++ ds) := by
  induction ds generalizing o calls with
  | nil => rw [List.append_nil, after, after]
  | cons d ds ih => rw [after, run_recorded, ih, after, List.append_assoc, List.singleton_append]

/-- What one run of an orchestrator does with its stage. -/
structure Staged (o : Orchestrator σ) (d : Disk) : Prop where
  /-- The stages that are entered, in order. -/
  visits : (o.run d).2.entered <+: Stage.road ∨ (o.run d).2.entered = [.building, .buildFailed]
  /-- The last of them is where the orchestrator stops. -/
  stops : (o.run d).2.entered.getLast? = some (o.run d).1.stage
  /-- The log tells the first change of stage, then the build happens, then the log tells all further
  changes of stage. Before the build the disk does not change. -/
  told : ∃ work changes,
    (o.run d).2.account.events =
        .logged (.stageEntered o.stage .building) :: ((o.built d).events ++ work) ∧
      (o.run d).2.account.trace = (o.built d).trace ++ changes ∧
      (∀ e ∈ work, ∃ record, e = .logged record) ∧
      work.filterMap Event.transition? = Stage.moves .building (o.run d).2.entered.tail
  done : (o.run d).1.stage = .done ↔ ∃ a, (o.run d).2.account.result = .ok (.released a)
  buildFailed :
    (o.run d).1.stage = .buildFailed ↔ ∃ r, (o.run d).2.account.result = .ok (.buildFailed r)
  failed : ∀ x, (o.run d).2.account.result = .error x →
    (o.run d).1.stage = x.stage ∧
      x.stage ∈ [Stage.building, .assembling, .readingVersion, .archiving]
  /-- Only the log shows at which stage the run started. -/
  anywhere : ∀ here,
    ({ o with stage := here }.run d).1 = (o.run d).1 ∧
      ({ o with stage := here }.run d).2.entered = (o.run d).2.entered ∧
      ({ o with stage := here }.run d).2.account.disk = (o.run d).2.account.disk ∧
      ({ o with stage := here }.run d).2.account.trace = (o.run d).2.account.trace ∧
      ({ o with stage := here }.run d).2.account.result = (o.run d).2.account.result

theorem run_from (o : Orchestrator σ) (here : Stage) (d : Disk) :
    { o with stage := here }.run d =
      (⟨o.settings, o.invoker, (Pipeline.release o.settings o.invoker here o.state d).1,
          (Pipeline.release o.settings o.invoker here o.state d).2.stage⟩,
        (Pipeline.release o.settings o.invoker here o.state d).2) := rfl

theorem stops (o : Orchestrator σ) (d : Disk) :
    Pipeline.Stops (o.run d).2.account.result (o.run d).2.entered :=
  (Pipeline.told o.settings o.invoker o.stage o.state d).stops

theorem stage_run (o : Orchestrator σ) (d : Disk) :
    (o.run d).1.stage = (o.run d).2.entered.getLastD .building :=
  (Pipeline.told o.settings o.invoker o.stage o.state d).stage

theorem staged (o : Orchestrator σ) (d : Disk) : o.Staged d := by
  obtain ⟨hdone, hunbuilt, hfailed⟩ := (o.stops d).stage
  obtain ⟨⟨rest, hrest⟩, hvisits⟩ := (o.stops d).visits
  rw [← o.stage_run d] at hdone hunbuilt
  constructor
  · exact hvisits
  · rw [o.stage_run d, hrest, List.getLast?_cons, List.getLastD_cons, List.getLastD_eq_getLast?]
  · exact (Pipeline.told o.settings o.invoker o.stage o.state d).told
  · exact hdone
  · exact hunbuilt
  · intro x hx
    refine ⟨(o.stage_run d).trans (hfailed x hx), ?_⟩
    have hstops := o.stops d
    rw [hx] at hstops
    exact hstops.closing.1
  · intro here
    obtain ⟨hstate, hstage, hrun⟩ := Pipeline.release_anywhere o.settings o.invoker o.stage here o.state d
    rw [o.run_from here, o.run_from o.stage, hstate, hstage]
    exact ⟨rfl, hrun⟩

/-- Whatever an orchestrator has run before, one more run calls the invoker exactly once and goes from
stage to stage as it should; and a run from the start never says that it was aborted, which is what is
said of failures that stop no stage. -/
theorem run_staged (o : Orchestrator σ) (earlier : List Disk) (d : Disk) :
    ((o.recorded []).after (earlier ++ [d])).state.1 = earlier ++ [d] ∧
      (((o.recorded []).after earlier).run d).2 = ((o.after earlier).run d).2 ∧
      (o.after earlier).Staged d ∧
      ∀ (host : Host) (x : Failure), (runRelease host o.settings d).result = .error x →
        CommandLine.closing (.error x) =
          [.failure ("Release failed during " ++ x.stage.title ++ ": " ++ x.message),
            .recovery x.recovery] := by
  refine ⟨?_, ?_, staged _ d, ?_⟩
  · rw [after_recorded]
    rfl
  · rw [after_recorded, run_recorded]
  · intro host x hx
    have hstops := stops (.new o.settings (.toolchain host o.settings.toolchain o.settings.root) ()) d
    rw [runRelease] at hx
    rw [hx] at hstops
    exact hstops.closing.2

/-- Two runs without a build output call the invoker twice. The second one starts where the first one
stopped, stops there again, and its failure is said with this stage. -/
theorem two_runs_staged :
    (((usual "Widget").recorded []).after ([documents] ++ [documents])).state.1 = [documents, documents] ∧
      ((usual "Widget").after [documents]).stage = .assembling ∧
      (((usual "Widget").after [documents]).run documents).2.account.result =
        .error (.bundle (.outputMissing (usual "Widget").settings.output)) ∧
      (((usual "Widget").after [documents]).run documents).1.stage = .assembling := by
  have hfailed : (((usual "Widget").after [documents]).run documents).2.account.result =
      .error (.bundle (.outputMissing (usual "Widget").settings.output)) := rfl
  obtain ⟨hcalls, _, hstaged, _⟩ := run_staged (usual "Widget") [documents] documents
  exact ⟨hcalls, rfl, hfailed, (hstaged.failed _ hfailed).1⟩

end Orchestrator

end ReleaseBundle
