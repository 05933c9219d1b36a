import ReleaseBundle.Pipeline
import ReleaseBundle.Proofs.Version

/-!
# The course of a run

A run is a chain of jobs, and each of them can end it. `Course` lists the ways a run can go, each with
the result and the disk that the run has in the end, so that what is true of all runs is proved by going
through the list and never by looking into a run again.
-/

namespace ReleaseBundle

/-! ## The parts of a run -/

namespace Progress

variable {α β : Type}

@[simp] theorem failed_account (p : Progress α) (x : Failure) :
    (p.failed x : Progress β).account = ⟨p.account.disk, p.account.trace, p.account.events, .error x⟩ := rfl

@[simp] theorem failed_entered (p : Progress α) (x : Failure) :
    (p.failed x : Progress β).entered = p.entered := rfl

@[simp] theorem andThen_account (first : Progress α) (second : Progress β) :
    (first.andThen second).account =
      ⟨second.account.disk, first.account.trace ++ second.account.trace,
        first.account.events ++ second.account.events, second.account.result⟩ := rfl

@[simp] theorem andThen_entered (first : Progress α) (second : Progress β) :
    (first.andThen second).entered = first.entered ++ second.entered := rfl

end Progress

namespace Passage

variable {σ α β : Type} {s : Stage} {state : σ} {d : Disk}

@[simp] theorem pure_apply (a : α) :
    (pure a : Passage σ α) s state d = (state, ⟨s, [], ⟨d, [], [], .ok a⟩⟩) := rfl

@[simp] theorem enter_apply (next : Stage) :
    enter next s state d = (state, ⟨next, [next], ⟨d, [], [.logged (.stageEntered s next)], .ok ()⟩⟩) := rfl

@[simp] theorem perform_apply (j : Job Failure α) :
    perform j s state d = (state, ⟨s, [], j d⟩) := rfl

@[simp] theorem call_apply (invoker : Invoker σ) :
    call invoker s state d =
      ((invoker state d).1, ⟨s, [], ⟨(invoker state d).2.disk, (invoker state d).2.trace,
        (invoker state d).2.events, (invoker state d).2.result.mapError .build⟩⟩) := rfl

/-- A failure is the end of a passage. -/
theorem bind_error {p : Passage σ α} {k : α → Passage σ β} {x : Failure}
    (h : (p s state d).2.account.result = .error x) :
    (p >>= k) s state d = ((p s state d).1, (p s state d).2.failed x) := by
  simp only [Bind.bind, Passage.bind, h]

/-- Otherwise the passage goes on where its first part ended. -/
theorem bind_ok {p : Passage σ α} {k : α → Passage σ β} {a : α}
    (h : (p s state d).2.account.result = .ok a) :
    (p >>= k) s state d =
      ((k a (p s state d).2.stage (p s state d).1 (p s state d).2.account.disk).1,
        (p s state d).2.andThen
          (k a (p s state d).2.stage (p s state d).1 (p s state d).2.account.disk).2) := by
  simp only [Bind.bind, Passage.bind, h]

end Passage

/-! ## The ways to go -/

namespace Pipeline

/-- Assembling, as a run does it. -/
def assembly (s : Settings) (d : Disk) : Account BundleFailure Unit :=
  Bundle.assemble s.output s.license s.readme d

/-- How a run goes on after a successful build that left the disk `d`. -/
inductive Bundling (s : Settings) (d : Disk) (p : Progress Verdict) : Prop where
  | unassembled (x : BundleFailure) : (assembly s d).result = .error x →
    p.account.result = .error (.bundle x) → p.account.disk = (assembly s d).disk → Bundling s d p
  | unversioned (x : ManifestFailure) : (assembly s d).result = .ok () →
    Manifest.findVersion (assembly s d).disk s.manifest = .error x →
    p.account.result = .error (.manifest x) → p.account.disk = (assembly s d).disk → Bundling s d p
  | unarchived (version : String) (x : ArchiveFailure) : (assembly s d).result = .ok () →
    Manifest.findVersion (assembly s d).disk s.manifest = .ok version →
    (archive s version (assembly s d).disk).result = .error x → .archiving ∈ p.entered →
    p.account.result = .error (.archive x) →
    p.account.disk = (archive s version (assembly s d).disk).disk → Bundling s d p
  | released (version : String) (a : Artifact) : (assembly s d).result = .ok () →
    Manifest.findVersion (assembly s d).disk s.manifest = .ok version →
    (archive s version (assembly s d).disk).result = .ok a →
    p.account.result = .ok (.released a) →
    p.account.disk = (archive s version (assembly s d).disk).disk → Bundling s d p

/-- How a run goes whose build left the account `left`. -/
inductive Course (s : Settings) (left : Account Unavailable BuildResult) (p : Progress Verdict) :
    Prop where
  | unavailable (x : Unavailable) : left.result = .error x →
    p.account.result = .error (.build x) → p.account.disk = left.disk → Course s left p
  | unbuilt (r : BuildResult) : left.result = .ok r → r.isSuccess = false →
    p.account.result = .ok (.buildFailed r) → p.account.disk = left.disk → Course s left p
  | built (r : BuildResult) : left.result = .ok r → r.isSuccess = true →
    Bundling s left.disk p → Course s left p

theorem bundling {σ : Type} (s : Settings) (stage : Stage) (state : σ) (d : Disk) :
    Bundling s d (bundle s stage state d).2 := by
  have hassembly : Bundle.assemble s.output s.license s.readme d = assembly s d := rfl
  cases hfirst : (assembly s d).result with
  | error x =>
    refine .unassembled x hfirst ?_ ?_ <;>
      simp [bundle, bind, Passage.bind, Job.mapError, hassembly, hfirst]
  | ok _ =>
    cases hversion : Manifest.findVersion (assembly s d).disk s.manifest with
    | error x =>
      refine .unversioned x hfirst hversion ?_ ?_ <;>
        simp [bundle, bind, Passage.bind, Job.mapError, hassembly, hfirst,
          Manifest.readVersion_failed hversion]
    | ok version =>
      cases harchive : (archive s version (assembly s d).disk).result with
      | error x =>
        refine .unarchived version x hfirst hversion harchive ?_ ?_ ?_ <;>
          simp [bundle, bind, Passage.bind, Job.mapError, hassembly, hfirst,
            Manifest.readVersion_found hversion, Job.log, Job.report, harchive]
      | ok a =>
        refine .released version a hfirst hversion harchive ?_ ?_ <;>
          simp [bundle, bind, Passage.bind, Job.mapError, hassembly, hfirst,
            Manifest.readVersion_found hversion, Job.log, Job.report, harchive]

/-- What a run is after a successful build is what its later part is. -/
theorem Bundling.congr {s : Settings} {d : Disk} {p q : Progress Verdict} (h : Bundling s d p)
    (result : q.account.result = p.account.result) (disk : q.account.disk = p.account.disk)
    (entered : p.entered ⊆ q.entered) : Bundling s d q := by
  cases h with
  | unassembled x hfirst hresult hdisk =>
    exact .unassembled x hfirst (result.trans hresult) (disk.trans hdisk)
  | unversioned x hfirst hversion hresult hdisk =>
    exact .unversioned x hfirst hversion (result.trans hresult) (disk.trans hdisk)
  | unarchived version x hfirst hversion harchive hentered hresult hdisk =>
    exact .unarchived version x hfirst hversion harchive (entered hentered) (result.trans hresult)
      (disk.trans hdisk)
  | released version a hfirst hversion harchive hresult hdisk =>
    exact .released version a hfirst hversion harchive (result.trans hresult) (disk.trans hdisk)

theorem course {σ : Type} (s : Settings) (invoker : Invoker σ) (stage : Stage) (state : σ) (d : Disk) :
    Course s (invoker state d).2 (release s invoker stage state d).2 := by
  cases hbuild : (invoker state d).2.result with
  | error x =>
    refine .unavailable x hbuild ?_ ?_ <;>
      simp [release, bind, Passage.bind, hbuild]
  | ok r =>
    cases hsuccess : r.isSuccess with
    | false =>
      refine .unbuilt r hbuild hsuccess ?_ ?_ <;>
        simp [release, bind, Passage.bind, hbuild, hsuccess, Job.log, Job.report]
    | true =>
      have hbundling := bundling s .building (invoker state d).1 (invoker state d).2.disk
      refine .built r hbuild hsuccess (hbundling.congr ?_ ?_ ?_) <;>
        simp [release, bind, Passage.bind, hbuild, hsuccess]

section Bundling

variable {s : Settings} {d : Disk} {p : Progress Verdict} {a : Artifact}

/-- How a run came to a release. -/
theorem Bundling.release (h : Bundling s d p) (hreleased : p.account.result = .ok (.released a)) :
    ∃ version, (assembly s d).result = .ok () ∧
      Manifest.findVersion (assembly s d).disk s.manifest = .ok version ∧
      (archive s version (assembly s d).disk).result = .ok a ∧
      p.account.disk = (archive s version (assembly s d).disk).disk := by
  cases h with
  | unassembled x _ hresult _ => rw [hresult] at hreleased; cases hreleased
  | unversioned x _ _ hresult _ => rw [hresult] at hreleased; cases hreleased
  | unarchived version x _ _ _ _ hresult _ => rw [hresult] at hreleased; cases hreleased
  | released version b hassembly hversion harchive hresult hdisk =>
    rw [hresult] at hreleased
    cases hreleased
    exact ⟨version, hassembly, hversion, harchive, hdisk⟩

theorem Bundling.failed_assembly {x : BundleFailure} (h : Bundling s d p)
    (hassembly : (assembly s d).result = .error x) :
    p.account.result = .error (.bundle x) ∧ p.account.disk = (assembly s d).disk := by
  cases h with
  | unassembled y hfirst hresult hdisk =>
    rw [hassembly] at hfirst
    cases hfirst
    exact ⟨hresult, hdisk⟩
  | unversioned _ hfirst _ _ _ => rw [hassembly] at hfirst; cases hfirst
  | unarchived _ _ hfirst _ _ _ _ _ => rw [hassembly] at hfirst; cases hfirst
  | released _ _ hfirst _ _ _ _ => rw [hassembly] at hfirst; cases hfirst

theorem Bundling.succeeds {version : String} (h : Bundling s d p) (hassembly : (assembly s d).result = .ok ())
    (hversion : Manifest.findVersion (assembly s d).disk s.manifest = .ok version)
    (harchive : (archive s version (assembly s d).disk).result = .ok a) :
    p.account.result = .ok (.released a) ∧
      p.account.disk = (archive s version (assembly s d).disk).disk := by
  cases h with
  | unassembled _ hfirst _ _ => rw [hassembly] at hfirst; cases hfirst
  | unversioned _ _ hfound _ _ => rw [hversion] at hfound; cases hfound
  | unarchived _ _ _ hfound hwritten _ _ _ =>
    rw [hversion] at hfound
    cases hfound
    rw [harchive] at hwritten
    cases hwritten
  | released _ b _ hfound hwritten hresult hdisk =>
    rw [hversion] at hfound
    cases hfound
    rw [harchive] at hwritten
    cases hwritten
    exact ⟨hresult, hdisk⟩

end Bundling

end Pipeline

namespace Orchestrator

variable {σ : Type}

/-- What the invoker does in a run. -/
def built (o : Orchestrator σ) (d : Disk) : Account Unavailable BuildResult :=
  (o.invoker o.state d).2

theorem course (o : Orchestrator σ) (d : Disk) :
    Pipeline.Course o.settings (o.built d) (o.run d).2 :=
  Pipeline.course o.settings o.invoker o.stage o.state d

/-- A successful build is followed by bundling. -/
theorem bundling_of_built {o : Orchestrator σ} {d : Disk} {r : BuildResult}
    (hbuild : (o.built d).result = .ok r) (hsuccess : r.isSuccess = true) :
    Pipeline.Bundling o.settings (o.built d).disk (o.run d).2 := by
  cases o.course d with
  | unavailable x herror =>
    rw [hbuild] at herror
    cases herror
  | unbuilt r' hok hfailed =>
    rw [hbuild] at hok
    cases hok
    rw [hsuccess] at hfailed
    cases hfailed
  | built _ _ _ hbundling => exact hbundling

/-- Only a successful build is followed by a release. -/
theorem bundling_of_release {o : Orchestrator σ} {d : Disk} {a : Artifact}
    (hreleased : (o.run d).2.account.result = .ok (.released a)) :
    Pipeline.Bundling o.settings (o.built d).disk (o.run d).2 := by
  cases o.course d with
  | unavailable x _ hresult _ => rw [hresult] at hreleased; cases hreleased
  | unbuilt r _ _ hresult _ => rw [hresult] at hreleased; cases hreleased
  | built _ _ _ hbundling => exact hbundling

end Orchestrator

end ReleaseBundle
