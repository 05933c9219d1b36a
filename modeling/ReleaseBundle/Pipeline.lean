import ReleaseBundle.Bundle.Assembly
import ReleaseBundle.Bundle.Checksum
import ReleaseBundle.Bundle.Packing
import ReleaseBundle.Manifest
import ReleaseBundle.Settings
import ReleaseBundle.Toolchain.Build

/-!
# The release pipeline

A run builds the project, assembles the bundle, reads the version and writes the archive. A failed
build ends the run before anything is copied, and a failure at any later stage stops it there, so the
archive is written only once the bundle is complete and the version is known.

An orchestrator can be run any number of times and remembers at which stage its last run stopped. A
`Passage` is a part of such a run: a job that also moves from stage to stage and can call what builds the
project.
-/

namespace ReleaseBundle

/-- How a run ended that met no failure. -/
inductive Verdict where
  | released (artifact : Artifact)
  /-- The build failed; nothing was assembled or archived. -/
  | buildFailed (result : BuildResult)
  deriving DecidableEq

/-- The exit code of a run. -/
def Verdict.exitCode : Verdict → Nat
  | released _ => 0
  | buildFailed _ => 1

/-- A part of a run: it starts at a stage, goes through further ones, and has an account. -/
structure Progress (α : Type) where
  /-- The stage at the end. -/
  stage : Stage
  /-- The stages that were entered, in order. -/
  entered : List Stage
  account : Account Failure α

namespace Progress

variable {α β : Type}

/-- The progress of something that failed is that of whatever it was a part of. -/
def failed (p : Progress α) (e : Failure) : Progress β :=
  ⟨p.stage, p.entered, ⟨p.account.disk, p.account.trace, p.account.events, .error e⟩⟩

/-- One progress and a further one from where it ended. -/
def andThen (first : Progress α) (second : Progress β) : Progress β :=
  ⟨second.stage, first.entered ++ second.entered,
    ⟨second.account.disk, first.account.trace ++ second.account.trace,
      first.account.events ++ second.account.events, second.account.result⟩⟩

end Progress

/-- What builds the project: called in some state, it does a job and is left in another state. -/
def Invoker (σ : Type) := σ → Disk → σ × Account Unavailable BuildResult

/-- Work that moves through stages. It may call an invoker and carries the state of the invoker along. -/
def Passage (σ α : Type) := Stage → σ → Disk → σ × Progress α

namespace Passage

variable {σ α β : Type}

protected def pure (a : α) : Passage σ α := fun s state d => (state, ⟨s, [], ⟨d, [], [], .ok a⟩⟩)

protected def bind (p : Passage σ α) (k : α → Passage σ β) : Passage σ β := fun s state d =>
  let first := p s state d
  match first.2.account.result with
  | .error e => (first.1, first.2.failed e)
  | .ok a =>
    let second := k a first.2.stage first.1 first.2.account.disk
    (second.1, first.2.andThen second.2)

instance : Monad (Passage σ) where
  pure := Passage.pure
  bind := Passage.bind

/-- Goes to the next stage. -/
def enter (next : Stage) : Passage σ Unit := fun s state d =>
  (state, ⟨next, [next], ⟨d, [], [.logged (.stageEntered s next)], .ok ()⟩⟩)

/-- Does a job at the stage that was entered last. -/
def perform (j : Job Failure α) : Passage σ α := fun s state d => (state, ⟨s, [], j d⟩)

/-- Calls an invoker at the stage that was entered last. -/
def call (invoker : Invoker σ) : Passage σ BuildResult := fun s state d =>
  let left := invoker state d
  (left.1, ⟨s, [], ⟨left.2.disk, left.2.trace, left.2.events, left.2.result.mapError .build⟩⟩)

end Passage

namespace Pipeline

open Passage (enter perform call)

variable {σ : Type}

/-- Writes and describes the archive of a version. -/
def archive (s : Settings) (version : String) : Job ArchiveFailure Artifact := do
  let path ← Bundle.writeArchive s.output (s.archiveBase version) s.format
  Job.inspect fun d => Bundle.describe d path version s.format

/-- What follows a successful build. -/
def bundle (s : Settings) : Passage σ Verdict := do
  enter .assembling
  perform ((Bundle.assemble s.output s.license s.readme).mapError .bundle)
  enter .readingVersion
  let version ← perform ((Manifest.readVersion s.manifest).mapError .manifest)
  perform (Job.log (.versionChosen version))
  enter .archiving
  let artifact ← perform ((archive s version).mapError .archive)
  enter .done
  return .released artifact

/-- A whole run, given what builds the project. -/
def release (s : Settings) (invoker : Invoker σ) : Passage σ Verdict := do
  enter .building
  let result ← call invoker
  if result.isSuccess then bundle s
  else
    enter .buildFailed
    perform (Job.log (.bundlingSkipped result.diagnostic))
    return .buildFailed result

end Pipeline

/-- A toolchain on a machine. It has no state of its own. -/
def Invoker.toolchain (host : Host) (c : Command) (directory : Path) : Invoker Unit :=
  fun _ d => ((), Toolchain.build host c directory d)

/-- What runs releases, and remembers where the last one stopped. -/
structure Orchestrator (σ : Type) where
  settings : Settings
  invoker : Invoker σ
  state : σ
  stage : Stage

namespace Orchestrator

variable {σ : Type}

/-- An orchestrator that has not run yet. -/
def new (s : Settings) (invoker : Invoker σ) (state : σ) : Orchestrator σ := ⟨s, invoker, state, .start⟩

/-- Runs the pipeline once. -/
def run (o : Orchestrator σ) (d : Disk) : Orchestrator σ × Progress Verdict :=
  let (state, progress) := Pipeline.release o.settings o.invoker o.stage o.state d
  ({ o with state := state, stage := progress.stage }, progress)

end Orchestrator

/-- Runs a release with the toolchain of the settings. -/
def runRelease (host : Host) (s : Settings) : Job Failure Verdict := fun d =>
  ((Orchestrator.new s (.toolchain host s.toolchain s.root) ()).run d).2.account

end ReleaseBundle
