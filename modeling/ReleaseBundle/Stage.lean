/-!
# Stages of a release

A run goes from the start through building, assembling, reading the version and archiving to its end,
or stops after a failed build.
-/

namespace ReleaseBundle

/-- Where a run is. -/
inductive Stage where
  /-- Nothing has run yet. -/
  | start
  /-- The toolchain is running. -/
  | building
  /-- The toolchain reported failure; the run is over. -/
  | buildFailed
  /-- License and readme are being copied into the build output. -/
  | assembling
  /-- The version is being read from the project manifest. -/
  | readingVersion
  /-- The archive is being written. -/
  | archiving
  /-- The archive is written; the run is over. -/
  | done
  deriving DecidableEq, Repr

/-- The name of a stage in messages. -/
def Stage.title : Stage → String
  | start => "start"
  | building => "build"
  | buildFailed => "build failed"
  | assembling => "bundle assembly"
  | readingVersion => "version read"
  | archiving => "archiving"
  | done => "done"

/-- A title tells which stage it is. -/
theorem Stage.title_injective : Function.Injective Stage.title := by
  intro s t h
  cases s <;> cases t <;> first | rfl | exact absurd h (by decide)

end ReleaseBundle
