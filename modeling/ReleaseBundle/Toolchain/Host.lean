import ReleaseBundle.Job
import ReleaseBundle.Toolchain.Command

/-!
# Programs of a machine

What a release knows of the machine that it runs on: the directories that are searched for programs,
and what happens when a program is started. A program may change the disk in any way and write to both
channels; starting it may fail.
-/

namespace ReleaseBundle

/-- A program that is about to be started. -/
structure Launch where
  executable : Path
  args : List String
  directory : Path
  deriving DecidableEq

/-- A machine that programs run on. -/
structure Host where
  /-- The directories that are searched for programs, if any are known. -/
  searchPath : Option (List Path)
  /-- Runs a program to its end. -/
  run : Launch → Job Fault ExitStatus

end ReleaseBundle
