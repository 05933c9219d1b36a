import ReleaseBundle.Failure
import ReleaseBundle.Job

/-!
# Assembling a bundle

The license and the readme are copied into the build output under their own names, so that the
directory holds all that an archive should hold. Everything is checked before the first copy. Copies
that are already there are overwritten, in place: a copy goes through a link, and a file that is copied
onto itself is emptied.
-/

namespace ReleaseBundle.Bundle

/-- Copies the contents and the permission bits of a file. The destination loses its contents before
the source is read. -/
def copyContents (source destination : Path) : Job Fault Unit := do
  let opened ← Job.inspect fun d => d.openPath source
  match opened with
  | .directory => Job.fail (.os .invalidArgument)
  | .file number data =>
    let target ← Job.attempt fun d => d.openForWriting destination data.mode
    Job.change fun d => d.setMode target data.mode
    let content ← Job.inspect fun d => (d.data number).read
    Job.change fun d => d.appendTo target content

/-- Copies a file over another one. -/
def copyFile (source destination : Path) : Job BundleFailure Unit := do
  Job.inspect fun d => if d.isFile source then .ok () else .error (.missingSource source)
  (copyContents source destination).mapError (.copyFailed source destination)

/-- Copies a file into a directory under its own name. -/
def copyInto (output source : Path) : Job BundleFailure Unit :=
  match source.fileName? with
  | none => Job.fail (.missingSource source)
  | some name => do
    let destination := output.child name
    copyFile source destination
    Job.log (.copied source destination)

/-- What is missing for a bundle. -/
def missing? (d : Disk) (output license readme : Path) : Option BundleFailure :=
  if !d.isDirectory output then some (.outputMissing output)
  else if !d.isFile license then some (.missingSource license)
  else if !d.isFile readme then some (.missingSource readme)
  else none

/-- Completes the build output by the license and the readme. -/
def assemble (output license readme : Path) : Job BundleFailure Unit := do
  Job.inspect fun d =>
    match missing? d output license readme with
    | some failure => .error failure
    | none => .ok ()
  copyInto output license
  copyInto output readme

end ReleaseBundle.Bundle
