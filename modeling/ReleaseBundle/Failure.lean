import ReleaseBundle.Disk.Fault
import ReleaseBundle.Path
import ReleaseBundle.Stage
import ReleaseBundle.Xml.Problem

/-!
# Why a release fails

Every part of a run has its own causes, and a `Failure` is one of them. From the cause follow the
message, the stage at which the run stopped, and hints for the operator. The causes hold paths and the
faults below them; wording happens in `message` and `recovery` only.
-/

namespace ReleaseBundle

/-- Why a manifest cannot be read as a document. -/
inductive ManifestReason where
  | unreadable (fault : Fault)
  | malformed (error : Xml.Error)
  | stated (reason : String)
  deriving DecidableEq

def ManifestReason.message : ManifestReason → String
  | unreadable fault => "Failed to read file: " ++ fault.message
  | malformed error => error.message
  | stated reason => reason

/-- Why a manifest gives no version. -/
inductive ManifestFailure where
  | notParsed (path : Path) (reason : ManifestReason)
  | versionNotFound (path : Path)
  | versionEmpty (path : Path)
  /-- The version holds a path separator. -/
  | unusableVersion (path : Path) (version : String)
  deriving DecidableEq

def ManifestFailure.message : ManifestFailure → String
  | notParsed path reason =>
    "Failed to parse manifest " ++ path.display ++ ": " ++ reason.message
  | versionNotFound path => "Could not find <Version> element in " ++ path.display
  | versionEmpty path => "<Version> element in " ++ path.display ++ " has no text content"
  | unusableVersion path version =>
    "Version '" ++ version ++ "' in " ++ path.display ++ " contains a path separator"

/-- Why a program cannot be started. -/
inductive StartReason where
  /-- No directory to search is known. -/
  | noSearchPath
  /-- No candidate can be executed. -/
  | notFound
  | refused (fault : Fault)
  | stated (reason : String)
  deriving DecidableEq

def StartReason.message : StartReason → String
  | noSearchPath => "no path to search and provided name is not an absolute path"
  | notFound => "cannot find binary path"
  | refused fault => fault.message
  | stated reason => reason

/-- A toolchain that could not be started. -/
structure Unavailable where
  program : String
  reason : StartReason
  deriving DecidableEq

def Unavailable.message (u : Unavailable) : String :=
  "Build toolchain '" ++ u.program ++ "' is unavailable: " ++ u.reason.message

/-- Why a bundle cannot be assembled. -/
inductive BundleFailure where
  | missingSource (path : Path)
  /-- The build reported success but left no output. -/
  | outputMissing (path : Path)
  | copyFailed (source destination : Path) (fault : Fault)
  deriving DecidableEq

def BundleFailure.message : BundleFailure → String
  | missingSource path => "Required file not found: " ++ path.display
  | outputMissing path =>
    "Build output directory " ++ path.display ++ " does not exist although the build reported success"
  | copyFailed source destination fault =>
    "Failed to copy " ++ source.display ++ " to " ++ destination.display ++ ": " ++ fault.message

/-- What was being done to a file when a fault stopped it. -/
inductive Activity where
  | creatingReleasesDirectory
  | creatingStagingFile
  | openingFile
  | archivingFile
  | archivingDirectory
  | finishingTarball
  | finishingStream
  | flushing
  | readingArchive
  | openingForHash
  | readingForHash
  | stated (text : String)
  deriving DecidableEq

def Activity.text : Activity → String
  | creatingReleasesDirectory => "creating releases directory"
  | creatingStagingFile => "creating staging file in"
  | openingFile => "opening bundle file"
  | archivingFile => "archiving bundle file"
  | archivingDirectory => "archiving bundle directory"
  | finishingTarball => "finishing tarball"
  | finishingStream => "finishing gzip stream"
  | flushing => "flushing archive"
  | readingArchive => "reading archive metadata"
  | openingForHash => "opening file for hashing"
  | readingForHash => "reading file for hash calculation"
  | stated text => text

/-- Why the walk over a bundle stops. -/
inductive WalkFailure where
  | unreadable (path : Path) (fault : Fault)
  /-- A link leads back to a directory that the walk is inside of. -/
  | loop (link ancestor : Path)
  deriving DecidableEq

def WalkFailure.message : WalkFailure → String
  | unreadable path fault => "IO error for operation on " ++ path.display ++ ": " ++ fault.message
  | loop link ancestor =>
    "File system loop found: " ++ link.display ++ " points to an ancestor " ++ ancestor.display

/-- Why an archive cannot be written or described. -/
inductive ArchiveFailure where
  | file (activity : Activity) (path : Path) (fault : Fault)
  | sourceNotDirectory (path : Path)
  | walk (failure : WalkFailure)
  /-- A path does not start with the directory it was found in. -/
  | outsideSource
  /-- A part of a zip file could not be written. -/
  | zip (fault : Fault)
  /-- The finished archive could not be moved into place. -/
  | notPersisted (path : Path) (fault : Fault)
  | notUtf8 (path : Path)
  deriving DecidableEq

def ArchiveFailure.message : ArchiveFailure → String
  | file activity path fault => activity.text ++ " " ++ path.display ++ ": " ++ fault.message
  | sourceNotDirectory path => "archive source " ++ path.display ++ " is not a directory"
  | walk failure => failure.message
  | outsideSource => "prefix not found"
  | zip fault => "i/o error: " ++ fault.message
  | notPersisted path fault =>
    "failed to move archive into place at " ++ path.display ++ ": " ++ fault.message
  | notUtf8 path => "path " ++ path.display ++ " is not valid UTF-8"

/-- Why settings are refused. -/
inductive SettingsFailure where
  | emptyName
  | separatorInName (name : String)
  /-- Archives would be written into the directory that is archived. -/
  | releasesInsideOutput (releases output : Path)
  | emptyProgram
  | stated (reason : String)
  deriving DecidableEq

def SettingsFailure.message : SettingsFailure → String
  | emptyName => "artifact name must not be empty"
  | separatorInName name => "artifact name '" ++ name ++ "' must not contain a path separator"
  | releasesInsideOutput releases output =>
    "releases directory " ++ releases.display ++ " lies inside the build output directory " ++
      output.display
  | emptyProgram => "toolchain program must not be empty"
  | stated reason => reason

/-- Why arguments describe no run. -/
inductive ArgumentsFailure where
  | noCurrentDirectory (fault : Fault)
  | stated (reason : String)
  deriving DecidableEq

def ArgumentsFailure.message : ArgumentsFailure → String
  | noCurrentDirectory fault => "Cannot determine current directory: " ++ fault.message
  | stated reason => reason

/-- Why a release fails. -/
inductive Failure where
  | manifest (cause : ManifestFailure)
  | build (cause : Unavailable)
  | bundle (cause : BundleFailure)
  | archive (cause : ArchiveFailure)
  | settings (cause : SettingsFailure)
  | arguments (cause : ArgumentsFailure)
  deriving DecidableEq

namespace Failure

def message : Failure → String
  | manifest cause => "Manifest error: " ++ cause.message
  | build cause => "Build error: " ++ cause.message
  | bundle cause => "Bundle error: " ++ cause.message
  | archive cause => "Archive write error: " ++ cause.message
  | settings cause => "Configuration error: Invalid settings: " ++ cause.message
  | arguments cause => "CLI error: Invalid arguments: " ++ cause.message

/-- The stage that a failure stops. -/
def stage : Failure → Stage
  | build _ => .building
  | bundle _ => .assembling
  | manifest _ => .readingVersion
  | archive _ => .archiving
  | settings _ => .start
  | arguments _ => .start

/-- What an operator can do. -/
def recovery : Failure → List String
  | build cause =>
    ["Install '" ++ cause.program ++ "' and make sure it is on PATH",
      "Verify the toolchain runs from this shell: dotnet --info"]
  | bundle (.outputMissing path) =>
    ["The build claimed success but " ++ path.display ++ " was not produced; inspect the build log",
      "Check the project's output path settings against the expected layout"]
  | bundle (.missingSource path) =>
    ["Restore " ++ path.display ++ " at the repository root and rerun"]
  | manifest (.versionNotFound path) =>
    ["Add a <Version>x.y.z</Version> element to " ++ path.display]
  | manifest (.versionEmpty path) =>
    ["Fill in the empty <Version> element in " ++ path.display]
  | manifest (.unusableVersion path version) =>
    ["Replace '" ++ version ++ "' in " ++ path.display ++ " with a version free of '/' and '\\'",
      "The version becomes part of the archive file name"]
  | manifest (.notParsed path _) =>
    ["Check that " ++ path.display ++ " exists and is well-formed XML",
      "Run with --root to point at the repository root"]
  | archive _ =>
    ["Check free disk space and write permissions on the releases directory",
      "Rerun the release; the archive is rewritten from scratch"]
  | _ => ["Check the error message above for specific details"]

end Failure

end ReleaseBundle
