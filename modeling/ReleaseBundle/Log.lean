import ReleaseBundle.Path
import ReleaseBundle.Stage

/-!
# The log of a run

Every step that is worth a line in the log has a record of its own. The part of the program that
writes it, the level and the text follow from the record.
-/

namespace ReleaseBundle

/-- How important a record is; less important levels come later. -/
inductive LogLevel where
  | error
  | warn
  | info
  | debug
  | trace
  deriving DecidableEq

namespace LogLevel

def label : LogLevel → String
  | error => "ERROR"
  | warn => "WARN"
  | info => "INFO"
  | debug => "DEBUG"
  | trace => "TRACE"

/-- The place of a level, from the most to the least important. -/
def rank : LogLevel → Nat
  | error => 1
  | warn => 2
  | info => 3
  | debug => 4
  | trace => 5

end LogLevel

/-- What a step reports. -/
inductive LogRecord where
  | stageEntered (left entered : Stage)
  | bundlingSkipped (diagnostic : Option String)
  | versionChosen (version : String)
  | versionRead (version : String) (path : Path)
  | copied (source destination : Path)
  | packed (count : Nat) (path : Path)
  | programResolved (path : Path)
  | programStarted (command : String) (directory : Path)
  | buildSucceeded
  | buildFailed (diagnostic : Option String)
  deriving DecidableEq

namespace LogRecord

def level : LogRecord → LogLevel
  | stageEntered _ _ | bundlingSkipped _ | versionRead _ _ | copied _ _ | programResolved _ => .debug
  | versionChosen _ | packed _ _ | programStarted _ _ | buildSucceeded | buildFailed _ => .info

/-- The name of the part of the program that writes a record, which filters select by. -/
def target : LogRecord → String
  | stageEntered _ _ | bundlingSkipped _ | versionChosen _ => "repraxis_bundler_release::release"
  | versionRead _ _ => "repraxis_bundler_release::metadata"
  | copied _ _ => "repraxis_bundler_release::bundler::assembler"
  | packed _ _ => "repraxis_bundler_release::bundler::archive"
  | programResolved _ | programStarted _ _ | buildSucceeded | buildFailed _ =>
    "repraxis_bundler_release::build"

def text : LogRecord → String
  | stageEntered left entered => "Release stage: " ++ left.title ++ " -> " ++ entered.title
  | bundlingSkipped diagnostic =>
    "Build failed, skipping bundling: " ++ diagnostic.getD "no diagnostic"
  | versionChosen version => "Release version: " ++ version
  | versionRead version path => "Read version " ++ version ++ " from " ++ path.display
  | copied source destination => "Copied " ++ source.display ++ " -> " ++ destination.display
  | packed count path => "Wrote " ++ toString count ++ " entries to " ++ path.display
  | programResolved path => "Resolved toolchain at: " ++ path.display
  | programStarted command directory => "Running '" ++ command ++ "' in " ++ directory.display
  | buildSucceeded => "Build finished successfully"
  | buildFailed diagnostic => "Build failed: " ++ diagnostic.getD "unknown failure"

end LogRecord

end ReleaseBundle
