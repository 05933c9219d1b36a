import ReleaseBundle.CommandLine.Arguments
import ReleaseBundle.CommandLine.LogFilter
import ReleaseBundle.Pipeline

/-!
# The program

`execute` announces a release, runs it, and tells how it ended. Its exit code is zero exactly if an
archive was released. `run` is the whole program: it reads the arguments, executes them, and renders
everything that was reported as text on the two output channels.
-/

namespace ReleaseBundle.CommandLine

/-- What is said about the end of a run. -/
def closing : Except Failure Verdict → List Message
  | .ok (.released artifact) => [.artifact artifact]
  | .ok (.buildFailed result) =>
    [.failure
        ("An error occurred during build: " ++
          result.diagnostic.getD "toolchain reported failure"),
      .failure "Nothing was bundled or archived"]
  | .error e =>
    let line :=
      match e.stage with
      | .start => "Release aborted: " ++ e.message
      | stage => "Release failed during " ++ stage.title ++ ": " ++ e.message
    [.failure line, .recovery e.recovery]

/-- The exit code of a run. -/
def exitCode : Except Failure Verdict → Nat
  | .ok verdict => verdict.exitCode
  | .error _ => 1

/-- What is said before a run. -/
def opening (s : Settings) : List Message :=
  [.header ("Releasing " ++ s.name), .detail ("Project root: " ++ s.root.display),
    .detail ("Manifest: " ++ s.manifest.display), .plain ("🔨 Building: " ++ s.toolchain.text)]

/-- Releases what the arguments describe and answers the exit code. Only settings that are refused are
a failure. -/
def execute (host : Host) (a : Arguments) : Job Failure Nat := do
  let s ← Job.inspect a.settings
  Job.each Job.say (opening s)
  let outcome ← (runRelease host s).outcome
  Job.each Job.say (closing outcome)
  return exitCode outcome

/-! ## Text on the channels -/

/-- How what was reported becomes text. -/
structure Rendering where
  verbosity : Verbosity
  coloured : Bool
  filter : LogFilter

/-- What an event writes to a channel. -/
def Rendering.bytes (r : Rendering) (c : Channel) : Event → Bytes
  | .said m => Text.ofString (m.shown r.verbosity r.coloured c)
  | .wrote channel bytes => if channel = c then bytes else []
  | .logged record => if c = .err ∧ r.filter.shows record then Text.ofString record.line else []

/-- What a list of events writes to a channel. -/
def Rendering.all (r : Rendering) (c : Channel) (events : List Event) : Bytes :=
  events.flatMap (r.bytes c)

/-- The verbosity of what is said about settings that are refused. -/
def neverQuiet : Verbosity := ⟨false, false⟩

/-- What a run of the program leaves. -/
structure Ending where
  exitCode : Nat
  out : Bytes
  err : Bytes
  disk : Disk

/-- The surroundings of the program that decide how it writes. -/
structure Surroundings where
  terminal : Option String
  noColour : Bool
  /-- The filter for the log, if one is chosen. -/
  logFilter : Option String

/-- Runs the program. -/
def run (host : Host) (surroundings : Surroundings) (arguments : List Bytes) (d : Disk) : Ending :=
  match Arguments.parse arguments with
  | .error refusal =>
    let text := Text.ofString refusal.output
    if refusal.isRequested then ⟨refusal.exitCode, text, [], d⟩
    else ⟨refusal.exitCode, [], text, d⟩
  | .ok a =>
    let account := execute host a d
    let coloured := usesColour surroundings.terminal surroundings.noColour
    let usual := if a.verbose then "debug" else "warn"
    let (filter, warnings) := LogFilter.parse (surroundings.logFilter.getD usual)
    let rendering : Rendering := ⟨a.verbosity, coloured, filter⟩
    let (code, farewell) :=
      match account.result with
      | .ok code => (code, [])
      | .error e => (1, [Message.failure ("Fatal error: " ++ e.message), .recovery e.recovery])
    let last : Rendering := { rendering with verbosity := neverQuiet }
    let written (c : Channel) :=
      rendering.all c account.events ++ last.all c (farewell.map .said)
    ⟨code, written .out, warnings.flatMap Text.ofString ++ written .err, account.disk⟩

end ReleaseBundle.CommandLine
