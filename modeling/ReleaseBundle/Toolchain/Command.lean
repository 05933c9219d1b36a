/-!
# The build command and its result

A toolchain is started by a program name and arguments that are passed on as they are. A build that
runs and fails is a result; only a toolchain that cannot be started is a failure of the release.
-/

namespace ReleaseBundle

/-- A program and its arguments. -/
structure Command where
  program : String
  args : List String
  deriving DecidableEq

namespace Command

/-- The command that builds a project when nothing else is chosen. -/
def standard : Command := ⟨"dotnet", ["build", "--configuration", "Release"]⟩

/-- The program and its arguments with single blanks between them; nothing is quoted. -/
def text (c : Command) : String := c.args.foldl (fun line arg => line ++ " " ++ arg) c.program

end Command

/-- How a started program ended. -/
inductive ExitStatus where
  | exited (code : Nat)
  /-- The program was ended from outside. -/
  | signalled
  deriving DecidableEq

/-- The result of one run of the toolchain. -/
structure BuildResult where
  isSuccess : Bool
  /-- The exit code; a program that was ended from outside has none. -/
  exitCode : Option Int
  /-- Why the build failed. -/
  diagnostic : Option String
  deriving DecidableEq

namespace BuildResult

def success : BuildResult := ⟨true, some 0, none⟩

def failure (exitCode : Option Int) (diagnostic : String) : BuildResult :=
  ⟨false, exitCode, some diagnostic⟩

/-- The result that an exit status stands for. -/
def ofStatus (c : Command) : ExitStatus → BuildResult
  | .exited 0 => success
  | .exited code =>
    failure (some code) ("'" ++ c.text ++ "' exited with code " ++ toString code)
  | .signalled => failure none ("'" ++ c.text ++ "' was terminated by a signal")

end BuildResult

end ReleaseBundle
