import ReleaseBundle.Archive.Format
import ReleaseBundle.Failure
import ReleaseBundle.Toolchain.Command

/-!
# Settings

The settings of a run are fixed before anything happens. What is not chosen follows from the project
root and the name of the artifact: the manifest is `src/<name>/<name>.csproj`, license and readme stand
at the root, the build leaves its output in `dist/<name>`, and archives go to `dist`.

Every path is joined to the root as it is written. Archives may not be written below the build output,
because the build output is what is archived; the test compares components.
-/

namespace ReleaseBundle

/-- What a run needs to know. -/
structure Settings where
  root : Path
  name : String
  manifest : Path
  license : Path
  readme : Path
  output : Path
  releases : Path
  format : Format
  toolchain : Command
  deriving DecidableEq

namespace Settings

/-- The name of an artifact when none is chosen. -/
def defaultName : String := "RePraxis"

/-- What can be chosen about a run. -/
structure Choices where
  root : Path
  name : Option String := none
  manifest : Option Path := none
  license : Option Path := none
  readme : Option Path := none
  output : Option Path := none
  releases : Option Path := none
  format : Format := .zip
  toolchain : Option Command := none
  deriving DecidableEq

namespace Choices

def chosenName (c : Choices) : String := c.name.getD defaultName

def chosenToolchain (c : Choices) : Command := c.toolchain.getD .standard

/-- The usual place of a manifest. -/
def usualManifest (name : String) : Path :=
  ((Path.ofString "src").join (.ofString name)).join (.ofString (name ++ ".csproj"))

/-- The usual place of the build output. -/
def usualOutput (name : String) : Path := (Path.ofString "dist").join (.ofString name)

/-- The settings that the choices amount to, with nothing checked. -/
def resolved (c : Choices) : Settings :=
  let at_ (chosen : Option Path) (usual : Path) := c.root.join (chosen.getD usual)
  { root := c.root
    name := c.chosenName
    manifest := at_ c.manifest (usualManifest c.chosenName)
    license := at_ c.license (.ofString "LICENSE.md")
    readme := at_ c.readme (.ofString "README.md")
    output := at_ c.output (usualOutput c.chosenName)
    releases := at_ c.releases (.ofString "dist")
    format := c.format
    toolchain := c.chosenToolchain }

end Choices

/-- Whether a text holds nothing but blanks. -/
def isBlankText (s : String) : Bool := s.toList.all Text.isBlank

/-- Why settings are refused. -/
def refusal? (s : Settings) : Option SettingsFailure :=
  if isBlankText s.name then some .emptyName
  else if s.name.toList.any Text.isSeparator then some (.separatorInName s.name)
  else if s.releases.startsWith s.output then some (.releasesInsideOutput s.releases s.output)
  else if isBlankText s.toolchain.program then some .emptyProgram
  else none

/-- The settings of a run. -/
def Choices.settings (c : Choices) : Except SettingsFailure Settings :=
  match refusal? c.resolved with
  | some failure => .error failure
  | none => .ok c.resolved

/-- Where the archive of a version is written, without its extension. -/
def archiveBase (s : Settings) (version : String) : Path :=
  s.releases.join (.ofString (s.name ++ "_" ++ version))

end Settings

end ReleaseBundle
