import ReleaseBundle.Failure
import ReleaseBundle.Job
import ReleaseBundle.Xml.Reader

/-!
# The version in a manifest

The manifest is an XML document, and the version is the text of its first `Version` element in document
order, wherever it stands and whatever its prefix. Comments, instructions and elements inside it are
left out and the text around them is joined. The version becomes part of a file name, so blanks at its
ends are removed and a version with a path separator is refused. All this is done with the tree that a
parser makes of the file, whichever parser that is; `findVersion` and `readVersion` use `Xml.parse`.
-/

namespace ReleaseBundle.Manifest

/-- The local name of the element that holds the version. -/
def versionElement : List Char := "Version".toList

/-- The version that a document declares. -/
def versionOf (path : Path) (root : Xml.Node) : Except ManifestFailure String :=
  match root.findNamed? versionElement with
  | none => .error (.versionNotFound path)
  | some children =>
    let version := Text.trim (Xml.Node.directText children)
    if version = [] then .error (.versionEmpty path)
    else if version.any Text.isSeparator then
      .error (.unusableVersion path (String.ofList version))
    else .ok (String.ofList version)

/-- Removes one byte order mark at the start. -/
def withoutMark : List Char → List Char
  | '\uFEFF' :: cs => cs
  | cs => cs

/-- The text of a manifest file. -/
def readText (d : Disk) (path : Path) : Except Fault (List Char) :=
  match d.contentsOf path with
  | .error fault => .error fault
  | .ok bytes =>
    match Text.decode? bytes with
    | none => .error .notUtf8
    | some text => .ok text

/-- The version that a manifest file declares to a parser. -/
def findVersionBy (parse : Xml.Parser) (d : Disk) (path : Path) : Except ManifestFailure String :=
  match readText d path with
  | .error fault => .error (.notParsed path (.unreadable fault))
  | .ok text =>
    match parse (withoutMark text) with
    | .error error => .error (.notParsed path (.malformed error))
    | .ok root => versionOf path root

/-- Reads the version with a parser and says so in the log. -/
def readVersionBy (parse : Xml.Parser) (path : Path) : Job ManifestFailure String := do
  let version ← Job.inspect fun d => findVersionBy parse d path
  Job.log (.versionRead version path)
  return version

/-- The version that a manifest file declares. -/
def findVersion (d : Disk) (path : Path) : Except ManifestFailure String := findVersionBy Xml.parse d path

/-- Reads the version and says so in the log. -/
def readVersion (path : Path) : Job ManifestFailure String := readVersionBy Xml.parse path

end ReleaseBundle.Manifest
