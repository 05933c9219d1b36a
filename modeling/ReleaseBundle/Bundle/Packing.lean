import ReleaseBundle.Archive.Stream
import ReleaseBundle.Bundle.Medium

/-!
# Packing a bundle

The bundle is listed before anything is changed. The archive is then written to a staging file beside
its final place and moved there in one step, so the final path holds either what it held before or the
complete archive. When something fails the staging file is removed; directories that were created for
the archive stay. `writeArchiveOn` does all this on any medium, and `writeArchive` on one that does what it
is asked.
-/

namespace ReleaseBundle.Bundle

/-! ## Directories for the archive -/

/-- Creates one directory. -/
def makeDirectory (m : Medium) (p : Path) : Job Fault Unit :=
  m.grant (.makeDirectory p) fun d => (d.makeDirectory p).map fun d' => (d', ())

/-- Fails, unless the path is a directory all the same. -/
def unlessDirectory (p : Path) (fault : Fault) : Job Fault Unit :=
  Job.inspect fun d => if d.isDirectory p then .ok () else .error fault

/-- Creates a directory and those that are missing above it. -/
def makeDirectories (m : Medium) (p : Path) : Job Fault Unit :=
  if p.bytes = [] then Job.pure ()
  else
    Job.bind (makeDirectory m p).outcome fun
      | .ok () => Job.pure ()
      | .error (.os .notFound) =>
        match _h : p.parent? with
        | none => Job.fail (.stated "failed to create whole tree")
        | some parent =>
          Job.bind (makeDirectories m parent) fun _ =>
            Job.bind (makeDirectory m p).outcome fun
              | .ok () => Job.pure ()
              | .error fault => unlessDirectory p fault
      | .error fault => unlessDirectory p fault
termination_by p.bytes.length
decreasing_by exact Path.length_parent _h

/-- The directory that an archive is written to, unless the path names none. -/
def parentOf? (archive : Path) : Option Path :=
  match archive.parent? with
  | some parent => if parent.bytes = [] then none else some parent
  | none => none

/-- Creates the directory for an archive. -/
def makeParent (m : Medium) (archive : Path) : Job Fault Unit :=
  match parentOf? archive with
  | some parent => makeDirectories m parent
  | none => Job.pure ()

/-- The directory for the staging file. -/
def stagingDirectory (archive : Path) : Path := (parentOf? archive).getD (.ofString ".")

/-! ## The staging file -/

/-- A file that is being written. -/
structure Staging where
  location : Location
  number : Nat

/-- A hidden name that tells what the file is. -/
def stagingName (k : Nat) : Bytes := Text.ofString ("." ++ toString k ++ ".partial")

/-- A staging name that is free in a directory. -/
def freeName? (d : Disk) (dir : Location) : Option Name :=
  (List.range ((d.children dir).length + 1)).findSome? fun k =>
    match Name.ofBytes? (stagingName k) with
    | some name => if d.node? (name :: dir) = none then some name else none
    | none => none

/-- Creates a staging file in a directory; only its owner may read it. The name is short, so a path that is
not too long for the archive is taken not to be too long for it either. -/
def createStaging (m : Medium) (dir : Path) : Job Fault Staging :=
  m.grant (.createStaging dir) fun d =>
    match d.stat dir with
    | .error fault => .error fault
    | .ok (location, .directory) =>
      match freeName? d location with
      | some name =>
        .ok (d.createFile location name 0o600, ⟨name :: location, d.freshNumber⟩)
      | none => .error (.os .alreadyExists)
    | .ok (_, _) => .error (.os .notDirectory)

/-- The path of a staging file in a directory, from the top of the disk. -/
def Staging.path (s : Staging) (d : Disk) (dir : Path) : Path :=
  let whole := (Disk.pathOf d.cwd).join dir
  match s.location with
  | name :: _ => whole.child name.bytes
  | [] => whole

/-- Writes at the end of a staging file. If that fails, the file can hold anything. -/
def Staging.write (s : Staging) (m : Medium) (r : Request) (bytes : Bytes) : Job Fault Unit := do
  match ← Job.look (m.spoils r) with
  | none => Job.change fun d => d.appendTo s.number bytes
  | some (left, fault) =>
    Job.change fun d => d.overwrite s.number left
    Job.fail fault

/-! ## Reading the bundle -/

/-- The item of a directory. A tar file looks at the directory once more, a zip file does not. -/
def directoryItem (f : Format) (e : Entry) (d : Disk) : Except ArchiveFailure Item :=
  match f with
  | .zip => .ok ⟨e.name, .directory⟩
  | .tarGz =>
    match d.stat e.source with
    | .error fault => .error (.file .archivingDirectory e.source fault)
    | .ok _ => .ok ⟨e.name, .directory⟩

/-- What happened to a file between being listed and being opened, as the formats tell it. A tar file
looks at a file before it opens it. -/
def openingFault (f : Format) (path : Path) (fault : Fault) : ArchiveFailure :=
  match f, fault with
  | .zip, _ => .file .openingFile path fault
  | .tarGz, .os .accessDenied => .file .archivingFile path fault
  | .tarGz, _ =>
    .file .archivingFile path
      (.stated (fault.message ++ " when getting metadata for " ++ path.display))

/-- Why a file cannot be stored: a zip file holds nothing of four gigabytes or more, packed or not, and a
tar file nothing whose size is no 64-bit number. A file is packed here without looking for repetitions, so
one just below the limit can be refused that another compressor would make small enough. -/
def tooLarge? (f : Format) (content : Bytes) : Option Fault :=
  match f with
  | .zip =>
    if Zip.max32 < content.length ∨ Zip.max32 < (Deflate.deflate content).length then
      some (.stated "Large file option has not been set")
    else none
  | .tarGz => if Tar.maxSize < content.length then some (.numbered 27) else none

/-- The item of a file. -/
def fileItem (f : Format) (e : Entry) (d : Disk) : Except ArchiveFailure Item :=
  match d.openPath e.source with
  | .error fault => .error (openingFault f e.source fault)
  | .ok opened =>
    match opened.read with
    | .error fault => .error (.file .archivingFile e.source fault)
    | .ok content =>
      match tooLarge? f content with
      | some fault => .error (.file .archivingFile e.source fault)
      | none => .ok ⟨e.name, .file content opened.ownerExecutes⟩

/-- The item of an entry. -/
def item (f : Format) (e : Entry) (d : Disk) : Except ArchiveFailure Item :=
  if e.isDirectory then directoryItem f e d else fileItem f e d

/-! ## Writing the archive -/

/-- How a fault is told that stops the contents of an entry from being written. The head of a directory is
all that a zip file has of it. -/
def contentsFault (f : Format) (e : Entry) (fault : Fault) : ArchiveFailure :=
  match f, e.isDirectory with
  | .zip, true => .zip fault
  | .tarGz, true => .file .archivingDirectory e.source fault
  | _, false => .file .archivingFile e.source fault

/-- Writes the head of a zip member. Tar files are written in one go. -/
def writeHead (m : Medium) (f : Format) (s : Staging) (e : Entry) : Job ArchiveFailure Unit :=
  match f, e.isDirectory with
  | .zip, false => (s.write m (.head e) []).mapError .zip
  | _, _ => Job.pure ()

/-- Completes the archive. A tar file is compressed, and its stream has an end of its own. -/
def writeEnd (m : Medium) (f : Format) (s : Staging) (w : Archive.Writer) : Job ArchiveFailure Unit :=
  match f with
  | .zip => (s.write m .complete w.finish).mapError .zip
  | .tarGz => do
    (s.write m .complete []).mapError (.file .finishingTarball (.ofString "<archive>"))
    (s.write m .compress w.finish).mapError (.file .finishingStream (.ofString "<archive>"))

/-- Writes the items of the entries, one after the other, and completes the archive. -/
def writeEntries (m : Medium) (f : Format) (s : Staging) (w : Archive.Writer) :
    List Entry → Job ArchiveFailure Unit
  | [] => writeEnd m f s w
  | e :: es => do
    writeHead m f s e
    let i ← Job.inspect fun d => item f e d
    let (w, bytes) := w.add i
    (s.write m (.contents e) bytes).mapError (contentsFault f e)
    writeEntries m f s w es

/-- Makes sure that the staging file in a directory reaches the device. -/
def flush (m : Medium) (s : Staging) (dir : Path) : Job ArchiveFailure Unit := do
  let path ← Job.look fun d => s.path d dir
  (s.write m .flush []).mapError (.file .flushing path)

/-- Moves the staging file to its final place. -/
def persist (m : Medium) (s : Staging) (archive : Path) : Job ArchiveFailure Unit :=
  (m.grant .persist fun d => (d.rename s.location archive).map fun d' => (d', ())).mapError
    (.notPersisted archive)

/-- Packs the bundle `source` into an archive and answers its path; `destination` is that path
without its extension. An archive that is already there is replaced. -/
def writeArchiveOn (m : Medium) (source destination : Path) (f : Format) : Job ArchiveFailure Path := do
  let archive := f.archivePath destination
  let entries ← Job.inspect fun d =>
    if d.isDirectory source then collect d source else .error (.sourceNotDirectory source)
  (makeParent m archive).mapError (.file .creatingReleasesDirectory archive)
  let dir := stagingDirectory archive
  let staging ← (createStaging m dir).mapError (.file .creatingStagingFile dir)
  Job.orUndo
    (do
      writeEntries m f staging (.start f) entries
      flush m staging dir
      persist m staging archive)
    fun d => d.unlink staging.location
  Job.log (.packed entries.length archive)
  return archive

/-- Packs a bundle on a medium on which no request fails. -/
def writeArchive (source destination : Path) (f : Format) : Job ArchiveFailure Path :=
  writeArchiveOn .reliable source destination f

end ReleaseBundle.Bundle
