import ReleaseBundle.Disk.Difference
import ReleaseBundle.Proofs.Bundle.Contents
import ReleaseBundle.Proofs.Bundle.Description
import ReleaseBundle.Proofs.Bundle.Fresh

/-!
# Writing an archive is all or nothing

An archive that cannot be written leaves no trace but directories that were made for it, and not even
those if its bundle could not be listed. An archive that is written takes the place of the one entry that
its path names, a link as little followed as a file is opened, and it holds the bundle as it was before
anything of this happened. All this is true of every medium, whatever it refuses and whichever writes fail
on it.

The path of the archive is followed while the staging file is there. That it leads to the same place
without it rests on the names: no archive is called like a staging file.
-/

namespace ReleaseBundle

namespace Path

theorem getLast?_splitSlash {bs : Bytes} {b : UInt8} (hslash : b ≠ slash) (h : bs.getLast? = some b) :
    ∃ front part, splitSlash bs = front ++ [part] ∧ part.getLast? = some b := by
  induction bs with
  | nil => cases h
  | cons c cs ih =>
    cases cs with
    | nil =>
      obtain rfl : c = b := by simpa using h
      exact ⟨[], [c], by simp [splitSlash, hslash], rfl⟩
    | cons c' cs =>
      obtain ⟨front, part, hsplit, hlast⟩ := ih (by simpa [List.getLast?_cons_cons] using h)
      rw [splitSlash]
      split
      · exact ⟨[] :: front, part, by rw [hsplit]; rfl, hlast⟩
      · rw [hsplit]
        cases front with
        | nil =>
          obtain ⟨x, xs, rfl⟩ := List.exists_cons_of_ne_nil (show part ≠ [] by rintro rfl; cases hlast)
          exact ⟨[], c :: x :: xs, rfl, by simpa [List.getLast?_cons_cons] using hlast⟩
        | cons s ss => exact ⟨(c :: s) :: ss, part, rfl, hlast⟩

/-- The last part of a path that does not end in a slash ends like the path. -/
theorem getLast?_steps {p : Path} {b : UInt8} (hslash : b ≠ slash) (h : p.bytes.getLast? = some b) :
    ∃ part, p.steps.getLast? = some part ∧ part.getLast? = some b := by
  obtain ⟨front, part, hsplit, hlast⟩ := getLast?_splitSlash hslash h
  have hnil : part ≠ [] := by rintro rfl; cases hlast
  have hend : p.endsInSlash = false := by simp [endsInSlash, h, hslash]
  refine ⟨part, ?_, hlast⟩
  rw [steps, hend, segments, hsplit]
  simp [hnil]

end Path

namespace Disk

variable {d : Disk} {links n : Nat} {here dir : Location} {parts : List Bytes} {k : Name}

/-- A file that is found with the last link left alone is called like the last part of the path. -/
theorem Route.getLast?_of_file (h : Route d false links here parts (.found (k :: dir) (.file n))) :
    parts.getLast? = some k.bytes := by
  generalize hspot : Spot.found (k :: dir) (.file n) = spot at h
  induction h with
  | arrived _ _ => cases hspot
  | stay _ ih => rw [List.getLast?_cons, ih hspot]; rfl
  | ascend _ ih => rw [List.getLast?_cons, ih hspot]; rfl
  | enter _ _ _ ih => rw [List.getLast?_cons, ih hspot]; rfl
  | file name _ =>
    cases hspot
    rfl
  | link _ _ _ => cases hspot
  | @jump _ _ _ rest _ name _ hend _ _ ih =>
    have hrest : rest ≠ [] := fun hnil => hend ⟨hnil, rfl⟩
    have hlast := ih hspot
    rw [List.getLast?_append_of_ne_nil _ hrest] at hlast
    rw [List.getLast?_cons, hlast]
    rfl
  | vacant _ _ => cases hspot

end Disk

/-- Whether a failure says that the bundle cannot be listed. -/
def ArchiveFailure.isListing : ArchiveFailure → Bool
  | sourceNotDirectory _ | walk _ | outsideSource | notUtf8 _ => true
  | file _ _ _ | zip _ | notPersisted _ _ => false

namespace Bundle

open Archive (Stored)
open Disk (Extends Replaced)

variable {d e ground : Disk} {source archive destination : Path} {dir at_ : Location} {name : Name}
  {f : Format} {entries : List Entry} {items : List Item} {file : FileData} {spot : Spot} {medium : Medium}

/-! ## The name of the archive -/

theorem getLast?_archivePath (f : Format) (destination : Path) :
    ∃ b, (f.archivePath destination).bytes.getLast? = some b ∧ b ≠ Path.slash ∧ b ≠ 0x6C := by
  obtain ⟨b, hextension, hslash, hstaging⟩ :
      ∃ b, (Text.ofString f.extension).getLast? = some b ∧ b ≠ Path.slash ∧ b ≠ 0x6C := by
    cases f with
    | zip => exact ⟨0x70, by decide, by decide, by decide⟩
    | tarGz => exact ⟨0x7A, by decide, by decide, by decide⟩
  refine ⟨b, ?_, hslash, hstaging⟩
  simp [Format.archivePath, Path.append, List.getLast?_append, hextension]

theorem getLast?_stagingName (i : Nat) : (stagingName i).getLast? = some 0x6C := by
  have hend : (Text.ofString ".partial").getLast? = some 0x6C := by decide
  simp [stagingName, List.getLast?_append, hend]

/-- Where the path of an archive leads does not depend on the staging file. -/
theorem locate_of_staged (hplace : StagingPlace ground archive dir name)
    (h : (ground.staged dir name file).locate (f.archivePath destination) false = .ok spot) :
    ground.locate (f.archivePath destination) false = .ok spot := by
  obtain ⟨hnone, hroute⟩ := Disk.locate_eq_ok_iff.1 h
  have hnode := Disk.node?_staged file hplace.node? hplace.free
  have hpass : ∀ l x, (∀ m, x ≠ .file m) → (ground.staged dir name file).node? l = some x →
      ground.node? l = some x := fun l x => hplace.before
  have hcwd : (ground.staged dir name file).cwd = ground.cwd := by simp
  have hsome : ground.refusal? (f.archivePath destination) = none := by
    rw [Disk.refusal?_eq_none_iff, hcwd] at hnone
    exact Disk.refusal?_eq_none_iff.2
      ⟨hnone.1, hnone.2.1, hnone.2.2.1, fun habs => hpass _ _ (by simp) (hnone.2.2.2 habs)⟩
  refine Disk.locate_eq_ok_iff.2 ⟨hsome, ?_⟩
  rw [hcwd] at hroute
  cases spot with
  | vacant dir' k =>
    have hfree := (Disk.locate_holds h).2
    rw [hnode] at hfree
    split at hfree
    · cases hfree
    · exact hroute.still_vacant hpass hfree
  | found l x =>
    -- a file at the end of the way could be the staging file, but for its name
    refine hroute.along fun l' x' hfile hx => ?_
    rw [hnode] at hx
    split at hx
    · next hstaging =>
      cases hx
      obtain ⟨rfl, rfl⟩ := hfile _ rfl
      subst hstaging
      obtain ⟨b, hlast, hslash, hother⟩ := getLast?_archivePath f destination
      obtain ⟨part, hpart, hend⟩ := Path.getLast?_steps hslash hlast
      obtain ⟨i, hname⟩ := hplace.hidden
      rw [hroute.getLast?_of_file, Option.some.injEq] at hpart
      rw [← hpart, hname, getLast?_stagingName, Option.some.injEq] at hend
      exact absurd hend.symm hother
    · exact hx

/-! ## Failures before anything is changed -/

theorem item_error {entry : Entry} {x : ArchiveFailure} (h : item f entry d = .error x) :
    x.isListing = false := by
  unfold item directoryItem fileItem openingFault at h
  repeat' split at h
  all_goals cases h
  all_goals rfl

/-- A job whose error is told as another one ends with an error of that kind. -/
theorem ends_told {α : Type} {tell : Fault → ArchiveFailure} (htell : ∀ fault, (tell fault).isListing = false)
    (j : Job Fault α) (d : Disk) :
    (j.mapError tell).Ends d (fun _ _ => True) fun x _ => x.isListing = false :=
  Job.ends_mapError.2 ((Job.ends_self j d).mono (fun _ _ _ => trivial) fun fault _ _ => htell fault)

theorem isListing_contentsFault (f : Format) (entry : Entry) (fault : Fault) :
    (contentsFault f entry fault).isListing = false := by
  unfold contentsFault
  split <;> rfl

theorem writeHead_error (medium : Medium) (s : Staging) (entry : Entry) (d : Disk) :
    (writeHead medium f s entry).Ends d (fun _ _ => True) fun x _ => x.isListing = false := by
  unfold writeHead
  split
  · exact ends_told (fun _ => rfl) _ d
  · trivial

theorem writeEnd_error (medium : Medium) (s : Staging) (w : Archive.Writer) (d : Disk) :
    (writeEnd medium f s w).Ends d (fun _ _ => True) fun x _ => x.isListing = false := by
  cases f with
  | zip => exact ends_told (fun _ => rfl) _ d
  | tarGz =>
    simp only [writeEnd, Job.ends_bind]
    exact (ends_told (fun _ => rfl) _ d).mono (fun _ _ _ => ends_told (fun _ => rfl) _ _) fun _ _ h => h

theorem writeEntries_error (medium : Medium) (s : Staging) (w : Archive.Writer) (entries : List Entry)
    (d : Disk) :
    (writeEntries medium f s w entries).Ends d (fun _ _ => True) fun x _ => x.isListing = false := by
  induction entries generalizing w d with
  | nil => exact writeEnd_error medium s w d
  | cons entry entries ih =>
    simp only [writeEntries, Job.ends_bind]
    refine (writeHead_error medium s entry d).mono (fun _ _ _ => ?_) fun _ _ h => h
    refine Job.ends_inspect.2 ⟨fun _ _ => ?_, fun _ hitem => item_error hitem⟩
    exact (ends_told (isListing_contentsFault f entry) _ _).mono (fun _ _ _ => ih _ _) fun _ _ h => h

theorem flush_error (medium : Medium) (s : Staging) (p : Path) (d : Disk) :
    (flush medium s p).Ends d (fun _ _ => True) fun x _ => x.isListing = false := by
  simp only [flush, Job.ends_bind]
  exact Job.ends_look.2 (ends_told (fun _ => rfl) _ d)

/-- A bundle that cannot be listed is found out before the first step that changes anything. -/
theorem writeArchive_listing (medium : Medium) (source destination : Path) (f : Format) (d : Disk) :
    (writeArchiveOn medium source destination f).Ends d (fun _ _ => True) fun x e =>
      x.isListing = true → e = d := by
  have hlater : ∀ {x : ArchiveFailure} {e : Disk}, x.isListing = false → x.isListing = true → e = d := by
    intro x e hnot hlisting
    rw [hnot] at hlisting
    cases hlisting
  simp only [writeArchiveOn, Job.ends_bind]
  refine Job.ends_inspect.2 ⟨fun entries _ => ?_, fun _ _ _ => rfl⟩
  refine (ends_told (fun _ => rfl) _ d).mono (fun _ ground _ => ?_) fun _ _ herror => hlater herror
  refine (ends_told (fun _ => rfl) _ ground).mono (fun s e _ => ?_) fun _ _ herror => hlater herror
  rw [Job.ends_orUndo]
  simp only [Job.ends_bind]
  refine (writeEntries_error medium s _ entries e).mono (fun _ e' _ => ?_) fun _ _ herror => hlater herror
  refine (flush_error medium s _ e').mono (fun _ e' _ => ?_) fun _ _ herror => hlater herror
  exact (ends_told (fun _ => rfl) _ e').mono (fun _ _ _ => trivial) fun _ _ herror => hlater herror

/-! ## The whole archive -/

/-- What writing an archive has changed once it succeeded: there may be new directories above the archive,
which make up the disk `ground`, and the entry `at_` that the path of the archive leads to there is now the
file `n` of the archive. The path leads to this file if it names the place. A path that does not goes
through a link that stood in that place; the archive has displaced the link, and its path leads nowhere
any more. -/
structure InPlace (d : Disk) (archive : Path) (ground : Disk) (at_ : Location) (n : Nat) (file : FileData)
    (e : Disk) : Prop where
  grown : Extends d ground [] archive.ancestors
  named : ∃ spot, ground.locate archive false = .ok spot ∧ spot.location = at_
  entry : ground.node? at_ ≠ some .directory
  replaced : Replaced ground e at_ n file
  visible : ground.Names archive at_ →
    e.stat archive = .ok (at_, .file n) ∧ e.lstat archive = .ok (at_, .file n)
  displaced : ¬ ground.Names archive at_ → (∃ target, ground.node? at_ = some (.link target)) ∧
    e.stat archive = .error (.os .notDirectory) ∧ e.lstat archive = .error (.os .notDirectory)

theorem Packed.inPlace (h : Packed medium d source (f.archivePath destination) f entries items ground at_ e) :
    InPlace d (f.archivePath destination) ground at_ ground.freshNumber
      (stagingFile (Archive.encode f items)) e where
  grown := h.grown
  named := by
    obtain ⟨dir, name, spot, hplace, _, hlocate, _, hat⟩ := h.staged
    exact ⟨spot, locate_of_staged hplace hlocate, hat⟩
  entry := h.not_directory
  replaced := h.replaced
  visible hnames := (h.stat.resolve_right fun hlost => hlost.1.1 hnames).2
  displaced hnot := by
    obtain ⟨⟨_, herror⟩, hlink⟩ := h.stat.resolve_left fun hfound => hnot hfound.1
    exact ⟨hlink, herror⟩

/-- What is read back from the path of an archive is the archive. -/
theorem Packed.read (h : Packed medium d source archive f entries items ground at_ e) {bytes : Bytes}
    (hread : e.contentsOf archive = .ok bytes) : bytes = Archive.encode f items := by
  rcases h.stat with ⟨_, hstat, _⟩ | ⟨⟨_, herror, _⟩, _⟩
  · have hopen : e.openPath archive = .ok (.file ground.freshNumber (stagingFile (Archive.encode f items))) :=
      Disk.openPath_eq_file_iff.2
        ⟨⟨at_, hstat⟩, h.replaced.content, by simp [stagingFile, FileData.ownerReads]⟩
    have hcontents : e.contentsOf archive = .ok (Archive.encode f items) := by
      simp only [Disk.contentsOf, hopen]
      rfl
    rw [hcontents] at hread
    exact (Except.ok.inj hread).symm
  · have hopen : e.openPath archive = .error (.os .notDirectory) := by simp only [Disk.openPath, herror]
    simp only [Disk.contentsOf, hopen] at hread
    cases hread

/-- What stood in the place of the archive before is found there by its path, too. -/
theorem InPlace.stood {n : Nat} {l : Location} {node : Node} (h : InPlace d archive ground at_ n file e)
    (hstood : d.lstat archive = .ok (l, node)) : l = at_ ∧ d.node? at_ = some node := by
  obtain ⟨spot, hspot, hat⟩ := h.named
  have hlocate := Disk.lstat_eq_ok_iff_locate.1 hstood
  have hthere := Disk.lstat_eq_ok_iff_locate.1 (h.grown.lstat hstood)
  obtain rfl : l = at_ := by
    rw [hthere, Except.ok.injEq] at hspot
    rw [← hat, ← hspot]
    rfl
  exact ⟨rfl, Disk.locate_holds hlocate⟩

/-- Files in other places keep their names and their contents, also those that a link in the place of the
archive led to. -/
theorem InPlace.elsewhere {n m : Nat} {l : Location} (h : InPlace d archive ground at_ n file e)
    (helse : l ≠ at_) (hfile : d.node? l = some (.file m)) :
    e.node? l = some (.file m) ∧ e.data m = d.data m := by
  have hground := h.grown.kept l _ hfile
  exact ⟨h.replaced.keep helse hground,
    (h.replaced.data l m helse hground).trans (h.grown.data_eq hfile)⟩

/-- On every medium, writing an archive fails with no trace if the bundle cannot be listed, and otherwise with
no more than new directories above the archive. If it succeeds, the entry that the path leads to is a file
in the end, whatever it was before, and no other entry has changed. The path leads to this file, unless it
goes through the link that stood there. -/
theorem writeArchive_all_or_nothing (medium : Medium) (source destination : Path) (f : Format) (d : Disk) :
    (writeArchiveOn medium source destination f).Ends d
      (fun archive e => archive = f.archivePath destination ∧ ∃ ground at_ n content,
        InPlace d archive ground at_ n (stagingFile content) e ∧
        (∀ l node, d.lstat archive = .ok (l, node) → l = at_ ∧ node ≠ .directory) ∧
        ∀ l m, l ≠ at_ → d.node? l = some (.file m) → e.node? l = some (.file m) ∧ e.data m = d.data m)
      (fun x e => (x.isListing = true → e = d) ∧ Extends d e [] (f.archivePath destination).ancestors) := by
  refine ((writeArchive_listing medium source destination f d).and
    (writeArchiveOn_ends medium source destination f d)).mono ?_ fun _ _ h => h
  rintro archive e ⟨-, rfl, entries, items, ground, at_, hpacked⟩
  have hinPlace := hpacked.inPlace
  refine ⟨rfl, ground, at_, _, _, hinPlace, fun l node hstood => ?_, fun l m helse hfile =>
    hinPlace.elsewhere helse hfile⟩
  obtain ⟨rfl, hnode⟩ := hinPlace.stood hstood
  refine ⟨rfl, ?_⟩
  rintro rfl
  exact hinPlace.entry (hinPlace.grown.kept _ _ hnode)

/-- A disk with an empty bundle `b` and a link `W.zip` to it. -/
def linkInPlace : Disk :=
  Disk.place (Disk.locationOf (.ofString "W.zip")) (.link (.ofString "b"))
    (Disk.place (Disk.locationOf (.ofString "b")) .directory .empty)

/-- The file name of an archive. -/
def zipName : Name := ⟨Text.ofString "W.zip", by decide⟩

theorem linkInPlace_packable :
    Packable linkInPlace (.ofString "b") (.ofString "W.zip/../W.zip") .zip [⟨.ofString "b", "b", true⟩]
      [⟨"b", .directory⟩] := by
  have htext : Text.decode? (Text.ofString "b") = some ['b'] := by decide +kernel
  have hstat : linkInPlace.stat (.ofString "b") = .ok (Disk.locationOf (.ofString "b"), .directory) := by
    decide +kernel
  have hcollected : collect linkInPlace (.ofString "b") = .ok [⟨.ofString "b", "b", true⟩] :=
    collect_of_empty (by decide +kernel) htext hstat (by decide +kernel) (by decide +kernel)
  have hmade : linkInPlace.makeDirectory (.ofString "W.zip/..") = .error (.os .alreadyExists) := by
    have hnone : linkInPlace.refusal? (.ofString "W.zip/..") = none := by decide +kernel
    have hfound : linkInPlace.locate (Path.ofString "W.zip/..").withoutSlashes false =
        .ok (.found [] .directory) := by decide +kernel
    simp only [Disk.makeDirectory, hnone, hfound]
  have hstaging : StagingPlace linkInPlace (stagingDirectory (.ofString "W.zip/../W.zip")) []
      ⟨stagingName 0, by decide⟩ := ⟨by decide +kernel, by decide +kernel⟩
  have hfound : linkInPlace.locate (.ofString "W.zip/../W.zip") false =
      .ok (.found [zipName] (.link (.ofString "b"))) := by decide +kernel
  exact packable_over (by decide +kernel) hcollected
    (makeParent_there (by decide +kernel) hmade (by decide +kernel)) hstaging hfound (by simp)
    (.cons rfl .nil)

/-- The archive `W.zip/../W.zip` of this bundle is written. -/
theorem linkInPlace_written :
    ∃ archive,
      (writeArchive (.ofString "b") (.ofString "W.zip/../W") .zip linkInPlace).result = .ok archive := by
  have hpath : Format.zip.archivePath (.ofString "W.zip/../W") = .ofString "W.zip/../W.zip" := by
    decide +kernel
  have hpackable : Packable linkInPlace (.ofString "b") (Format.zip.archivePath (.ofString "W.zip/../W")) .zip
      _ _ := hpath ▸ linkInPlace_packable
  obtain ⟨archive, hresult, _⟩ := hpackable.succeeds.succeeds
  exact ⟨archive, hresult⟩

theorem linkInPlace_lstat :
    linkInPlace.lstat (Format.zip.archivePath (.ofString "W.zip/../W")) =
      .ok ([zipName], .link (.ofString "b")) := by
  decide +kernel

/-- The archive takes the place of the link that its path goes through, and the path leads nowhere any
more. -/
theorem link_displaced :
    ∃ archive e,
      (writeArchive (.ofString "b") (.ofString "W.zip/../W") .zip linkInPlace).result = .ok archive ∧
      (writeArchive (.ofString "b") (.ofString "W.zip/../W") .zip linkInPlace).disk = e ∧
      (∃ n, e.node? [zipName] = some (.file n)) ∧ e.lstat archive = .error (.os .notDirectory) := by
  obtain ⟨archive, hresult⟩ := linkInPlace_written
  obtain ⟨rfl, ground, at_, n, content, hinplace, hstood, _⟩ :=
    (writeArchive_all_or_nothing .reliable (.ofString "b") (.ofString "W.zip/../W") .zip linkInPlace).of_ok
      hresult
  obtain ⟨rfl, _⟩ := hstood _ _ linkInPlace_lstat
  -- where the link was, nothing leads on to the archive
  have hnot : ¬ ground.Names (Format.zip.archivePath (.ofString "W.zip/../W")) [zipName] := by
    rintro ⟨dir, name, _, hlocate⟩
    have hroute := (Disk.locate_eq_ok_iff.1 hlocate).2.resolve
    have hsteps : (Format.zip.archivePath (.ofString "W.zip/../W")).steps =
        zipName.bytes :: [[Path.dot, Path.dot], zipName.bytes] := by decide +kernel
    have hstart : Disk.start (ground.unlink [zipName]).cwd
        (Format.zip.archivePath (.ofString "W.zip/../W")) = [] := by
      rw [Disk.cwd_unlink, hinplace.grown.cwd]
      rfl
    have hgone : (ground.unlink [zipName]).node? [zipName] = none := by
      rw [Disk.node?_unlink hinplace.entry, if_pos rfl]
    rw [hsteps, hstart, Disk.resolve_name, hgone] at hroute
    cases hroute
  exact ⟨_, _, hresult, rfl, ⟨n, hinplace.replaced.node?_self⟩, (hinplace.displaced hnot).2.2⟩

/-- An archive that was written holds the bundle as it was before: the file that the path of the archive
names is unpacked to the tree below the bundle on the disk `d`, wherever the archive is, whatever stood in
its place and whatever can fail on the medium. -/
theorem writeArchive_unpacks (medium : Medium) (source destination : Path) (f : Format) (d : Disk) :
    (writeArchiveOn medium source destination f).Ends d
      (fun archive e => archive = f.archivePath destination ∧ ∃ ground at_ n content root stored,
        InPlace d archive ground at_ n (stagingFile content) e ∧ source.fileName? = some root ∧
        Archive.unpack? f (e.data n).content = some stored ∧ Mirrors d source root stored)
      (fun _ _ => True) := by
  refine (writeArchiveOn_ends medium source destination f d).mono ?_ fun _ _ _ => trivial
  rintro archive e ⟨rfl, entries, items, ground, at_, hpacked⟩
  obtain ⟨root, stored, hroot, hunpack, hmirrors⟩ := hpacked.unpacks
  refine ⟨rfl, ground, at_, _, _, root, stored, hpacked.inPlace, hroot, ?_, hmirrors⟩
  rw [hpacked.replaced.content]
  exact hunpack

/-- What takes the place of the link is unpacked to the bundle. -/
theorem link_replaced_by_bundle :
    ∃ n root stored,
      (writeArchive (.ofString "b") (.ofString "W.zip/../W") .zip linkInPlace).disk.node? [zipName] =
        some (.file n) ∧
      Archive.unpack? .zip ((writeArchive (.ofString "b") (.ofString "W.zip/../W") .zip linkInPlace).disk.data
        n).content = some stored ∧
      Mirrors linkInPlace (.ofString "b") root stored := by
  obtain ⟨archive, hresult⟩ := linkInPlace_written
  obtain ⟨rfl, ground, at_, n, content, root, stored, hinplace, _, hunpack, hmirrors⟩ :=
    (writeArchive_unpacks .reliable (.ofString "b") (.ofString "W.zip/../W") .zip linkInPlace).of_ok hresult
  obtain ⟨rfl, _⟩ := hinplace.stood linkInPlace_lstat
  exact ⟨n, root, stored, hinplace.replaced.node?_self, hunpack, hmirrors⟩

end Bundle

end ReleaseBundle
