import ReleaseBundle.Bundle.Walk
import ReleaseBundle.Job

/-!
# Media

Whatever is asked of the system while an archive is written can fail: a disk is full, a device breaks, a
directory may not be changed. A medium says which requests fail, on which disk and with which fault. A
change of names is made as a whole or not at all, but a write that fails can leave anything in its file.
-/

namespace ReleaseBundle.Bundle

/-- What is asked of the system while an archive is written. -/
inductive Request where
  | makeDirectory (p : Path)
  | createStaging (dir : Path)
  /-- The head of a zip member, which is written before its file is opened. -/
  | head (e : Entry)
  | contents (e : Entry)
  /-- What follows the last entry. -/
  | complete
  /-- The end of the compressed stream. -/
  | compress
  /-- That the file reaches the device. -/
  | flush
  | persist

/-- How the system answers. -/
structure Medium where
  /-- The fault with which a change of names is refused. -/
  refuses : Request → Disk → Option Fault
  /-- The fault with which a write fails, and what its file holds then. -/
  spoils : Request → Disk → Option (Bytes × Fault)

namespace Medium

/-- A medium on which no request fails. -/
def reliable : Medium := ⟨fun _ _ => none, fun _ _ => none⟩

/-- Changes names in one step, or leaves the disk alone and fails. -/
def grant {α : Type} (m : Medium) (r : Request) (f : Disk → Except Fault (Disk × α)) : Job Fault α :=
  Job.attempt fun d =>
    match m.refuses r d with
    | some fault => .error fault
    | none => f d

end Medium

end ReleaseBundle.Bundle
