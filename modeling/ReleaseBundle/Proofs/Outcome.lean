import ReleaseBundle.Job

/-!
# How jobs end

`Job.Ends j d done failed` says where a job leads when it is started on the disk `d`: if it succeeds,
`done` holds of its value and of the disk that it leaves, and if it fails, `failed` holds of the error
and of the disk that it leaves. The two cases are kept apart because a failed job has a disk, too, and
most of what matters about it is that this disk is hardly changed.

The rules below follow the ways in which jobs are put together, so a specification of a long job is
assembled from those of its steps and no proof has to unfold an account.
-/

namespace ReleaseBundle.Job

variable {ε ε' α β : Type} {d : Disk}

/-- What holds after a job, of its value if it succeeds and of its error if it does not. -/
def Ends (j : Job ε α) (d : Disk) (done : α → Disk → Prop) (failed : ε → Disk → Prop) : Prop :=
  match (j d).result with
  | .ok a => done a (j d).disk
  | .error e => failed e (j d).disk

namespace Ends

variable {j : Job ε α} {done done' : α → Disk → Prop} {failed failed' : ε → Disk → Prop}

theorem of_ok (h : j.Ends d done failed) {a : α} (hr : (j d).result = .ok a) :
    done a (j d).disk := by
  simpa only [Ends, hr] using h

theorem of_error (h : j.Ends d done failed) {e : ε} (hr : (j d).result = .error e) :
    failed e (j d).disk := by
  simpa only [Ends, hr] using h

/-- Both postconditions may be weakened. -/
theorem mono (h : j.Ends d done failed) (ok : ∀ a e, done a e → done' a e)
    (error : ∀ x e, failed x e → failed' x e) : j.Ends d done' failed' := by
  unfold Ends at h ⊢
  split
  · next hr => rw [hr] at h; exact ok _ _ h
  · next hr => rw [hr] at h; exact error _ _ h

/-- What a job was found to do can be used in its postconditions. -/
theorem and (h : j.Ends d done failed) (h' : j.Ends d done' failed') :
    j.Ends d (fun a e => done a e ∧ done' a e) (fun x e => failed x e ∧ failed' x e) := by
  unfold Ends at h h' ⊢
  split
  · next hr => rw [hr] at h h'; exact ⟨h, h'⟩
  · next hr => rw [hr] at h h'; exact ⟨h, h'⟩

/-- A job that cannot fail succeeds. -/
theorem succeeds (h : j.Ends d done fun _ _ => False) :
    ∃ a, (j d).result = .ok a ∧ done a (j d).disk := by
  unfold Ends at h
  split at h
  · next a hr => exact ⟨a, hr, h⟩
  · exact h.elim

end Ends

/-- What a job does is what it is found to do. -/
theorem ends_self (j : Job ε α) (d : Disk) :
    j.Ends d (fun a e => (j d).result = .ok a ∧ e = (j d).disk)
      (fun x e => (j d).result = .error x ∧ e = (j d).disk) := by
  unfold Ends
  split
  · next hr => exact ⟨hr, rfl⟩
  · next hr => exact ⟨hr, rfl⟩

/-! ## Rules -/

variable {done : α → Disk → Prop} {failed : ε → Disk → Prop}

@[simp] theorem ends_pure {a : α} : (pure a : Job ε α).Ends d done failed ↔ done a d := Iff.rfl

@[simp] theorem ends_pureJob {a : α} : (Job.pure a : Job ε α).Ends d done failed ↔ done a d :=
  Iff.rfl

/-- The second job starts on the disk that the first one leaves. -/
theorem ends_bindJob {j : Job ε β} {k : β → Job ε α} :
    (Job.bind j k).Ends d done failed ↔ j.Ends d (fun b e => (k b).Ends e done failed) failed := by
  unfold Ends Job.bind
  cases h : (j d).result with
  | error x => simp [h]
  | ok b => simp [h]

@[simp] theorem ends_bind {j : Job ε β} {k : β → Job ε α} :
    (j >>= k).Ends d done failed ↔ j.Ends d (fun b e => (k b).Ends e done failed) failed :=
  ends_bindJob

@[simp] theorem ends_fail {x : ε} : (Job.fail x : Job ε α).Ends d done failed ↔ failed x d := Iff.rfl

@[simp] theorem ends_log {r : LogRecord} {done : Unit → Disk → Prop} :
    (Job.log r : Job ε Unit).Ends d done failed ↔ done () d := Iff.rfl

@[simp] theorem ends_look {f : Disk → α} : (Job.look f : Job ε α).Ends d done failed ↔ done (f d) d :=
  Iff.rfl

theorem ends_inspect {f : Disk → Except ε α} :
    (Job.inspect f).Ends d done failed ↔
      (∀ a, f d = .ok a → done a d) ∧ ∀ x, f d = .error x → failed x d := by
  unfold Ends Job.inspect
  cases h : f d with
  | error x => simp
  | ok a => simp

@[simp] theorem ends_change {f : Disk → Disk} {done : Unit → Disk → Prop} :
    (Job.change f : Job ε Unit).Ends d done failed ↔ done () (f d) := Iff.rfl

theorem ends_attempt {f : Disk → Except ε (Disk × α)} :
    (Job.attempt f).Ends d done failed ↔
      (∀ e a, f d = .ok (e, a) → done a e) ∧ ∀ x, f d = .error x → failed x d := by
  unfold Ends Job.attempt
  cases h : f d with
  | error x => simp
  | ok p =>
    obtain ⟨e, a⟩ := p
    simp

@[simp] theorem ends_mapError {f : ε' → ε} {j : Job ε' α} :
    (j.mapError f).Ends d done failed ↔ j.Ends d done (fun x e => failed (f x) e) := by
  unfold Ends Job.mapError
  cases h : (j d).result with
  | error x => simp [h]
  | ok a => simp [h]

@[simp] theorem ends_orUndo {j : Job ε α} {undo : Disk → Disk} :
    (j.orUndo undo).Ends d done failed ↔ j.Ends d done (fun x e => failed x (undo e)) := by
  unfold Ends Job.orUndo
  cases h : (j d).result with
  | error x => simp [h]
  | ok a => simp [h]

@[simp] theorem ends_outcome {j : Job ε' α} {done : Except ε' α → Disk → Prop} :
    (j.outcome : Job ε (Except ε' α)).Ends d done failed ↔
      j.Ends d (fun a e => done (.ok a) e) (fun x e => done (.error x) e) := by
  unfold Ends Job.outcome
  cases h : (j d).result with
  | error x => simp [h]
  | ok a => simp [h]

end ReleaseBundle.Job
