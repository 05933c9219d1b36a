import ReleaseBundle.Proofs.Disk.Table
import ReleaseBundle.Proofs.Outcome

/-!
# What is there meanwhile

A job can be cut off at any moment. Its account tells the disk after each change, and between two of these
there is nothing else to see, because the system makes each change in one step. Writing to a file is the
exception: it takes time, and until it is done the file can hold anything.

`Job.Throughout j d P` says that `P` holds at every moment of the job `j` when it is started on the disk
`d`. Together with `Job.Ends`, which says what the next job finds, it is put together along the steps of a
job like any other specification.
-/

namespace ReleaseBundle

namespace Disk

variable {d e m : Disk} {l dir : Location} {name : Name} {n : Nat} {t t' : List Disk}

/-- What can be there while the disk `d` becomes the disk `e`: the one or the other and, if a file is
written, anything in that file. -/
inductive Moment (d e : Disk) : Disk → Prop where
  | before : Moment d e d
  | after : Moment d e e
  | writing {n : Nat} {bytes : Bytes} (content : Bytes) : bytes ≠ [] → e = d.appendTo n bytes →
    Moment d e (d.setFile n { d.data n with content := content })

/-- What writing something to a file makes of the disk cannot be taken for anything else. -/
theorem data_appendTo_ne {bytes : Bytes} (h : bytes ≠ []) : (d.appendTo n bytes).data n ≠ d.data n := by
  intro hsame
  have hcontent := congrArg FileData.content hsame
  rw [appendTo, data_setFile, if_pos rfl] at hcontent
  exact h (List.append_right_eq_self.1 hcontent)

namespace Moment

/-- What changes the names is done in one step. -/
theorem of_node?_ne (h : Moment d e m) (hnames : e.node? l ≠ d.node? l) : m = d ∨ m = e := by
  cases h with
  | before => exact Or.inl rfl
  | after => exact Or.inr rfl
  | writing content _ hwritten =>
    subst hwritten
    exact absurd rfl hnames

/-- A file in the making holds anything while it is written. -/
theorem of_staged {f : FileData} {left : Bytes}
    (h : Moment (d.staged dir name f) (d.staged dir name { f with content := left }) m) :
    ∃ content, m = d.staged dir name { f with content := content } := by
  cases h with
  | before => exact ⟨f.content, rfl⟩
  | after => exact ⟨left, rfl⟩
  | @writing n bytes content hbytes hwritten =>
    -- the file that is written is the only one whose contents change
    obtain rfl : n = d.freshNumber := by
      refine Classical.byContradiction fun hother => ?_
      have hdata := congrArg (fun x => x.data n) hwritten
      simp only [data_staged, if_neg hother] at hdata
      refine data_appendTo_ne (d := d.staged dir name f) hbytes (n := n) ?_
      rw [← hdata, data_staged, if_neg hother]
    refine ⟨content, ?_⟩
    rw [data_staged, if_pos rfl, staged, setFile_setFile]
    rfl

end Moment

/-- The disks that can be met on the way from `d` through the disks of a trace. -/
def Met : Disk → List Disk → Disk → Prop
  | d, [], m => m = d
  | d, e :: t, m => Moment d e m ∨ Met e t m

theorem met_start (d : Disk) (t : List Disk) : Met d t d := by
  cases t with
  | nil => exact rfl
  | cons e t => exact Or.inl .before

theorem met_last (d : Disk) (t : List Disk) : Met d t (t.getLastD d) := by
  induction t generalizing d with
  | nil => exact rfl
  | cons e t ih =>
    rw [List.getLastD_cons]
    exact Or.inr (ih e)

theorem met_append : Met d (t ++ t') m ↔ Met d t m ∨ Met (t.getLastD d) t' m := by
  induction t generalizing d with
  | nil =>
    refine ⟨Or.inr, ?_⟩
    rintro (rfl | h)
    · exact met_start _ _
    · exact h
  | cons e t ih =>
    rw [List.cons_append, Met, ih, List.getLastD_cons, Met, or_assoc]

end Disk

namespace Job

open Disk (Moment Met)

variable {ε ε' α β : Type} {d : Disk} {j : Job ε α} {P P' : Disk → Prop}

/-- What holds at every moment of a job. -/
structure Throughout (j : Job ε α) (d : Disk) (P : Disk → Prop) : Prop where
  /-- The trace leads to the disk that the job leaves. -/
  arrives : (j d).trace.getLastD d = (j d).disk
  met : ∀ m, Met d (j d).trace m → P m

namespace Throughout

theorem mono (h : j.Throughout d P) (hp : ∀ m, P m → P' m) : j.Throughout d P' :=
  ⟨h.arrives, fun m hm => hp m (h.met m hm)⟩

theorem disk (h : j.Throughout d P) : P (j d).disk :=
  h.arrives ▸ h.met _ (Disk.met_last _ _)

/-- What holds throughout holds in the end. -/
theorem ends (h : j.Throughout d P) : j.Ends d (fun _ e => P e) (fun _ e => P e) :=
  (ends_self j d).mono (fun _ _ he => he.2 ▸ h.disk) (fun _ _ he => he.2 ▸ h.disk)

end Throughout

/-! ## Rules -/

theorem throughout_still (htrace : (j d).trace = []) (hdisk : (j d).disk = d) (h : P d) :
    j.Throughout d P where
  arrives := by rw [htrace, hdisk]; rfl
  met m hm := by
    rw [htrace] at hm
    exact hm ▸ h

theorem throughout_pure {a : α} (h : P d) : (Job.pure a : Job ε α).Throughout d P :=
  throughout_still rfl rfl h

theorem throughout_fail {x : ε} (h : P d) : (Job.fail x : Job ε α).Throughout d P :=
  throughout_still rfl rfl h

theorem throughout_log {r : LogRecord} (h : P d) : (Job.log r : Job ε Unit).Throughout d P :=
  throughout_still rfl rfl h

theorem throughout_look {f : Disk → α} (h : P d) : (Job.look f : Job ε α).Throughout d P :=
  throughout_still rfl rfl h

theorem throughout_inspect {f : Disk → Except ε α} (h : P d) : (Job.inspect f).Throughout d P :=
  throughout_still rfl rfl h

theorem throughout_change {f : Disk → Disk} (h : ∀ m, Moment d (f d) m → P m) :
    (Job.change f : Job ε Unit).Throughout d P where
  arrives := rfl
  met m hm := by
    rcases hm with hm | rfl
    · exact h m hm
    · exact h _ .after

theorem throughout_attempt {f : Disk → Except ε (Disk × α)} (hstart : P d)
    (h : (Job.attempt f).Ends d (fun _ e => ∀ m, Moment d e m → P m) (fun _ _ => True)) :
    (Job.attempt f).Throughout d P := by
  cases hresult : f d with
  | error x =>
    refine throughout_still ?_ ?_ hstart
    · rw [attempt, hresult]
    · rw [attempt, hresult]
  | ok r =>
    have htrace : (Job.attempt f d).trace = [r.1] := by rw [attempt, hresult]
    have hdisk : (Job.attempt f d).disk = r.1 := by rw [attempt, hresult]
    have hmoment := (ends_attempt.1 h).1 r.1 r.2 hresult
    refine ⟨by rw [htrace, hdisk]; rfl, fun m hm => ?_⟩
    rw [htrace] at hm
    rcases hm with hm | rfl
    · exact hmoment m hm
    · exact hmoment _ .after

theorem bindJob_of_error {j : Job ε β} {k : β → Job ε α} {x : ε} (h : (j d).result = .error x) :
    Job.bind j k d = ⟨(j d).disk, (j d).trace, (j d).events, .error x⟩ := by
  simp only [Job.bind, h]

theorem bindJob_of_ok {j : Job ε β} {k : β → Job ε α} {b : β} (h : (j d).result = .ok b) :
    Job.bind j k d = ⟨(k b (j d).disk).disk, (j d).trace ++ (k b (j d).disk).trace,
      (j d).events ++ (k b (j d).disk).events, (k b (j d).disk).result⟩ := by
  simp only [Job.bind, h]

/-- The second job goes on from where the first one ends. -/
theorem throughout_bindJob {j : Job ε β} {k : β → Job ε α} (h : j.Throughout d P)
    (hnext : j.Ends d (fun b e => (k b).Throughout e P) (fun _ _ => True)) :
    (Job.bind j k).Throughout d P := by
  cases hresult : (j d).result with
  | error x =>
    have hbind := bindJob_of_error (k := k) hresult
    exact ⟨by rw [hbind, h.arrives], fun m hm => h.met m (by rwa [hbind] at hm)⟩
  | ok b =>
    have hbind := bindJob_of_ok (k := k) hresult
    have hsecond := hnext.of_ok hresult
    refine ⟨?_, fun m hm => ?_⟩
    · rw [hbind, ← hsecond.arrives, ← h.arrives]
      simp [List.getLastD_eq_getLast?, List.getLast?_append]
    · rw [hbind, Disk.met_append, h.arrives] at hm
      exact hm.elim (h.met m) (hsecond.met m)

/-- The moments of the first job are moments of both. -/
theorem Throughout.first {j : Job ε β} {k : β → Job ε α} (h : (Job.bind j k).Throughout d P)
    (hfirst : j.Throughout d P') : j.Throughout d P := by
  refine ⟨hfirst.arrives, fun m hm => h.met m ?_⟩
  cases hresult : (j d).result with
  | error x => rwa [bindJob_of_error hresult]
  | ok b =>
    rw [bindJob_of_ok hresult]
    exact Disk.met_append.2 (Or.inl hm)

/-- A job that changed nothing leaves all moments to the next one. -/
theorem Throughout.second {j : Job ε β} {k : β → Job ε α} {b : β} {events : List Event}
    (h : (Job.bind j k).Throughout d P) (hstill : j d = ⟨d, [], events, .ok b⟩) :
    (k b).Throughout d P := by
  have hresult : (j d).result = .ok b := by rw [hstill]
  obtain ⟨harrives, hmet⟩ := h
  rw [bindJob_of_ok hresult, hstill] at harrives hmet
  exact ⟨harrives, hmet⟩

theorem throughout_bind {j : Job ε β} {k : β → Job ε α} (h : j.Throughout d P)
    (hnext : j.Ends d (fun b e => (k b).Throughout e P) (fun _ _ => True)) :
    (j >>= k).Throughout d P := throughout_bindJob h hnext

/-- What the first job keeps and the second one keeps, too. -/
theorem throughout_seq {j : Job ε β} {k : β → Job ε α} (h : j.Throughout d P)
    (hnext : ∀ b e, P e → (k b).Throughout e P) : (j >>= k).Throughout d P :=
  throughout_bind h (h.ends.mono hnext fun _ _ _ => trivial)

theorem throughout_mapError {f : ε' → ε} {j : Job ε' α} (h : j.Throughout d P) :
    (j.mapError f).Throughout d P := ⟨h.arrives, h.met⟩

theorem throughout_outcome {j : Job ε' α} (h : j.Throughout d P) :
    (j.outcome : Job ε (Except ε' α)).Throughout d P := ⟨h.arrives, h.met⟩

/-- After a job that failed there is one more step. -/
theorem throughout_orUndo {undo : Disk → Disk} (h : j.Throughout d P)
    (hundo : j.Ends d (fun _ _ => True) (fun _ e => ∀ m, Moment e (undo e) m → P m)) :
    (j.orUndo undo).Throughout d P := by
  cases hresult : (j d).result with
  | ok a =>
    have hsame : j.orUndo undo d = j d := by simp only [orUndo, hresult]
    exact ⟨by rw [hsame, h.arrives], fun m hm => h.met m (hsame ▸ hm)⟩
  | error x =>
    have htrace : (j.orUndo undo d).trace = (j d).trace ++ [undo (j d).disk] := by
      simp only [orUndo, hresult]
    have hdisk : (j.orUndo undo d).disk = undo (j d).disk := by simp only [orUndo, hresult]
    have hlast := hundo.of_error hresult
    refine ⟨?_, fun m hm => ?_⟩
    · rw [htrace, hdisk, List.getLastD_concat]
    · rw [htrace, Disk.met_append, h.arrives] at hm
      rcases hm with hm | hm | rfl
      · exact h.met m hm
      · exact hlast m hm
      · exact hlast _ .after

end Job

end ReleaseBundle
