import ReleaseBundle.Pipeline

/-!
# What jobs report

`Job.Reports j P` says that `P` holds of everything a job reports, on whatever disk it is started and
whether it succeeds or not. The rules follow the ways in which jobs are put together, like those for the
disk that a job leaves. What comes out is that the program itself is silent while it works: all that the
parts of a run report are log records, none of them about a change of stage, and whatever else is reported
comes from the program that the toolchain is.
-/

namespace ReleaseBundle

namespace Event

/-- The change of stage that an event reports. -/
def transition? : Event → Option (Stage × Stage)
  | .logged (.stageEntered left entered) => some (left, entered)
  | _ => none

/-- A log record that is not about stages. -/
structure IsNote (e : Event) : Prop where
  logged : ∃ record, e = .logged record
  still : e.transition? = none

end Event

namespace Job

variable {ε ε' α β : Type} {P : Event → Prop}

/-- `P` holds of everything that a job reports. -/
structure Reports (j : Job ε α) (P : Event → Prop) : Prop where
  holds : ∀ d, ∀ e ∈ (j d).events, P e

namespace Reports

theorem pure (a : α) : (Job.pure a : Job ε α).Reports P := by
  constructor
  intro d e he
  cases he

theorem fail (x : ε) : (Job.fail x : Job ε α).Reports P := by
  constructor
  intro d e he
  cases he

theorem inspect (f : Disk → Except ε α) : (Job.inspect f).Reports P := by
  constructor
  intro d e he
  cases he

theorem look (f : Disk → α) : (Job.look f : Job ε α).Reports P := by
  constructor
  intro d e he
  cases he

theorem change (f : Disk → Disk) : (Job.change f : Job ε Unit).Reports P := by
  constructor
  intro d e he
  cases he

theorem attempt (f : Disk → Except ε (Disk × α)) : (Job.attempt f).Reports P := by
  constructor
  intro d e he
  unfold Job.attempt at he
  split at he <;> cases he

theorem log {r : LogRecord} (h : P (.logged r)) : (Job.log r : Job ε Unit).Reports P := by
  constructor
  intro d e he
  obtain rfl := List.mem_singleton.1 he
  exact h

/-- Both jobs report, unless the first one ends the whole. -/
theorem bindJob {j : Job ε β} {k : β → Job ε α} (first : j.Reports P)
    (second : ∀ b, (k b).Reports P) : (Job.bind j k).Reports P := by
  constructor
  intro d e he
  cases hresult : (j d).result with
  | error x =>
    simp only [Job.bind, hresult] at he
    exact first.holds d e he
  | ok b =>
    simp only [Job.bind, hresult, List.mem_append] at he
    rcases he with hfirst | hsecond
    · exact first.holds d e hfirst
    · exact (second b).holds _ e hsecond

theorem bind {j : Job ε β} {k : β → Job ε α} (first : j.Reports P) (second : ∀ b, (k b).Reports P) :
    (j >>= k).Reports P :=
  bindJob first second

theorem mapError {j : Job ε α} (h : j.Reports P) (f : ε → ε') : (j.mapError f).Reports P :=
  ⟨h.holds⟩

theorem outcome {j : Job ε α} (h : j.Reports P) : (j.outcome : Job ε' (Except ε α)).Reports P :=
  ⟨h.holds⟩

theorem orUndo {j : Job ε α} (h : j.Reports P) (undo : Disk → Disk) : (j.orUndo undo).Reports P := by
  constructor
  intro d e he
  cases hresult : (j d).result with
  | error x =>
    simp only [Job.orUndo, hresult] at he
    exact h.holds d e he
  | ok a =>
    simp only [Job.orUndo, hresult] at he
    exact h.holds d e he

end Reports

end Job

open Job (Reports)
open Event (IsNote)

variable {P : Event → Prop}

/-! ## Assembling and reading the version -/

namespace Bundle

theorem copyContents_reports (source destination : Path) :
    (copyContents source destination).Reports P := by
  apply Reports.bind (Reports.inspect _)
  intro opened
  cases opened with
  | directory => exact Reports.fail _
  | file number data =>
    apply Reports.bind (Reports.attempt _)
    intro target
    apply Reports.bind (Reports.change _)
    intro _
    apply Reports.bind (Reports.inspect _)
    intro content
    exact Reports.change _

theorem copyInto_reports (output source : Path) : (copyInto output source).Reports IsNote := by
  unfold copyInto
  split
  · exact Reports.fail _
  · apply Reports.bind
    · exact Reports.bind (Reports.inspect _) fun _ => (copyContents_reports _ _).mapError _
    · intro _
      exact Reports.log ⟨⟨_, rfl⟩, rfl⟩

theorem assemble_reports (output license readme : Path) :
    (assemble output license readme).Reports IsNote := by
  apply Reports.bind (Reports.inspect _)
  intro _
  exact Reports.bind (copyInto_reports _ _) fun _ => copyInto_reports _ _

end Bundle

theorem Manifest.readVersion_reports (path : Path) :
    (Manifest.readVersion path).Reports IsNote := by
  apply Reports.bind (Reports.inspect _)
  intro version
  exact Reports.bind (Reports.log ⟨⟨_, rfl⟩, rfl⟩) fun _ => Reports.pure _

/-! ## Archiving -/

namespace Bundle

theorem unlessDirectory_reports (p : Path) (fault : Fault) : (unlessDirectory p fault).Reports P :=
  Reports.inspect _

theorem makeDirectory_reports (medium : Medium) (p : Path) : (makeDirectory medium p).Reports P :=
  Reports.attempt _

theorem makeDirectories_reports (medium : Medium) (p : Path) : (makeDirectories medium p).Reports P := by
  -- The induction is on the length of the path, which is what the recursion above missing parents is on.
  induction hlength : p.bytes.length using Nat.strongRecOn generalizing p with
  | ind length ih =>
    rw [makeDirectories]
    split
    · exact Reports.pure _
    · apply Reports.bindJob (makeDirectory_reports medium p).outcome
      intro outcome
      split
      · exact Reports.pure _
      · split
        · exact Reports.fail _
        · next parent hparent =>
          apply Reports.bindJob (ih _ (hlength ▸ Path.length_parent hparent) parent rfl)
          intro _
          apply Reports.bindJob (makeDirectory_reports medium p).outcome
          intro again
          split
          · exact Reports.pure _
          · exact unlessDirectory_reports p _
      · exact unlessDirectory_reports p _

theorem makeParent_reports (medium : Medium) (archive : Path) : (makeParent medium archive).Reports P := by
  unfold makeParent
  split
  · exact makeDirectories_reports medium _
  · exact Reports.pure _

theorem write_reports (medium : Medium) (s : Staging) (r : Request) (bytes : Bytes) :
    (s.write medium r bytes).Reports P := by
  apply Reports.bind (Reports.look _)
  intro spoilt
  split
  · exact Reports.change _
  · exact Reports.bind (Reports.change _) fun _ => Reports.fail _

theorem writeHead_reports (medium : Medium) (f : Format) (s : Staging) (e : Entry) :
    (writeHead medium f s e).Reports P := by
  unfold writeHead
  split
  · exact (write_reports medium s _ _).mapError _
  · exact Reports.pure _

theorem writeEnd_reports (medium : Medium) (f : Format) (s : Staging) (w : Archive.Writer) :
    (writeEnd medium f s w).Reports P := by
  cases f with
  | zip => exact (write_reports medium s _ _).mapError _
  | tarGz =>
    exact Reports.bind ((write_reports medium s _ _).mapError _) fun _ =>
      (write_reports medium s _ _).mapError _

theorem writeEntries_reports (medium : Medium) (f : Format) (s : Staging) (w : Archive.Writer)
    (entries : List Entry) : (writeEntries medium f s w entries).Reports P := by
  induction entries generalizing w with
  | nil => exact writeEnd_reports medium f s w
  | cons e es ih =>
    apply Reports.bind (writeHead_reports medium f s e)
    intro _
    apply Reports.bind (Reports.inspect _)
    intro i
    exact Reports.bind ((write_reports medium s _ _).mapError _) fun _ => ih _

theorem flush_reports (medium : Medium) (s : Staging) (dir : Path) : (flush medium s dir).Reports P :=
  Reports.bind (Reports.look _) fun _ => (write_reports medium s _ _).mapError _

theorem persist_reports (medium : Medium) (s : Staging) (archive : Path) :
    (persist medium s archive).Reports P :=
  Reports.mapError (Reports.attempt _) _

theorem writeArchive_reports (medium : Medium) (source destination : Path) (f : Format) :
    (writeArchiveOn medium source destination f).Reports IsNote := by
  apply Reports.bind (Reports.inspect _)
  intro entries
  apply Reports.bind ((makeParent_reports medium _).mapError _)
  intro _
  apply Reports.bind (Reports.mapError (Reports.attempt _) _)
  intro staging
  apply Reports.bind
  · apply Reports.orUndo
    apply Reports.bind (writeEntries_reports medium _ _ _ _)
    intro _
    exact Reports.bind (flush_reports medium _ _) fun _ => persist_reports medium _ _
  · intro _
    exact Reports.bind (Reports.log ⟨⟨_, rfl⟩, rfl⟩) fun _ => Reports.pure _

end Bundle

theorem Pipeline.archive_reports (s : Settings) (version : String) :
    (Pipeline.archive s version).Reports IsNote := by
  apply Reports.bind (Bundle.writeArchive_reports .reliable _ _ _)
  intro path
  exact Reports.inspect _

/-! ## The toolchain -/

/-- What a program on a machine can report. -/
def Host.Utters (host : Host) (e : Event) : Prop := ∃ launch d, e ∈ (host.run launch d).events

/-- Apart from log records, all that building reports is what the toolchain reports. -/
theorem Toolchain.build_reports (host : Host) (c : Command) (directory : Path) :
    (Toolchain.build host c directory).Reports fun e => e.IsNote ∨ host.Utters e := by
  apply Reports.bind ((Reports.inspect _).mapError _)
  intro executable
  apply Reports.bind (Reports.log (Or.inl ⟨⟨_, rfl⟩, rfl⟩))
  intro _
  apply Reports.bind (Reports.log (Or.inl ⟨⟨_, rfl⟩, rfl⟩))
  intro _
  apply Reports.bind
  · apply Reports.mapError
    constructor
    intro d e he
    exact Or.inr ⟨_, d, he⟩
  · intro status
    apply Reports.bind
    · apply Reports.log
      split
      · exact Or.inl ⟨⟨_, rfl⟩, rfl⟩
      · exact Or.inl ⟨⟨_, rfl⟩, rfl⟩
    · intro _
      exact Reports.pure _

end ReleaseBundle
