import ReleaseBundle.CommandLine.Execute
import ReleaseBundle.Proofs.Bundle.Description
import ReleaseBundle.Proofs.Pipeline.Released
import ReleaseBundle.Proofs.Pipeline.Stages

/-!
# The exit status

An execution has three parts: what it says before the run, the run, and what it says about its end. From
the run come log records and whatever the toolchain writes, and nothing else, so the error output holds a
failure line exactly if the last part says one. Failures are said whatever the verbosity is. The exit code
and the failure line both follow from the result of the run, and the stage that the line names is the one
at which the orchestrator stopped. A release is announced on the standard output; on the error output the
program then writes nothing but its log, as far as the log is shown.
-/

namespace ReleaseBundle

/-! ## What is there after a release -/

/-- The path of a released archive leads to a file. -/
theorem Orchestrator.released_file {σ : Type} {o : Orchestrator σ} {d : Disk} {a : Artifact}
    (h : (o.run d).2.account.result = .ok (.released a)) :
    ∃ at_ number, (o.run d).2.account.disk.stat a.path = .ok (at_, .file number) ∧
      (o.run d).2.account.disk.lstat a.path = .ok (at_, .file number) := by
  obtain ⟨version, _, _, harchive, hdisk⟩ := (Orchestrator.bundling_of_release h).release h
  obtain ⟨_, items, ground, at_, _, hstat, hlstat, rfl⟩ :=
    (Pipeline.archive_ends o.settings version _).of_ok harchive
  rw [hdisk]
  exact ⟨at_, ground.freshNumber, hstat, hlstat⟩

namespace LogFilter

/-- No record is shown, whatever happens. -/
def ShowsNothing (f : LogFilter) : Prop := ∀ record, f.shows record = false

/-- No step is worth a warning, which is all that the filter of a run that is not verbose asks for. -/
theorem usual_shows_nothing : (parse "warn").1.ShowsNothing := by
  have hfilter : (parse "warn").1 = ⟨[⟨none, 2⟩], none⟩ := rfl
  intro record
  rw [hfilter]
  cases record <;> rfl

end LogFilter

namespace CommandLine

/-! ## The parts of an execution -/

/-- What runs the release of an execution. -/
def orchestrator (host : Host) (s : Settings) : Orchestrator Unit :=
  .new s (.toolchain host s.toolchain s.root) ()

theorem each_say {ε : Type} (messages : List Message) (d : Disk) :
    (Job.each Job.say messages : Job ε Unit) d = ⟨d, [], messages.map .said, .ok ()⟩ := by
  induction messages with
  | nil => rfl
  | cons m ms ih => simp [Job.each, Job.bind, Job.say, Job.report, ih]

variable {host : Host} {a : Arguments} {d : Disk} {s : Settings}

theorem execute_refused {e : Failure} (h : a.settings d = .error e) :
    execute host a d = ⟨d, [], [], .error e⟩ := by
  simp [execute, bind, Job.bind, Job.inspect, h]

theorem execute_accepted (h : a.settings d = .ok s) :
    execute host a d =
      ⟨((orchestrator host s).run d).2.account.disk, ((orchestrator host s).run d).2.account.trace,
        (opening s).map .said ++ (((orchestrator host s).run d).2.account.events ++
          (closing ((orchestrator host s).run d).2.account.result).map .said),
        .ok (exitCode ((orchestrator host s).run d).2.account.result)⟩ := by
  simp [execute, bind, Job.bind, Job.inspect, h, each_say, Job.outcome, runRelease, orchestrator, pure,
    Job.pure]

/-- All that comes from a run are log records and what the toolchain reports. -/
theorem run_events (host : Host) (s : Settings) (d : Disk) :
    ∀ e ∈ ((orchestrator host s).run d).2.account.events,
      (∃ record, e = .logged record) ∨ host.Utters e := by
  intro e he
  obtain ⟨work, changes, hevents, _, hwork, _⟩ := ((orchestrator host s).staged d).told
  rw [hevents, List.mem_cons, List.mem_append] at he
  rcases he with rfl | hbuilt | hlater
  · exact Or.inl ⟨_, rfl⟩
  · have hreports := Toolchain.build_reports host s.toolchain s.root
    exact (hreports.holds d e hbuilt).imp_left Event.IsNote.logged
  · exact Or.inl (hwork e hlater)

/-! ## The error output -/

/-- What is said on the standard output leaves the error output alone. -/
theorem all_said_out (r : Rendering) {messages : List Message}
    (h : ∀ m ∈ messages, m.channel = .out) : r.all .err (messages.map .said) = [] := by
  unfold Rendering.all
  rw [List.flatMap_map, List.flatMap_eq_nil_iff]
  intro m hm
  simp [Rendering.bytes, Message.shown, h m hm, Text.ofString]

theorem opening_out (s : Settings) : ∀ m ∈ opening s, m.channel = .out := by
  intro m hm
  simp only [opening, List.mem_cons, List.not_mem_nil, or_false] at hm
  rcases hm with rfl | rfl | rfl | rfl <;> rfl

theorem all_append (r : Rendering) (c : Channel) (first second : List Event) :
    r.all c (first ++ second) = r.all c first ++ r.all c second :=
  List.flatMap_append

/-- An execution that is not refused begins the error output with the record of its first stage, if its log
is shown. -/
theorem err_begins (host : Host) (r : Rendering) (h : a.settings d = .ok s) :
    ∃ rest, r.all .err (execute host a d).events =
      r.bytes .err (.logged (.stageEntered .start .building)) ++ rest := by
  obtain ⟨work, _, htold, _⟩ := ((orchestrator host s).staged d).told
  rw [execute_accepted h, all_append, all_said_out r (opening_out s), List.nil_append, htold,
    List.cons_append, Rendering.all, List.flatMap_cons]
  exact ⟨_, rfl⟩

/-- Where no log is shown, what a run writes to the error output is the toolchain's. -/
theorem run_errors (host : Host) (s : Settings) (d : Disk) {r : Rendering} (h : r.filter.ShowsNothing) :
    ∀ b ∈ r.all .err ((orchestrator host s).run d).2.account.events,
      ∃ e, host.Utters e ∧ b ∈ r.bytes .err e := by
  intro b hb
  obtain ⟨e, he, hbyte⟩ := List.mem_flatMap.1 hb
  rcases run_events host s d e he with ⟨record, rfl⟩ | hutters
  · simp [Rendering.bytes, h record] at hbyte
  · exact ⟨e, hutters, hbyte⟩

/-- In every rendering, whatever its verbosity is, a failure line follows on the error output on what is
there from the run: a cross, a blank, the text and the end of the line. -/
def Complains (run told : List Event) (line : String) : Prop :=
  ∀ r : Rendering, ∃ rest,
    r.all .err told =
      r.all .err run ++ (Message.cross r.coloured ++ 0x20 :: (Text.ofString line ++ 0x0A :: rest))

theorem complains_of_closing {line : String} {more : List Message} {run : List Event}
    {result : Except Failure Verdict} (s : Settings) (h : closing result = .failure line :: more) :
    Complains run ((opening s).map .said ++ (run ++ (closing result).map .said)) line := by
  intro r
  refine ⟨r.all .err (more.map .said), ?_⟩
  have hline : r.bytes .err (.said (.failure line)) =
      Message.cross r.coloured ++ 0x20 :: (Text.ofString line ++ [0x0A]) :=
    Message.ofString_render_failure r.coloured line
  have hlines : r.all .err ((Message.failure line :: more).map .said) =
      r.bytes .err (.said (.failure line)) ++ r.all .err (more.map .said) := rfl
  rw [all_append, all_append, all_said_out r (opening_out s), List.nil_append, h, hlines, hline]
  simp

/-- The exit code is zero for a release only. -/
theorem exitCode_eq_zero_iff (result : Except Failure Verdict) :
    exitCode result = 0 ↔ ∃ artifact, result = .ok (.released artifact) := by
  constructor
  · intro h
    cases result with
    | error x => cases h
    | ok verdict =>
      cases verdict with
      | released artifact => exact ⟨artifact, rfl⟩
      | buildFailed r => cases h
  · rintro ⟨artifact, rfl⟩
    rfl

theorem exitCode_cases (result : Except Failure Verdict) :
    exitCode result = 0 ∨ exitCode result = 1 := by
  cases result with
  | error x => exact Or.inr rfl
  | ok verdict =>
    cases verdict with
    | released artifact => exact Or.inl rfl
    | buildFailed r => exact Or.inr rfl

/-! ## The exit status -/

/-- An execution that announces a release: the archive is there, and the execution says nothing on the
error output. What the run adds to its log is shown there only if a filter asks for it, and what else is
there comes from the toolchain. -/
structure Announces (host : Host) (artifact : Artifact) (run : List Event) (told : Account Failure Nat) :
    Prop where
  reported : .said (.artifact artifact) ∈ told.events
  exists_file : ∃ at_ number, told.disk.stat artifact.path = .ok (at_, .file number) ∧
    told.disk.lstat artifact.path = .ok (at_, .file number)
  silent : ∀ e ∈ told.events,
    (∃ m, e = .said m ∧ m.channel = .out) ∨ (∃ record, e = .logged record) ∨ host.Utters e
  errors : ∀ r : Rendering, r.all .err told.events = r.all .err run
  /-- Where no log is shown, every byte on the error output is the toolchain's. -/
  toolchain : ∀ r : Rendering, r.filter.ShowsNothing →
    ∀ b ∈ r.all .err told.events, ∃ e, host.Utters e ∧ b ∈ r.bytes .err e
  /-- So it is in a run that is not verbose, if no other filter is chosen. -/
  usual : ∀ r : Rendering, r.filter = (LogFilter.parse "warn").1 →
    ∀ b ∈ r.all .err told.events, ∃ e, host.Utters e ∧ b ∈ r.bytes .err e

theorem announces {artifact : Artifact} (h : a.settings d = .ok s)
    (hreleased : ((orchestrator host s).run d).2.account.result = .ok (.released artifact)) :
    Announces host artifact ((orchestrator host s).run d).2.account.events (execute host a d) := by
  have hclosing : ∀ m ∈ closing (.ok (.released artifact)), m.channel = .out := by
    intro m hm
    rw [List.mem_singleton.1 hm]
    rfl
  have herrors : ∀ r : Rendering,
      r.all .err ((opening s).map .said ++ (((orchestrator host s).run d).2.account.events ++
          (closing (.ok (.released artifact))).map .said)) =
        r.all .err ((orchestrator host s).run d).2.account.events := by
    intro r
    rw [all_append, all_append, all_said_out r (opening_out s), all_said_out r hclosing,
      List.nil_append, List.append_nil]
  rw [execute_accepted h, hreleased]
  constructor
  · simp [closing]
  · exact Orchestrator.released_file hreleased
  · intro e he
    rw [List.mem_append, List.mem_append] at he
    rcases he with hopening | hrun | hend
    · obtain ⟨m, hm, rfl⟩ := List.mem_map.1 hopening
      exact Or.inl ⟨m, rfl, opening_out s m hm⟩
    · exact Or.inr (run_events host s d e hrun)
    · obtain ⟨m, hm, rfl⟩ := List.mem_map.1 hend
      exact Or.inl ⟨m, rfl, hclosing m hm⟩
  · exact herrors
  · intro r hfilter
    rw [herrors]
    exact run_errors host s d hfilter
  · intro r hfilter
    rw [herrors]
    exact run_errors host s d (hfilter ▸ LogFilter.usual_shows_nothing)

/-- The exit status tells how a run ended. Settings that are refused are the only failure, and then
nothing is done and nothing is said, whatever the toolchain is. Otherwise the exit code is zero exactly
for a release, and one for everything else, with a failure line on the error output that is shown even in
quiet runs. The line of a failure names the stage at which the orchestrator stopped. -/
theorem exit_status_truthful (host : Host) (a : Arguments) (d : Disk) :
    (∀ e, (execute host a d).result = .error e ↔ a.settings d = .error e) ∧
    (∀ e, a.settings d = .error e → execute host a d = ⟨d, [], [], .error e⟩) ∧
    ∀ s, a.settings d = .ok s →
      ((execute host a d).result = .ok 0 ∨ (execute host a d).result = .ok 1) ∧
      ((execute host a d).result = .ok 0 ↔
        ∃ artifact, ((orchestrator host s).run d).2.account.result = .ok (.released artifact)) ∧
      (execute host a d).disk = ((orchestrator host s).run d).2.account.disk ∧
      (∀ artifact, ((orchestrator host s).run d).2.account.result = .ok (.released artifact) →
        Announces host artifact ((orchestrator host s).run d).2.account.events (execute host a d)) ∧
      (∀ r, ((orchestrator host s).run d).2.account.result = .ok (.buildFailed r) →
        Complains ((orchestrator host s).run d).2.account.events (execute host a d).events
          ("An error occurred during build: " ++ r.diagnostic.getD "toolchain reported failure")) ∧
      ∀ x, ((orchestrator host s).run d).2.account.result = .error x →
        Complains ((orchestrator host s).run d).2.account.events (execute host a d).events
          ("Release failed during " ++ ((orchestrator host s).run d).1.stage.title ++ ": " ++
            x.message) ∧
        ∀ stage : Stage, stage.title = ((orchestrator host s).run d).1.stage.title →
          stage = ((orchestrator host s).run d).1.stage := by
  refine ⟨?_, fun e h => execute_refused h, ?_⟩
  · intro e
    cases hsettings : a.settings d with
    | error x =>
      rw [execute_refused hsettings]
      constructor <;> intro h <;> cases h <;> rfl
    | ok s =>
      rw [execute_accepted hsettings]
      constructor <;> intro h <;> cases h
  · intro s h
    have hexecute : execute host a d = _ := execute_accepted h
    refine ⟨?_, ?_, ?_, fun artifact hreleased => announces h hreleased, ?_, ?_⟩
    · rw [hexecute]
      exact (exitCode_cases _).imp (congrArg Except.ok) (congrArg Except.ok)
    · rw [hexecute, ← exitCode_eq_zero_iff, Except.ok.injEq]
    · rw [hexecute]
    · intro r hunbuilt
      rw [hexecute]
      apply complains_of_closing
      rw [hunbuilt]
      rfl
    · intro x hfailed
      refine ⟨?_, fun stage htitle => Stage.title_injective htitle⟩
      have hstaged := (orchestrator host s).staged d
      have hstops := (orchestrator host s).stops d
      rw [hfailed] at hstops
      rw [hexecute, (hstaged.failed x hfailed).1]
      apply complains_of_closing
      rw [hfailed]
      exact hstops.closing.2

/-! ## Executions that are not silent -/

/-- What the program writes to the error output when its arguments are read and not refused: warnings about
the filter, and what the execution reports. -/
theorem run_accepted {surroundings : Surroundings} {words : List Bytes} {code : Nat}
    {filter : LogFilter} {warnings : List String} (hparse : Arguments.parse words = .ok a)
    (hfilter : LogFilter.parse (surroundings.logFilter.getD (if a.verbose then "debug" else "warn")) =
      (filter, warnings))
    (hcode : (execute host a d).result = .ok code) :
    (run host surroundings words d).exitCode = code ∧
      (run host surroundings words d).err = warnings.flatMap Text.ofString ++
        Rendering.all ⟨a.verbosity, usesColour surroundings.terminal surroundings.noColour, filter⟩
          .err (execute host a d).events := by
  simp [run, hparse, hfilter, hcode, Rendering.all]

/-- A machine without programs. -/
def barren : Host := ⟨none, fun _ => .fail (.os .notFound)⟩

/-- What a quiet execution for the project `W` asks for. -/
def quietly : Arguments := ⟨some (.ofString "."), "W", .zip, false, true⟩

/-- How a quiet execution is rendered. -/
def quietRendering : Rendering := ⟨quietly.verbosity, false, (LogFilter.parse "warn").1⟩

theorem run_barren :
    ((orchestrator barren (Orchestrator.settingsAt ".")).run .empty).2.account.result =
        .error (.build ⟨"dotnet", .noSearchPath⟩) ∧
      ((orchestrator barren (Orchestrator.settingsAt ".")).run .empty).1.stage = .building ∧
      quietRendering.all .err
          ((orchestrator barren (Orchestrator.settingsAt ".")).run .empty).2.account.events = [] :=
  ⟨rfl, rfl, rfl⟩

theorem missing_toolchain_told :
    quietly.settings .empty = .ok (Orchestrator.settingsAt ".") ∧
      (execute barren quietly .empty).result = .ok 1 ∧
      ∃ rest, quietRendering.all .err (execute barren quietly .empty).events =
        Text.ofString ("✗ Release failed during build: Build error: Build toolchain " ++
          "'dotnet' is unavailable: no path to search and provided name is not an absolute path\n") ++
            rest := by
  have hsettings : quietly.settings .empty = .ok (Orchestrator.settingsAt ".") := by decide +kernel
  obtain ⟨hfailed, hstage, hunlogged⟩ := run_barren
  obtain ⟨hcode, hzero, _, _, _, hfailure⟩ :=
    (exit_status_truthful barren quietly .empty).2.2 _ hsettings
  refine ⟨hsettings, hcode.resolve_left fun h => ?_, ?_⟩
  · obtain ⟨artifact, hreleased⟩ := hzero.1 h
    rw [hfailed] at hreleased
    cases hreleased
  · obtain ⟨rest, hrest⟩ := (hfailure _ hfailed).1 quietRendering
    refine ⟨rest, ?_⟩
    have hline : Text.ofString ("✗ Release failed during build: Build error: Build toolchain " ++
        "'dotnet' is unavailable: no path to search and provided name is not an absolute path\n") =
          Message.cross false ++ 0x20 :: (Text.ofString ("Release failed during " ++
            Stage.building.title ++ ": " ++ (Failure.build ⟨"dotnet", .noSearchPath⟩).message) ++
              [0x0A]) := by
      decide +kernel
    rw [hrest, hunlogged, hstage, hline, List.append_assoc, List.cons_append, List.append_assoc]
    rfl

/-- A machine whose toolchain leaves a complete project and writes nothing. -/
def builder : Host where
  searchPath := some [.ofString "bin"]
  run _ := do
    Job.change fun _ => Orchestrator.complete
    return .exited 0

/-- A disk that holds the toolchain. -/
def equipped : Disk :=
  Disk.placeFile (Disk.locationOf (.ofString "bin/dotnet")) { content := [], mode := 0o755 } .empty

/-- What a verbose execution for the project `W` asks for. -/
def verbosely : Arguments := ⟨some (.ofString "."), "W", .zip, true, false⟩

/-- The words that ask for it. -/
def verboseWords : List Bytes := ["--root", ".", "--name", "W", "--verbose"].map Text.ofString

theorem verbosely_settings : verbosely.settings equipped = .ok (Orchestrator.settingsAt ".") := by
  decide +kernel

theorem builder_released :
    ∃ artifact, ((orchestrator builder (Orchestrator.settingsAt ".")).run equipped).2.account.result =
      .ok (.released artifact) := by
  have hbuild : ((orchestrator builder (Orchestrator.settingsAt ".")).built equipped).result = .ok .success :=
    rfl
  have hleft : ((orchestrator builder (Orchestrator.settingsAt ".")).built equipped).disk =
      Orchestrator.complete := rfl
  exact Orchestrator.released_of_complete "." (by decide) rfl hbuild rfl hleft

theorem execute_builder : (execute builder verbosely equipped).result = .ok 0 := by
  obtain ⟨artifact, hreleased⟩ := builder_released
  rw [execute_accepted verbosely_settings, hreleased]
  rfl

/-- Surroundings without a terminal, in which no filter is chosen. -/
def bare : Surroundings := ⟨none, false, none⟩

/-- An execution that releases an archive can still write to the error output: a verbose one writes its
log there. -/
theorem verbose_release_logs :
    (∀ e, ¬ builder.Utters e) ∧ (run builder bare verboseWords equipped).exitCode = 0 ∧
      ∃ rest, (run builder bare verboseWords equipped).err =
        Text.ofString "[DEBUG repraxis_bundler_release::release] Release stage: start -> build\n" ++
          rest := by
  have hparse : Arguments.parse verboseWords = .ok verbosely := by decide +kernel
  have hfilter : LogFilter.parse (bare.logFilter.getD (if verbosely.verbose then "debug" else "warn")) =
      (⟨[⟨none, 4⟩], none⟩, []) := rfl
  have hrun := run_accepted hparse hfilter execute_builder
  obtain ⟨rest, hrest⟩ := err_begins builder
    ⟨verbosely.verbosity, usesColour bare.terminal bare.noColour, ⟨[⟨none, 4⟩], none⟩⟩
    verbosely_settings
  have hline : Rendering.bytes
      ⟨verbosely.verbosity, usesColour bare.terminal bare.noColour, ⟨[⟨none, 4⟩], none⟩⟩ .err
      (.logged (.stageEntered .start .building)) =
      Text.ofString "[DEBUG repraxis_bundler_release::release] Release stage: start -> build\n" := by
    decide +kernel
  refine ⟨?_, hrun.1, rest, ?_⟩
  · rintro e ⟨launch, d, he⟩
    cases he
  · rw [hrun.2, ← hline, ← hrest, List.flatMap_nil, List.nil_append]

end CommandLine

end ReleaseBundle
