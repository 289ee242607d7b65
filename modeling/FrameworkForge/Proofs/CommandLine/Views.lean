import FrameworkForge.Proofs.CommandLine.Starts
import FrameworkForge.Proofs.Run.Rehearsal
import Mathlib.Data.List.Flatten

/-! The commands show and run one pipeline. A stage has one number in the list of the stages, in a
build and in the packaging; the packaging is the part of a build that belongs to its stages. -/

namespace FrameworkForge

namespace Pipeline

variable {σ : Type} {p : Pipeline} {host : Host} {processes : Processes σ}

theorem Executed.announces_of_mem {s : σ} {stages : List Stage} {made : List Attempt}
    {ran : Ran σ Verdict} (h : Executed p host processes stages s made ran)
    (hsub : stages ⊆ p.stages) {line : String} (hline : line ∈ ran.trace.out) :
    ∃ stage, p.Announces stage line := by
  obtain ⟨stage, hstage, rfl⟩ := List.mem_map.mp (h.prefix_headers.subset hline)
  exact ⟨stage, announces_header (hsub hstage)⟩

theorem Executed.spawns_of_passed {s : σ} {stages : List Stage} {made : List Attempt}
    {ran : Ran σ Verdict} (h : Executed p host processes stages s made ran)
    (hpassed : ∀ a ∈ made, a.Passed) :
    ran.trace.spawns = stages.flatMap fun stage => stage.tasks.map (Task.spawn host) := by
  rw [h.spawns, Attempt.map_spawn, (h.completed hpassed).tasks, List.map_flatMap]

theorem exists_select_start_iff (hne : p.stages ≠ []) {name : String} :
    (∃ selected, p.select (some name) none = .ok selected) ↔ name ∈ p.names := by
  rw [exists_select_iff hne]
  exact ⟨fun h => h.known name (.inl rfl),
    fun h => ⟨by simpa using h, by simp⟩⟩

theorem exists_select_stop_iff (hne : p.stages ≠ []) {name : String} :
    (∃ selected, p.select none (some name) = .ok selected) ↔ name ∈ p.names := by
  rw [exists_select_iff hne]
  exact ⟨fun h => h.known name (.inr rfl),
    fun h => ⟨by simpa using h, by simp⟩⟩

end Pipeline

namespace CommandLine

variable {σ : Type}

def IsHeader (line : String) : Prop :=
  line.toList.head? = some '🔨'

/-- The row shows a stage under a number, with its name and its description in columns. -/
def IsRow (n : Nat) (stage : Stage) (row : String) : Prop :=
  row = "".pushn ' ' (2 - (toString n).length) ++ toString n ++ ". " ++
    stage.name.pushn ' ' (15 - stage.name.length) ++ " " ++ stage.description

/-- The rows show all stages of the pipeline, each under its place counted from one. -/
structure Listed (p : Pipeline) (rows : List String) : Prop where
  length : rows.length = p.stages.length
  row : ∀ i stage, p.stages[i]? = some stage → ∃ row, rows[i]? = some row ∧ IsRow (i + 1) stage row

/-- The header and the row show the stage at the place `i`, counted from zero, under one number and
with one name and description. -/
def ShowsStage (p : Pipeline) (i : Nat) (header row : String) : Prop :=
  ∃ stage, p.stages[i]? = some stage ∧ IsRow (i + 1) stage row ∧
    header = s!"🔨 [{i + 1}/{p.stages.length}] {stage.name}: {stage.description}"

/-- The lines of a rehearsal are those of its stages in order: the header with the number of the
stage in the whole pipeline, and a line for each task. -/
structure Rehearses (p : Pipeline) (lines : Stage → List String) (selected : List Stage)
    (out : List String) : Prop where
  out : out = selected.flatMap lines
  lines : ∀ i stage, p.stages[i]? = some stage → lines stage =
    s!"🔨 [{i + 1}/{p.stages.length}] {stage.name}: {stage.description}" ::
      stage.tasks.map fun t => "  " ++ t.describe

/-- Where nothing that it attempts fails, the run announces the given stages and starts the processes
of all their tasks, both in the order of the stages, and starts nothing else. -/
def WorksThrough (p : Pipeline) (host : Host) (processes : Processes σ) (s : σ)
    (selected : List Stage) (ran : Ran σ Ending) : Prop :=
  ∃ made, Chain host processes s made ran.state ∧
    ran.trace.spawns = made.map (Attempt.spawn host) ∧
    ((∀ a ∈ made, a.Passed) →
      (∃ headers, List.Forall₂ p.Announces selected headers ∧ headers <+: ran.trace.out) ∧
      ran.trace.spawns = selected.flatMap fun stage => stage.tasks.map (Task.spawn host))

structure Reaches (host : Host) (words : List String) (command : Command) (choices : Choices)
    (c : Config) : Prop where
  asked : Asks words command choices
  loaded : choices.load host = .ok c

def Choices.Whole (choices : Choices) : Prop :=
  choices.start = none ∧ choices.stop = none

theorem isRow_stageLine (n : Nat) (stage : Stage) : IsRow n stage (Plan.stageLine n stage) :=
  rfl

theorem listed_stageLines (plan : Plan) : Listed plan.pipeline plan.stageLines where
  length := by simp [Plan.stageLines]
  row := by
    intro i stage hstage
    refine ⟨_, ?_, isRow_stageLine (i + 1) stage⟩
    simp [Plan.stageLines, hstage, Nat.add_comm]

theorem Listed.exists_row {p : Pipeline} {rows : List String} (h : Listed p rows) {stage : Stage}
    {line : String} (hline : p.Announces stage line) :
    ∃ i row, rows[i]? = some row ∧ ShowsStage p i line row := by
  obtain ⟨i, hstage, hline⟩ := hline
  obtain ⟨row, hrow, hshows⟩ := h.row i stage hstage
  exact ⟨i, row, hrow, stage, hstage, hshows, hline⟩

theorem head?_of_mem_rehearsedLines {stage : Stage} {line : String}
    (h : line ∈ stage.rehearsedLines) : line.toList.head? = some ' ' := by
  obtain ⟨t, -, rfl⟩ := List.mem_map.mp h
  have htext : s!"  {t.describe}" = "  " ++ t.describe := rfl
  simp [htext]

theorem not_isHeader_of_mem_rehearsedLines {stage : Stage} {line : String}
    (h : line ∈ stage.rehearsedLines) : ¬ IsHeader line := by
  simp [IsHeader, head?_of_mem_rehearsedLines h]

theorem not_isHeader_completeLine (plan : Plan) : ¬ IsHeader plan.completeLine := by
  have htext : plan.completeLine =
      "🎉 XCFramework build complete: " ++ plan.config.outputDir.text := rfl
  simp [IsHeader, htext]

theorem out_refused (e : Error) (s : σ) : (refused e s).trace.out = [] := by
  rw [refused]
  split <;> rfl

variable {host : Host} {processes : Processes σ} {plan : Plan} {s : σ}

theorem out_rehearsal (plan : Plan) : (plan.run host processes .rehearsal s).trace.out =
    plan.selected.flatMap fun stage => stage.header plan.pipeline :: stage.rehearsedLines := by
  simp [Plan.run, Pipeline.runStages, Pipeline.rehearsed, Plan.closing]

theorem announces_of_isHeader (hsub : plan.selected ⊆ plan.pipeline.stages) {mode : Mode}
    {line : String} (hline : line ∈ (plan.run host processes mode s).trace.out)
    (hheader : IsHeader line) : ∃ stage, plan.pipeline.Announces stage line := by
  cases mode with
  | rehearsal =>
    rw [out_rehearsal] at hline
    obtain ⟨stage, hstage, hline⟩ := List.mem_flatMap.mp hline
    rcases List.mem_cons.mp hline with rfl | htask
    · exact ⟨stage, Pipeline.announces_header (hsub hstage)⟩
    · exact absurd hheader (not_isHeader_of_mem_rehearsedLines htask)
  | real =>
    obtain ⟨made, h⟩ := Pipeline.exists_executed_runReal plan.pipeline host processes
      plan.selected hsub s
    rcases List.mem_append.mp hline with hrun | hclosing
    · exact h.announces_of_mem hsub hrun
    · have hcomplete : line = plan.completeLine := by
        revert hclosing
        cases (plan.pipeline.runStages host processes .real plan.selected s).value <;>
          simp [Plan.closing]
      exact absurd (hcomplete ▸ hheader) (not_isHeader_completeLine plan)

theorem rehearses_run (plan : Plan) (host : Host) (processes : Processes σ) (s : σ) :
    Rehearses plan.pipeline (fun stage => stage.header plan.pipeline :: stage.rehearsedLines)
      plan.selected (plan.run host processes .rehearsal s).trace.out where
  out := out_rehearsal plan
  lines := by
    intro i stage hstage
    rw [Stage.header, plan.pipeline.position_getElem hstage]
    rfl

theorem worksThrough_run (plan : Plan) (hsub : plan.selected ⊆ plan.pipeline.stages) :
    WorksThrough plan.pipeline host processes s plan.selected
      (plan.run host processes .real s) := by
  obtain ⟨made, h⟩ := Pipeline.exists_executed_runReal plan.pipeline host processes
    plan.selected hsub s
  have hspawns := spawns_run_real plan host processes s
  refine ⟨made, h.chain, hspawns.trans h.spawns, fun hpassed => ⟨?_, ?_⟩⟩
  · exact ⟨_, (h.completed hpassed).out, List.prefix_append _ _⟩
  · rw [hspawns, h.spawns_of_passed hpassed]

namespace Reaches

variable {words : List String} {command : Command} {choices : Choices} {c : Config} {p : Pipeline}

theorem plan_eq (h : Reaches host words command choices c) (hp : Build.pipeline c = .ok p) :
    command.plan host choices = (command.select choices p).map (Plan.mk c p) := by
  rw [Command.plan, h.loaded]
  simp only [bind, Except.bind, hp]
  cases command.select choices p <;> rfl

theorem run_of_select (h : Reaches host words command choices c) (hp : Build.pipeline c = .ok p)
    (hcommand : command ≠ .stages) {selected : List Stage}
    (hselect : command.select choices p = .ok selected) (processes : Processes σ) (s : σ) :
    (run host processes words s).1 =
      (Plan.mk c p selected).run host processes choices.mode s := by
  have hplan : command.plan host choices = .ok (Plan.mk c p selected) := by
    rw [h.plan_eq hp, hselect]
    rfl
  rw [run_of_asks h.asked, Command.runFor, hplan]
  cases command with
  | stages => exact absurd rfl hcommand
  | build => rfl
  | package => rfl

theorem out_stages (h : Reaches host words .stages choices c) (hp : Build.pipeline c = .ok p)
    (processes : Processes σ) (s : σ) :
    (run host processes words s).1.trace.out = (Plan.mk c p p.stages).stageLines := by
  have hplan : Command.stages.plan host choices = .ok (Plan.mk c p p.stages) := by
    rw [h.plan_eq hp]
    rfl
  rw [run_of_asks h.asked, Command.runFor, hplan]
  rfl

/-- A header in the output belongs to a stage of the pipeline, whatever is selected. -/
theorem announces_of_isHeader (h : Reaches host words command choices c)
    (hp : Build.pipeline c = .ok p) (hcommand : command ≠ .stages) {line : String}
    (hline : line ∈ (run host processes words s).1.trace.out) (hheader : IsHeader line) :
    ∃ stage, p.Announces stage line := by
  cases hselect : command.select choices p with
  | error e =>
    have hplan : command.plan host choices = .error e := by
      rw [h.plan_eq hp, hselect]
      rfl
    rw [run_of_asks h.asked, Command.runFor, hplan] at hline
    simp [out_refused] at hline
  | ok selected =>
    have hplan : command.plan host choices = .ok (Plan.mk c p selected) := by
      rw [h.plan_eq hp, hselect]
      rfl
    rw [h.run_of_select hp hcommand hselect] at hline
    exact CommandLine.announces_of_isHeader (Command.subset_of_plan hplan) hline hheader

end Reaches

theorem select_build_whole {choices : Choices} (hwhole : choices.Whole) {c : Config} {p : Pipeline}
    (hp : Build.pipeline c = .ok p) : Command.build.select choices p = .ok p.stages := by
  rw [Command.select, hwhole.1, hwhole.2]
  exact Build.select_all hp

def packaged (p : Pipeline) : List Stage :=
  p.stages.filter fun stage => stage.name ∈ Build.packageStages

theorem select_package (choices : Choices) {c : Config} {p : Pipeline}
    (hp : Build.pipeline c = .ok p) : Command.package.select choices p = .ok (packaged p) := by
  have hselect := Build.selectNamed_packageStages hp
  rwa [← (Pipeline.selectNamed_eq_ok_iff.mp hselect).2] at hselect

/-- The list of the stages numbers what a build and the packaging announce, and its names are the
bounds of a range. The packaging shows, and without failures starts, that part of a whole build that
belongs to its stages. -/
theorem commands_show_one_pipeline {c : Config} {p : Pipeline} (hp : Build.pipeline c = .ok p)
    {listing building packaging : List String} {listed built packed : Choices}
    (hlisting : Reaches host listing .stages listed c)
    (hbuilding : Reaches host building .build built c)
    (hpackaging : Reaches host packaging .package packed c)
    (processes : Processes σ) (s s' : σ) :
    let rows := (run host processes listing s).1.trace.out
    let build := (run host processes building s).1
    let package := (run host processes packaging s').1
    Listed p rows ∧
      (∀ line ∈ build.trace.out ++ package.trace.out, IsHeader line →
        ∃ i row, rows[i]? = some row ∧ ShowsStage p i line row) ∧
      (∀ name, ((∃ selected, p.select (some name) none = .ok selected) ↔ name ∈ p.names) ∧
        ((∃ selected, p.select none (some name) = .ok selected) ↔ name ∈ p.names)) ∧
      (built.Whole → built.dryRun = true → packed.dryRun = true →
        ∃ lines, Rehearses p lines p.stages build.trace.out ∧
          Rehearses p lines (packaged p) package.trace.out ∧
          package.trace.out.Sublist build.trace.out) ∧
      (built.Whole → built.dryRun = false → packed.dryRun = false →
        WorksThrough p host processes s p.stages build ∧
          WorksThrough p host processes s' (packaged p) package) := by
  intro rows build package
  have hrows : Listed p rows := by
    have hout : rows = (Plan.mk c p p.stages).stageLines := hlisting.out_stages hp processes s
    rw [hout]
    exact listed_stageLines (Plan.mk c p p.stages)
  have hne : p.stages ≠ [] := Build.stages_ne_nil hp
  have hpackage : package = (Plan.mk c p (packaged p)).run host processes packed.mode s' :=
    hpackaging.run_of_select hp (by simp) (select_package packed hp) processes s'
  have hbuild (hwhole : built.Whole) :
      build = (Plan.mk c p p.stages).run host processes built.mode s :=
    hbuilding.run_of_select hp (by simp) (select_build_whole hwhole hp) processes s
  refine ⟨hrows, ?_, fun name => ⟨Pipeline.exists_select_start_iff hne,
    Pipeline.exists_select_stop_iff hne⟩, ?_, ?_⟩
  · intro line hline hheader
    obtain ⟨stage, hstage⟩ : ∃ stage, p.Announces stage line := by
      rcases List.mem_append.mp hline with hline | hline
      · exact hbuilding.announces_of_isHeader hp (by simp) hline hheader
      · exact hpackaging.announces_of_isHeader hp (by simp) hline hheader
    exact hrows.exists_row hstage
  · intro hwhole hbuiltDry hpackedDry
    have hbuiltMode : built.mode = .rehearsal := if_pos hbuiltDry
    have hpackedMode : packed.mode = .rehearsal := if_pos hpackedDry
    rw [hpackage, hbuild hwhole, hbuiltMode, hpackedMode]
    have hwholeLines := rehearses_run (Plan.mk c p p.stages) host processes s
    have hpartLines := rehearses_run (Plan.mk c p (packaged p)) host processes s'
    refine ⟨_, hwholeLines, hpartLines, ?_⟩
    rw [hwholeLines.out, hpartLines.out]
    exact List.filter_sublist.flatMap _
  · intro hwhole hbuiltReal hpackedReal
    have hbuiltMode : built.mode = .real := if_neg (by simp [hbuiltReal])
    have hpackedMode : packed.mode = .real := if_neg (by simp [hpackedReal])
    rw [hpackage, hbuild hwhole, hbuiltMode, hpackedMode]
    exact ⟨worksThrough_run (Plan.mk c p p.stages) (List.Subset.refl _),
      worksThrough_run (Plan.mk c p (packaged p)) (List.filter_subset_self _)⟩

/-- A project without settings, whose stages are listed, rehearsed, and run without failures. -/
theorem commands_show_one_pipeline_plain :
    let processes : Processes Unit := ⟨fun s _ => (.exited 0, s), fun _ _ => .directory⟩
    let ran (words : List String) : Ran Unit Ending := (run Host.plain processes words ()).1
    let dry : Choices := { dryRun := true }
    ∃ c p, Build.pipeline c = .ok p ∧ Reaches Host.plain ["ios", "stages"] .stages {} c ∧
      Reaches Host.plain ["ios", "build"] .build {} c ∧
      Reaches Host.plain ["ios", "package"] .package {} c ∧
      Reaches Host.plain ["ios", "build", "--dry-run"] .build dry c ∧
      Reaches Host.plain ["ios", "package", "--dry-run"] .package dry c ∧
      Listed p (ran ["ios", "stages"]).trace.out ∧
      (∃ lines, Rehearses p lines p.stages (ran ["ios", "build", "--dry-run"]).trace.out ∧
        Rehearses p lines (packaged p) (ran ["ios", "package", "--dry-run"]).trace.out) ∧
      WorksThrough p Host.plain processes () p.stages (ran ["ios", "build"]) ∧
      WorksThrough p Host.plain processes () (packaged p) (ran ["ios", "package"]) := by
  intro processes ran dry
  obtain ⟨c, p, hp, hload⟩ := exists_load_plain
  have hlisting : Reaches Host.plain ["ios", "stages"] .stages {} c :=
    ⟨⟨"stages", [], rfl, rfl, by decide⟩, hload _ rfl rfl⟩
  have hbuilding : Reaches Host.plain ["ios", "build"] .build {} c :=
    ⟨asks_build, hload _ rfl rfl⟩
  have hpackaging : Reaches Host.plain ["ios", "package"] .package {} c :=
    ⟨⟨"package", [], rfl, rfl, by decide⟩, hload _ rfl rfl⟩
  have hbuildingDry : Reaches Host.plain ["ios", "build", "--dry-run"] .build dry c :=
    ⟨⟨"build", ["--dry-run"], rfl, rfl, by decide +kernel⟩, hload _ rfl rfl⟩
  have hpackagingDry : Reaches Host.plain ["ios", "package", "--dry-run"] .package dry c :=
    ⟨⟨"package", ["--dry-run"], rfl, rfl, by decide +kernel⟩, hload _ rfl rfl⟩
  obtain ⟨hlisted, -, -, -, hreal⟩ :=
    commands_show_one_pipeline hp hlisting hbuilding hpackaging processes () ()
  obtain ⟨-, -, -, hrehearsal, -⟩ :=
    commands_show_one_pipeline hp hlisting hbuildingDry hpackagingDry processes () ()
  obtain ⟨lines, hwhole, hpart, -⟩ := hrehearsal ⟨rfl, rfl⟩ rfl rfl
  exact ⟨c, p, hp, hlisting, hbuilding, hpackaging, hbuildingDry, hpackagingDry, hlisted,
    ⟨lines, hwhole, hpart⟩, hreal ⟨rfl, rfl⟩ rfl rfl⟩

end CommandLine

end FrameworkForge
