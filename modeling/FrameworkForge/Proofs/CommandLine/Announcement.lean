import FrameworkForge.Proofs.Build.Finishers
import FrameworkForge.Proofs.CommandLine.Views
import FrameworkForge.Proofs.Text.Fill

/-! What it takes to say that a framework is complete. The line is printed at the end of a run whose
attempts have all passed, whatever the range of stages was; it is true of those ranges that leave
out none of the stages that finish the framework. -/

namespace FrameworkForge.CommandLine

open Text

variable {σ : Type}

/-- The line says that a framework is complete, whatever the place that it names. -/
def SaysComplete (line : String) : Prop :=
  ∃ place : String, line = s!"🎉 XCFramework build complete: {place}"

def IsQuiet (lines : List String) : Prop :=
  ∀ line ∈ lines, ¬ SaysComplete line

/-- The line is the last one, and none before it says that a framework is complete. -/
def SaysLast (lines : List String) (line : String) : Prop :=
  ∃ before, lines = before ++ [line] ∧ IsQuiet before

theorem IsQuiet.not_exists {lines : List String} (h : IsQuiet lines) :
    ¬ ∃ line ∈ lines, SaysComplete line :=
  fun ⟨line, hline, htold⟩ => h line hline htold

theorem SaysLast.mem {lines : List String} {line : String} (h : SaysLast lines line) :
    line ∈ lines := by
  obtain ⟨before, rfl, -⟩ := h
  simp

theorem SaysLast.eq_of_told {lines : List String} {line other : String} (h : SaysLast lines line)
    (hother : other ∈ lines) (htold : SaysComplete other) : other = line := by
  obtain ⟨before, rfl, hquiet⟩ := h
  rcases List.mem_append.mp hother with hbefore | hlast
  · exact absurd htold (hquiet other hbefore)
  · exact List.mem_singleton.mp hlast

theorem head?_of_saysComplete {line : String} (h : SaysComplete line) :
    line.toList.head? = some '🎉' := by
  obtain ⟨place, rfl⟩ := h
  have htext : s!"🎉 XCFramework build complete: {place}" =
      "🎉 XCFramework build complete: " ++ place := rfl
  simp [htext]

theorem not_saysComplete_of_head {line : String} (h : line.toList.head? ≠ some '🎉') :
    ¬ SaysComplete line :=
  fun htold => h (head?_of_saysComplete htold)

theorem not_saysComplete_of_all {line : String} (h : All (· ≠ '🎉') line) :
    ¬ SaysComplete line :=
  fun htold => h _ (List.mem_of_head? (head?_of_saysComplete htold)) rfl

theorem toList_pushn (s : String) (c : Char) (n : Nat) :
    (s.pushn c n).toList = s.toList ++ List.replicate n c := by
  rw [String.pushn_eq_repeat_push]
  induction n with
  | zero => simp [Nat.repeat]
  | succ n ih => simp [Nat.repeat, ih, List.replicate_succ']

/-- A row of the list of stages begins with its number, which blanks may precede. -/
theorem isQuiet_stageLines (plan : Plan) : IsQuiet plan.stageLines := by
  intro line hline
  obtain ⟨⟨stage, n⟩, -, rfl⟩ := List.mem_map.mp hline
  let number := List.replicate (2 - (toString n).length) ' ' ++ Nat.toDigits 10 n
  have hnumber : ∀ c ∈ number, c ≠ '🎉' := by
    intro c hc heq
    rcases List.mem_append.mp hc with hblank | hdigit
    · simp [List.eq_of_mem_replicate hblank] at heq
    · have hdecimal := Nat.isDigit_of_mem_toDigits (by decide) (by decide) hdigit
      exact absurd (heq ▸ hdecimal) (by decide)
  obtain ⟨later, htext⟩ : ∃ later, (Plan.stageLine n stage).toList = number ++ later := by
    have hrow : Plan.stageLine n stage = _ := isRow_stageLine n stage
    simp [hrow, number, toList_pushn]
  intro htold
  have hhead := head?_of_saysComplete htold
  obtain ⟨first, others, hcons⟩ : ∃ first others, number = first :: others :=
    List.exists_cons_of_ne_nil (by simp [number, Nat.toDigits_ne_nil])
  rw [htext, hcons] at hhead
  exact hnumber first (by simp [hcons]) (by simpa using hhead)

theorem head?_of_mem_explain {f : Flag} {line : String} (h : line ∈ Command.explain f) :
    line.toList.head? = some ' ' := by
  have hname (s : String) : ("  " ++ s).toList.head? = some ' ' := by simp
  have hbelow (s : String) : ("".pushn ' ' explanationColumn ++ s).toList.head? = some ' ' := by
    simp [toList_pushn, explanationColumn, List.replicate_succ]
  have hlater {lines : List String} (h : line ∈ lines.map ("".pushn ' ' explanationColumn ++ ·)) :
      line.toList.head? = some ' ' := by
    obtain ⟨text, -, rfl⟩ := List.mem_map.mp h
    exact hbelow text
  simp only [Command.explain] at h
  split at h
  · split at h
    · obtain rfl := List.mem_singleton.mp h
      exact hname _
    · rcases List.mem_cons.mp h with rfl | h
      · simp [toList_pushn]
      · exact hlater h
  · rcases List.mem_cons.mp h with rfl | h
    · exact hname _
    · exact hlater h

theorem all_usage (command : Command) :
    ∀ line ∈ command.usage, All (· ≠ '🎉') line := by
  refine All.fill (by decide) (by simp [All, toList_pushn]) _ _ _ ?_ ?_
  · cases command <;> decide
  · have hpieces : ∀ f : Flag, All (· ≠ '🎉') (Command.summaryPiece f).text := by
      intro f
      cases f <;> decide +kernel
    simp only [List.forall_mem_map]
    exact fun f _ => hpieces f

theorem all_description (command : Command) : All (· ≠ '🎉') command.description := by
  cases command <;> decide +kernel

theorem isQuiet_help (command : Command) : IsQuiet command.help := by
  intro line hline
  simp only [Command.help, List.mem_append, List.mem_flatMap] at hline
  rcases hline with (((husage | hempty) | hdescription) | hoptions) | ⟨f, -, hexplain⟩
  · exact not_saysComplete_of_all (all_usage command line husage)
  · obtain rfl := List.mem_singleton.mp hempty
    exact not_saysComplete_of_head (by simp)
  · exact not_saysComplete_of_all
      (All.paragraph (by decide) (all_description command) lineWidth line hdescription)
  · refine not_saysComplete_of_head ?_
    revert line
    decide
  · exact not_saysComplete_of_head (by simp [head?_of_mem_explain hexplain])

variable {host : Host} {processes : Processes σ} {s : σ}

theorem isHeader_header (p : Pipeline) (stage : Stage) : IsHeader (stage.header p) := by
  obtain ⟨later, htext⟩ : ∃ later, stage.header p = "🔨 [" ++ later := by
    simp only [Stage.header, String.append_assoc]
    exact ⟨_, rfl⟩
  simp [IsHeader, htext]

theorem not_saysComplete_header (p : Pipeline) (stage : Stage) :
    ¬ SaysComplete (stage.header p) := by
  have hhead : (stage.header p).toList.head? = some '🔨' := isHeader_header p stage
  exact not_saysComplete_of_head (by simp [hhead])

theorem isQuiet_rehearsal (plan : Plan) (host : Host) (processes : Processes σ) (s : σ) :
    IsQuiet (plan.run host processes .rehearsal s).trace.out := by
  intro line hline
  rw [out_rehearsal] at hline
  obtain ⟨stage, -, hline⟩ := List.mem_flatMap.mp hline
  rcases List.mem_cons.mp hline with rfl | htask
  · exact not_saysComplete_header _ stage
  · exact not_saysComplete_of_head (by simp [head?_of_mem_rehearsedLines htask])

theorem isQuiet_executed {p : Pipeline} {stages : List Stage} {made : List Attempt}
    {ran : Ran σ Verdict} (h : Pipeline.Executed p host processes stages s made ran) :
    IsQuiet ran.trace.out := by
  intro line hline
  obtain ⟨stage, -, rfl⟩ := List.mem_map.mp (h.prefix_headers.subset hline)
  exact not_saysComplete_header p stage

theorem Dismissed.isQuiet {ran : Ran σ Ending} (h : Dismissed s ran) : IsQuiet ran.trace.out := by
  cases h with
  | complains code lines => simp [IsQuiet]
  | helps command => exact isQuiet_help command

/-- A command that is not at work lists its stages or rehearses them. -/
theorem isQuiet_of_not_works {command : Command} {choices : Choices} {plan : Plan}
    (hplan : command.plan host choices = .ok plan) (h : ¬ command.Works choices) :
    IsQuiet (command.runFor host processes choices s).trace.out := by
  rw [Command.runFor, hplan]
  cases command with
  | stages => exact isQuiet_stageLines plan
  | build | package =>
    have hmode : choices.mode = .rehearsal := by
      simpa [Command.Works, Choices.mode] using h
    simpa [hmode] using isQuiet_rehearsal plan host processes s

/-- Without clearance a run shows a help text, the stages or a rehearsal at most. -/
theorem isQuiet_of_not_cleared {words : List String}
    (h : ¬ ∃ command choices config pipeline, Cleared host words command choices config pipeline)
    (processes : Processes σ) (s : σ) :
    IsQuiet (run host processes words s).1.trace.out := by
  rcases run_cases host processes words s with ⟨command, choices, hasks, hrun⟩ | ⟨-, hover⟩
  · rw [exists_cleared_iff hasks] at h
    rw [hrun]
    rcases Command.runFor_cases host processes command choices s with
      ⟨e, -, hrefused⟩ | ⟨plan, hplan, ⟨hworks, -⟩ | ⟨hrests, -⟩⟩
    · simp [hrefused, out_refused, IsQuiet]
    · exact absurd ⟨hworks, plan, hplan⟩ h
    · exact isQuiet_of_not_works hplan hrests
  · exact hover.isQuiet

/-- A real run of a plan: where all its attempts pass, it ends with the line that the framework is
complete and with zero, and otherwise it prints no such line. -/
structure Announced (host : Host) (processes : Processes σ) (plan : Plan) (s : σ)
    (made : List Attempt) (ran : Ran σ Ending) : Prop where
  chain : Chain host processes s made ran.state
  spawns : ran.trace.spawns = made.map (Attempt.spawn host)
  ending : (∀ a ∈ made, a.Passed) ∧
      made.map Attempt.task = plan.selected.flatMap Stage.tasks ∧ ran.value = .exited 0 ∧
      SaysLast ran.trace.out plan.completeLine ∨
    ¬ (∀ a ∈ made, a.Passed) ∧ IsQuiet ran.trace.out

theorem saysComplete_completeLine (plan : Plan) : SaysComplete plan.completeLine :=
  ⟨_, rfl⟩

theorem exists_announced_run (plan : Plan) (hsub : plan.selected ⊆ plan.pipeline.stages)
    (host : Host) (processes : Processes σ) (s : σ) :
    ∃ made, Announced host processes plan s made (plan.run host processes .real s) := by
  obtain ⟨made, h⟩ := Pipeline.exists_executed_runReal plan.pipeline host processes
    plan.selected hsub s
  have hquiet := isQuiet_executed h
  refine ⟨made, h.chain, (spawns_run_real plan host processes s).trans h.spawns, ?_⟩
  rcases h.ending with hdone | ⟨before, stage, passed, failed, hstop⟩
  · left
    refine ⟨hdone.passed, hdone.tasks, ?_, _, ?_, hquiet⟩
    · exact congrArg Plan.ending hdone.value
    · simp [Plan.run, Pipeline.runStages, Plan.closing, hdone.value]
  · right
    refine ⟨fun hall => hstop.notPassed (hall failed (by simp [hstop.attempts])), ?_⟩
    cases hresult : failed.result <;>
      simpa [Plan.run, Pipeline.runStages, Plan.closing, hstop.value, hresult,
        Verdict.ofFailure] using hquiet

theorem Announced.says_iff {plan : Plan} {made : List Attempt} {ran : Ran σ Ending}
    (h : Announced host processes plan s made ran) :
    (∃ line ∈ ran.trace.out, SaysComplete line) ↔ ∀ a ∈ made, a.Passed := by
  rcases h.ending with ⟨hpassed, -, -, hends⟩ | ⟨hnot, hquiet⟩
  · exact iff_of_true ⟨_, hends.mem, saysComplete_completeLine plan⟩ hpassed
  · exact iff_of_false hquiet.not_exists hnot

/-- The packaging finishes the framework always, and a build when its range does. -/
theorem finishers_selected_iff {command : Command} {choices : Choices} {plan : Plan}
    (hplan : command.plan host choices = .ok plan) (hworks : command.Works choices) :
    (∀ name ∈ Build.finishers, name ∈ plan.selected.map Stage.name) ↔
      (command = .build →
        Build.KeepsFinishers (Choices.bound choices.start) (Choices.bound choices.stop)) := by
  obtain ⟨-, hpipeline, hselect⟩ := Command.plan_eq_ok_iff.mp hplan
  rcases hworks.1 with rfl | rfl
  · simpa using Build.finishers_selected_iff hpipeline hselect
  · rw [Command.select, Build.selectNamed_packageStages hpipeline] at hselect
    have hfinishers : ∀ name ∈ Build.finishers,
        name ∈ (Build.packageRun plan.config).map Stage.name := by
      simp [Build.finishers, Build.packageRun, Build.xcframework, Build.compressStage,
        Build.checksumStage]
    simpa [← Except.ok.inj hselect] using hfinishers

/-- A run says that a framework is complete just when it was cleared to start processes and all its
attempts have passed. It says so in its last line, and exits with zero. What it says is true of the
packaging, and of a build just when no stage that finishes the framework is out of its range. -/
theorem run_says_complete_iff (host : Host) (processes : Processes σ) (words : List String)
    (s : σ) :
    let ran := (run host processes words s).1
    ∃ made, Chain host processes s made ran.state ∧
      ran.trace.spawns = made.map (Attempt.spawn host) ∧
      ((∃ line ∈ ran.trace.out, SaysComplete line) ↔
        (∃ command choices config pipeline,
          Cleared host words command choices config pipeline) ∧ ∀ a ∈ made, a.Passed) ∧
      ∀ line ∈ ran.trace.out, SaysComplete line →
        ran.value = .exited 0 ∧ SaysLast ran.trace.out line ∧
        ∃ command choices config pipeline,
          Cleared host words command choices config pipeline ∧
          line = s!"🎉 XCFramework build complete: {config.outputDir.text}" ∧
          (Build.Finished pipeline made ↔ (command = .build →
            Build.KeepsFinishers (Choices.bound choices.start) (Choices.bound choices.stop))) := by
  intro ran
  by_cases hcleared : ∃ command choices config pipeline,
      Cleared host words command choices config pipeline
  · obtain ⟨command, choices, config, pipeline, h⟩ := hcleared
    obtain ⟨selected, hplan, hrun⟩ := run_of_cleared h processes s
    have hsub : selected ⊆ pipeline.stages := Command.subset_of_plan hplan
    obtain ⟨made, hmade⟩ := exists_announced_run ⟨config, pipeline, selected⟩ hsub host processes s
    rw [← hrun] at hmade
    refine ⟨made, hmade.chain, hmade.spawns, ?_, fun line hline htold => ?_⟩
    · rw [hmade.says_iff, and_iff_right ⟨_, _, _, _, h⟩]
    · rcases hmade.ending with ⟨hpassed, htasks, hzero, hends⟩ | ⟨-, hquiet⟩
      · obtain rfl := hends.eq_of_told hline htold
        refine ⟨hzero, hends, command, choices, config, pipeline, h, rfl, ?_⟩
        rw [Build.finished_iff h.built hsub htasks hpassed]
        exact finishers_selected_iff hplan h.works
      · exact absurd htold (hquiet line hline)
  · obtain ⟨hstate, hspawns, -⟩ := still_of_not_cleared hcleared processes s
    have hquiet : IsQuiet ran.trace.out := isQuiet_of_not_cleared hcleared processes s
    refine ⟨[], hstate ▸ .nil _, hspawns, ?_, fun line hline htold => ?_⟩
    · exact iff_of_false hquiet.not_exists fun h => hcleared h.1
    · exact absurd htold (hquiet line hline)

/-- Where every process exits with zero, all attempts pass. -/
theorem passed_of_chain {made : List Attempt} {last : σ} (h : Chain host processes s made last)
    (hzero : ∀ s spawn, (processes.start s spawn).1 = .exited 0) : ∀ a ∈ made, a.Passed := by
  induction h with
  | nil => simp
  | @cons s _ _ a _ start _ _ ih =>
    have houtcome : a.outcome = .exited 0 := by
      simpa [start] using hzero s (a.spawn host)
    have hpassed : a.Passed := by
      simp [Attempt.Passed, Attempt.result, houtcome, Task.resultOf, Task.accepting, Task.accepts]
    exact List.forall_mem_cons.mpr ⟨hpassed, ih⟩

theorem select_cleaning {c : Config} {p : Pipeline} (hp : Build.pipeline c = .ok p) :
    p.select (some "clean") (some "clean") = .ok [Build.clean c] := by
  have hposition : p.position "clean" = 2 := by
    rw [Pipeline.position, Build.names_pipeline hp]
    decide
  refine Pipeline.select_eq_ok_iff.mpr ⟨?_, by simp [Pipeline.firstOf, Pipeline.lastOf], ?_⟩
  · simp [Build.names_pipeline hp, Build.stageNames]
  · simp [Pipeline.firstOf, Pipeline.lastOf, hposition, Build.stages_of_pipeline hp, Build.stages]

/-- The calls of the cleaning have two arguments, and those that finish a framework more. -/
theorem not_finisher_of_cleaning (c : Config) (host : Host) {t : Task} {verb : String}
    (hverb : t.verb? = some verb) : t.spawn host ∉ (Build.clean c).tasks.map (Task.spawn host) := by
  intro hmem
  obtain ⟨removal, hremoval, hsame⟩ := List.mem_map.mp hmem
  have hshort : removal.argv.length = 3 := by
    obtain ⟨path, -, rfl⟩ := List.mem_map.mp hremoval
    rfl
  have hlong : 3 < t.argv.length := by
    simp only [Task.verb?, Option.ite_none_right_eq_some] at hverb
    simpa [Task.argv] using Nat.lt_succ_of_le hverb.1
  have hargv : removal.argv = t.argv := congrArg Spawn.argv hsame
  rw [← hargv, hshort] at hlong
  exact absurd hlong (by decide)

/-- A build that only cleans up says that a framework is complete. -/
theorem says_complete_of_cleaned :
    let processes : Processes Unit := ⟨fun s _ => (.exited 0, s), fun _ _ => .directory⟩
    let words := ["ios", "build", "--from", "clean", "--to", "clean"]
    let ran := (run Host.plain processes words ()).1
    ∃ command choices config pipeline,
      Cleared Host.plain words command choices config pipeline ∧
      (∃ line ∈ ran.trace.out, SaysComplete line) ∧
      ∀ name ∈ Build.finishers, ∃ t, pipeline.tasksOf name = [t] ∧
        t.spawn Host.plain ∉ ran.trace.spawns := by
  intro processes words ran
  obtain ⟨c, p, hp, hload⟩ := exists_load_plain
  let choices : Choices := { start := some (some "clean"), stop := some (some "clean") }
  have hselect := select_cleaning hp
  have hcleared : Cleared Host.plain words .build choices c p := {
    asked := ⟨"build", words.drop 2, rfl, rfl, by decide +kernel⟩
    works := ⟨.inl rfl, rfl⟩
    loaded := hload choices rfl rfl
    built := hp
    range := fun _ => (Pipeline.exists_select_iff (Build.stages_ne_nil hp)).mp ⟨_, hselect⟩ }
  obtain ⟨selected, hplan, hrun⟩ := run_of_cleared hcleared processes ()
  obtain rfl : [Build.clean c] = selected := by
    obtain ⟨-, -, hselected⟩ := Command.plan_eq_ok_iff.mp hplan
    exact Except.ok.inj (hselect.symm.trans hselected)
  let plan : Plan := ⟨c, p, [Build.clean c]⟩
  obtain ⟨made, hmade⟩ := exists_announced_run plan (Command.subset_of_plan hplan) Host.plain
    processes ()
  rw [← hrun] at hmade
  have hpassed := passed_of_chain hmade.chain fun _ _ => rfl
  obtain ⟨-, htasks, -, hends⟩ := hmade.ending.resolve_right fun h => h.1 hpassed
  have hspawns : ran.trace.spawns = (Build.clean c).tasks.map (Task.spawn Host.plain) := by
    rw [hmade.spawns, Attempt.map_spawn, htasks]
    simp [plan]
  refine ⟨_, _, c, p, hcleared, ⟨_, hends.mem, saysComplete_completeLine plan⟩,
    fun name hname => ?_⟩
  obtain ⟨stage, hstage, t, verb, tool, rfl, hsingle, hverb, -⟩ :=
    Build.exists_finisher hp name hname
  exact ⟨t, (Pipeline.tasksOf_name hstage).trans hsingle,
    hspawns ▸ not_finisher_of_cleaning c Host.plain hverb⟩

end FrameworkForge.CommandLine
