import FrameworkForge.CommandLine.Run
import FrameworkForge.Proofs.Packaging.Fresh
import FrameworkForge.Proofs.Run.Selection

/-! When the command line starts processes. It does so only once everything that the user gave has
been looked at, and an exit with zero means that all that was selected has been done. -/

namespace FrameworkForge.CommandLine

open Checks

variable {σ : Type}

/-- The words behind a sign of verbosity. -/
def body (words : List String) : List String :=
  if isVerbose words then words.drop 1 else words

/-- The words are read as a request to run the command with these choices. -/
def Asks (words : List String) (command : Command) (choices : Choices) : Prop :=
  ∃ name rest, body words = "ios" :: name :: rest ∧ Command.ofName? name = some command ∧
    Request.read command rest = .ok (.run choices)

theorem Asks.read {words rest : List String} {name : String} {command command' : Command}
    {choices : Choices} (h : Asks words command choices) (hbody : body words = "ios" :: name :: rest)
    (hname : Command.ofName? name = some command') :
    command' = command ∧ Request.read command' rest = .ok (.run choices) := by
  obtain ⟨name', rest', hbody', hname', hread⟩ := h
  obtain ⟨rfl, rfl⟩ : name = name' ∧ rest = rest' := by simpa [hbody] using hbody'
  obtain rfl : command' = command := by simpa [hname] using hname'
  exact ⟨rfl, hread⟩

theorem Asks.unique {words : List String} {command command' : Command} {choices choices' : Choices}
    (h : Asks words command choices) (h' : Asks words command' choices') :
    command' = command ∧ choices' = choices := by
  obtain ⟨name, rest, hbody, hname, hread⟩ := h
  obtain ⟨rfl, hread'⟩ := h'.read hbody hname
  obtain rfl : choices = choices' := by simpa [hread] using hread'
  exact ⟨rfl, rfl⟩

theorem asks_build : Asks ["ios", "build"] .build {} :=
  ⟨"build", [], rfl, rfl, by decide⟩

/-- A run that starts nothing and ends with an exit code. -/
structure Idle (s : σ) (ran : Ran σ Ending) : Prop where
  exited : ∃ code, ran.value = .exited code
  spawns : ran.trace.spawns = []
  state : ran.state = s

/-- A run that is over before anything but the words was looked at: it complains, or it shows how a
command is called. -/
inductive Dismissed (s : σ) : Ran σ Ending → Prop
  | complains (code : Nat) (lines : List String) :
      Dismissed s ⟨.exited code, .complained lines, s⟩
  | helps (command : Command) : Dismissed s ⟨.exited 0, .printed command.help, s⟩

theorem Dismissed.idle {s : σ} {ran : Ran σ Ending} (h : Dismissed s ran) : Idle s ran := by
  cases h with
  | complains code lines => exact ⟨⟨code, rfl⟩, rfl, rfl⟩
  | helps command => exact ⟨⟨0, rfl⟩, rfl, rfl⟩

theorem run_cases (host : Host) (processes : Processes σ) (words : List String) (s : σ) :
    (∃ command choices, Asks words command choices ∧
      (run host processes words s).1 = command.runFor host processes choices s) ∨
    (∀ command choices, ¬ Asks words command choices) ∧
      Dismissed s (run host processes words s).1 := by
  have hrun : (run host processes words s).1 = runWords host processes (body words) s := by
    rw [run, body]
    split <;> rfl
  have hfailed (lines : List String) : Dismissed s (failed lines s) := .complains 1 lines
  rw [hrun]
  rcases hbody : body words with _ | ⟨group, _ | ⟨name, rest⟩⟩
  · exact .inr ⟨by simp [Asks, hbody], hfailed _⟩
  · refine .inr ⟨by simp [Asks, hbody], ?_⟩
    rw [runWords]
    split <;> exact hfailed _
  · by_cases hgroup : group = "ios"
    · subst hgroup
      cases hname : Command.ofName? name with
      | none =>
        refine .inr ⟨by simp [Asks, hbody, hname], ?_⟩
        simpa [runWords, runCommand, hname] using hfailed _
      | some command =>
        have hcommand : runWords host processes ("ios" :: name :: rest) s =
            command.run host processes rest s := by
          simp [runWords, runCommand, hname]
        rw [hcommand, Command.run]
        cases hread : Request.read command rest with
        | error e =>
          refine .inr ⟨fun _ _ h => ?_, .complains usageCode _⟩
          simpa [hread] using (h.read hbody hname).2
        | ok request =>
          cases request with
          | help =>
            refine .inr ⟨fun _ _ h => ?_, .helps command⟩
            simpa [hread] using (h.read hbody hname).2
          | run choices => exact .inl ⟨command, choices, ⟨name, rest, hbody, hname, hread⟩, rfl⟩
    · refine .inr ⟨by simp [Asks, hbody, hgroup], ?_⟩
      simpa [runWords, hgroup] using hfailed _

theorem run_of_asks {words : List String} {command : Command} {choices : Choices}
    (h : Asks words command choices) (host : Host) (processes : Processes σ) (s : σ) :
    (run host processes words s).1 = command.runFor host processes choices s := by
  rcases run_cases host processes words s with ⟨command', choices', hasks, hrun⟩ | ⟨hnone, -⟩
  · obtain ⟨rfl, rfl⟩ := h.unique hasks
    exact hrun
  · exact absurd h (hnone command choices)

namespace Command

variable {host : Host} {command : Command} {choices : Choices}

theorem plan_eq_ok_iff {plan : Plan} : command.plan host choices = .ok plan ↔
    choices.load host = .ok plan.config ∧ Build.pipeline plan.config = .ok plan.pipeline ∧
      command.select choices plan.pipeline = .ok plan.selected := by
  constructor
  · intro h
    obtain ⟨c, hload, h⟩ := bind_eq_ok_iff.mp h
    obtain ⟨p, hpipeline, h⟩ := bind_eq_ok_iff.mp h
    obtain ⟨selected, hselect, h⟩ := bind_eq_ok_iff.mp h
    cases h
    exact ⟨hload, hpipeline, hselect⟩
  · rintro ⟨hload, hpipeline, hselect⟩
    refine bind_eq_ok_iff.mpr ⟨_, hload, ?_⟩
    refine bind_eq_ok_iff.mpr ⟨_, hpipeline, ?_⟩
    exact bind_eq_ok_iff.mpr ⟨_, hselect, rfl⟩

def Works (command : Command) (choices : Choices) : Prop :=
  (command = .build ∨ command = .package) ∧ choices.dryRun = false

theorem runFor_cases (host : Host) (processes : Processes σ) (command : Command)
    (choices : Choices) (s : σ) :
    (∃ e, command.plan host choices = .error e ∧
      command.runFor host processes choices s = refused e s) ∨
    ∃ plan, command.plan host choices = .ok plan ∧
      (command.Works choices ∧
        command.runFor host processes choices s = plan.run host processes .real s ∨
      ¬ command.Works choices ∧ Idle s (command.runFor host processes choices s)) := by
  rw [runFor]
  cases hplan : command.plan host choices with
  | error e => exact .inl ⟨e, rfl, rfl⟩
  | ok plan =>
    refine .inr ⟨plan, rfl, ?_⟩
    have hrehearsal : Idle s (plan.run host processes .rehearsal s) := ⟨⟨0, rfl⟩, rfl, rfl⟩
    cases command with
    | stages => exact .inr ⟨by simp [Works], ⟨0, rfl⟩, rfl, rfl⟩
    | build | package =>
      cases hdry : choices.dryRun with
      | false => exact .inl ⟨⟨by simp, hdry⟩, by simp [Choices.mode, hdry]⟩
      | true =>
        refine .inr ⟨fun h => by simp [h.2] at hdry, ?_⟩
        simpa [Choices.mode, hdry] using hrehearsal

theorem subset_of_plan {plan : Plan} (h : command.plan host choices = .ok plan) :
    plan.selected ⊆ plan.pipeline.stages := by
  obtain ⟨-, -, hselect⟩ := plan_eq_ok_iff.mp h
  cases command with
  | build => exact Pipeline.subset_of_select hselect
  | package => exact Pipeline.subset_of_selectNamed hselect
  | stages =>
    have hall : plan.pipeline.stages = plan.selected := Except.ok.inj hselect
    rw [hall]
    exact List.Subset.refl _

theorem selected_ne_nil {plan : Plan} (h : command.plan host choices = .ok plan) :
    plan.selected ≠ [] := by
  obtain ⟨-, hpipeline, hselect⟩ := plan_eq_ok_iff.mp h
  cases command with
  | build => exact Pipeline.ne_nil_of_select hselect
  | package =>
    rw [select, Build.selectNamed_packageStages hpipeline] at hselect
    rw [← Except.ok.inj hselect]
    simp [Build.packageRun]
  | stages =>
    rw [← Except.ok.inj hselect]
    exact Build.stages_ne_nil hpipeline

theorem tasks_selected_ne_nil {plan : Plan} (h : command.plan host choices = .ok plan) :
    plan.selected.flatMap Stage.tasks ≠ [] := by
  obtain ⟨-, hpipeline, -⟩ := plan_eq_ok_iff.mp h
  obtain ⟨stage, hstage⟩ := List.exists_mem_of_ne_nil _ (selected_ne_nil h)
  have hin : stage ∈ Build.stages plan.config :=
    Build.stages_of_pipeline hpipeline ▸ subset_of_plan h hstage
  intro hnil
  exact Build.tasks_ne_nil plan.config stage hin (List.flatMap_eq_nil_iff.mp hnil stage hstage)

theorem exists_plan_iff : (∃ plan, command.plan host choices = .ok plan) ↔
    ∃ config pipeline, choices.load host = .ok config ∧ Build.pipeline config = .ok pipeline ∧
      (command = .build → pipeline.InOrder (Choices.bound choices.start)
        (Choices.bound choices.stop)) := by
  constructor
  · rintro ⟨plan, h⟩
    obtain ⟨hload, hpipeline, hselect⟩ := plan_eq_ok_iff.mp h
    refine ⟨plan.config, plan.pipeline, hload, hpipeline, ?_⟩
    rintro rfl
    exact (Pipeline.exists_select_iff (Build.stages_ne_nil hpipeline)).mp ⟨_, hselect⟩
  · rintro ⟨config, pipeline, hload, hpipeline, hrange⟩
    obtain ⟨selected, hselect⟩ : ∃ selected, command.select choices pipeline = .ok selected := by
      cases command with
      | build => exact (Pipeline.exists_select_iff (Build.stages_ne_nil hpipeline)).mpr (hrange rfl)
      | package => exact ⟨_, Build.selectNamed_packageStages hpipeline⟩
      | stages => exact ⟨_, rfl⟩
    exact ⟨⟨config, pipeline, selected⟩, plan_eq_ok_iff.mpr ⟨hload, hpipeline, hselect⟩⟩

end Command

/-- A run that attempts the tasks of the plan: it starts something, it is interrupted just when an
attempt is, and it exits with zero only after all tasks have passed. -/
structure Worked (host : Host) (processes : Processes σ) (plan : Plan) (s : σ)
    (made : List Attempt) (ran : Ran σ Ending) : Prop where
  chain : Chain host processes s made ran.state
  spawns : ran.trace.spawns = made.map (Attempt.spawn host)
  started : made ≠ []
  notEscaped : ∀ e, ran.value ≠ .escaped e
  interrupted : ∀ cause, ran.value = .interrupted cause ↔ ∃ a ∈ made, a.Interrupted cause
  complete : ran.value = .exited 0 →
    made.map Attempt.task = plan.selected.flatMap Stage.tasks ∧ ∀ a ∈ made, a.Passed

namespace Plan

theorem ending_eq_exited_iff {v : Verdict} {code : Nat} :
    ending v = .exited code ↔ v.code = .ok code := by
  rw [ending]
  split <;> simp_all

theorem ending_eq_interrupted_iff {v : Verdict} {cause : Interruption} :
    ending v = .interrupted cause ↔ v.code = .error cause := by
  rw [ending]
  split <;> simp_all

theorem ending_ne_escaped {v : Verdict} (e : Error) : ending v ≠ .escaped e := by
  rw [ending]
  split <;> simp

end Plan

theorem spawns_run_real (plan : Plan) (host : Host) (processes : Processes σ) (s : σ) :
    (plan.run host processes .real s).trace.spawns =
      (plan.pipeline.runReal host processes plan.selected s).trace.spawns := by
  have hclosing (v : Verdict) : (plan.closing .real v).spawns = [] := by
    cases v <;> rfl
  simp [Plan.run, Pipeline.runStages, hclosing]

theorem exists_worked_run {host : Host} {command : Command} {choices : Choices} {plan : Plan}
    (h : command.plan host choices = .ok plan) (processes : Processes σ) (s : σ) :
    ∃ made, Worked host processes plan s made (plan.run host processes .real s) := by
  obtain ⟨made, hrun⟩ := Pipeline.exists_executed_runReal plan.pipeline host processes
    plan.selected (Command.subset_of_plan h) s
  have htasks := Command.tasks_selected_ne_nil h
  have hspawns := (spawns_run_real plan host processes s).trans hrun.spawns
  obtain ⟨r, hvalue, hfast⟩ := hrun.failFast
  have hended : (plan.run host processes .real s).value = Plan.ending (.ofFailure r) :=
    congrArg Plan.ending hvalue
  refine ⟨made, hrun.chain, hspawns, ?_, fun e => ?_, fun cause => ?_, fun hzero => ?_⟩
  · cases r with
    | none =>
      rintro rfl
      exact htasks hfast.1.symm
    | some r =>
      obtain ⟨passed, failed, rfl, -⟩ := hfast
      simp
  · rw [hended]
    exact Plan.ending_ne_escaped e
  · rw [← hrun.code_eq_error_iff]
    exact Plan.ending_eq_interrupted_iff
  · rw [hended, Plan.ending_eq_exited_iff] at hzero
    cases r with
    | none => exact hfast
    | some r => cases r <;> simp [Verdict.ofFailure, Verdict.code] at hzero

/-- All that has to be in order before a process is started: a command that works is asked for, the
configuration is loaded and resolved, the pipeline is built, and a build has its range of stages. -/
structure Cleared (host : Host) (words : List String) (command : Command) (choices : Choices)
    (config : Config) (pipeline : Pipeline) : Prop where
  asked : Asks words command choices
  works : command.Works choices
  loaded : choices.load host = .ok config
  built : Build.pipeline config = .ok pipeline
  range : command = .build →
    pipeline.InOrder (Choices.bound choices.start) (Choices.bound choices.stop)

theorem exists_cleared_iff {host : Host} {words : List String} {command : Command}
    {choices : Choices} (hasks : Asks words command choices) :
    (∃ command choices config pipeline, Cleared host words command choices config pipeline) ↔
      command.Works choices ∧ ∃ plan, command.plan host choices = .ok plan := by
  rw [Command.exists_plan_iff]
  constructor
  · rintro ⟨command', choices', config, pipeline, h⟩
    obtain ⟨rfl, rfl⟩ := hasks.unique h.asked
    exact ⟨h.works, config, pipeline, h.loaded, h.built, h.range⟩
  · rintro ⟨hworks, config, pipeline, hload, hpipeline, hrange⟩
    exact ⟨command, choices, config, pipeline, hasks, hworks, hload, hpipeline, hrange⟩

theorem run_of_cleared {host : Host} {words : List String} {command : Command}
    {choices : Choices} {config : Config} {pipeline : Pipeline}
    (h : Cleared host words command choices config pipeline) (processes : Processes σ) (s : σ) :
    ∃ selected, command.plan host choices = .ok ⟨config, pipeline, selected⟩ ∧
      (run host processes words s).1 =
        (Plan.mk config pipeline selected).run host processes .real s := by
  obtain ⟨hworks, plan, hplan⟩ := (exists_cleared_iff h.asked).mp ⟨_, _, _, _, h⟩
  obtain ⟨config', pipeline', selected⟩ := plan
  obtain ⟨hload, hpipeline, -⟩ := Command.plan_eq_ok_iff.mp hplan
  obtain rfl : config = config' := by simpa [h.loaded] using hload
  obtain rfl : pipeline = pipeline' := by simpa [h.built] using hpipeline
  refine ⟨selected, hplan, ?_⟩
  rw [run_of_asks h.asked]
  rcases Command.runFor_cases host processes command choices s with
    ⟨e, herror, -⟩ | ⟨plan, hplan', ⟨-, hreal⟩ | ⟨hidle, -⟩⟩
  · simp [hplan] at herror
  · obtain rfl : Plan.mk config pipeline selected = plan := by simpa [hplan] using hplan'
    exact hreal
  · exact absurd hworks hidle

theorem exists_worked_of_cleared {host : Host} {words : List String} {command : Command}
    {choices : Choices} {config : Config} {pipeline : Pipeline}
    (h : Cleared host words command choices config pipeline) (processes : Processes σ) (s : σ) :
    ∃ plan made, command.plan host choices = .ok plan ∧
      Worked host processes plan s made (run host processes words s).1 := by
  obtain ⟨selected, hplan, hrun⟩ := run_of_cleared h processes s
  obtain ⟨made, hmade⟩ := exists_worked_run hplan processes s
  exact ⟨_, made, hplan, hrun ▸ hmade⟩

/-- Without clearance a run that was to work does not exit with zero, and no run starts anything. -/
theorem still_of_not_cleared {host : Host} {words : List String}
    (h : ¬ ∃ command choices config pipeline, Cleared host words command choices config pipeline)
    (processes : Processes σ) (s : σ) :
    let ran := (run host processes words s).1
    ran.state = s ∧ ran.trace.spawns = [] ∧
      ∀ command choices, Asks words command choices → command.Works choices →
        ran.value ≠ .exited 0 := by
  intro ran
  rcases run_cases host processes words s with ⟨command, choices, hasks, hrun⟩ | ⟨hnone, hover⟩
  · rw [exists_cleared_iff hasks] at h
    have hran : ran = command.runFor host processes choices s := hrun
    rcases Command.runFor_cases host processes command choices s with
      ⟨e, -, hrefused⟩ | ⟨plan, hplan, ⟨hworks, -⟩ | ⟨hrests, hidle⟩⟩
    · rw [hran, hrefused, refused]
      split <;> exact ⟨rfl, rfl, by simp⟩
    · exact absurd ⟨hworks, plan, hplan⟩ h
    · rw [hran]
      refine ⟨hidle.state, hidle.spawns, fun command' choices' hasks' hworks' => ?_⟩
      obtain ⟨rfl, rfl⟩ := hasks.unique hasks'
      exact absurd hworks' hrests
  · have hidle := hover.idle
    exact ⟨hidle.state, hidle.spawns, fun command choices hasks => absurd hasks (hnone _ _)⟩

/-- Processes are started just when everything has been looked at and is in order. A run that works
and exits with zero has made an attempt on every task of every selected stage, and all passed. -/
theorem run_starts_iff_cleared (host : Host) (processes : Processes σ) (words : List String)
    (s : σ) :
    let ran := (run host processes words s).1
    ∃ made, Chain host processes s made ran.state ∧
      ran.trace.spawns = made.map (Attempt.spawn host) ∧
      (ran.trace.spawns ≠ [] ↔
        ∃ command choices config pipeline, Cleared host words command choices config pipeline) ∧
      (∀ e, ran.value = .escaped e → ran.trace.spawns = []) ∧
      ∀ command choices, Asks words command choices → command.Works choices →
        ran.value = .exited 0 → ∃ plan, command.plan host choices = .ok plan ∧
          made.map Attempt.task = plan.selected.flatMap Stage.tasks ∧
          ∀ a ∈ made, a.Passed := by
  intro ran
  by_cases hcleared : ∃ command choices config pipeline,
      Cleared host words command choices config pipeline
  · obtain ⟨command, choices, config, pipeline, h⟩ := hcleared
    obtain ⟨plan, made, hplan, hworked⟩ := exists_worked_of_cleared h processes s
    refine ⟨made, hworked.chain, hworked.spawns, ⟨fun _ => ⟨_, _, _, _, h⟩, fun _ => ?_⟩, ?_, ?_⟩
    · rw [hworked.spawns]
      simpa using hworked.started
    · exact fun e he => absurd he (hworked.notEscaped e)
    · intro command' choices' hasks _ hzero
      obtain ⟨rfl, rfl⟩ := h.asked.unique hasks
      exact ⟨plan, hplan, hworked.complete hzero⟩
  · obtain ⟨hstate, hspawns, hnonzero⟩ := still_of_not_cleared hcleared processes s
    refine ⟨[], hstate ▸ .nil _, hspawns, ⟨fun h => absurd hspawns h, fun h => absurd h hcleared⟩,
      fun _ _ => hspawns, ?_⟩
    intro command choices hasks hworks hzero
    exact absurd hzero (hnonzero command choices hasks hworks)

/-- A project without settings has a configuration and a pipeline, also when the words choose
stages or a rehearsal. -/
theorem exists_load_plain : ∃ c p, Build.pipeline c = .ok p ∧ ∀ choices : Choices,
    choices.config = none → choices.projectRoot = none → choices.load Host.plain = .ok c := by
  obtain ⟨tools, hresolve, -⟩ := Config.exists_resolve_plain .root rfl (by decide)
  have hbuilt := Build.pipeline_of_buildable (Config.buildable_usual .root tools)
  have hmissing : Host.plain.content? (Path.root / Config.usualFile) = none := by
    simp [Host.plain, Host.empty]
  have hsettings : Config.settings Host.plain none .root = .ok [] := by
    simp [Config.settings, hmissing]
  have hload : Config.load Host.plain none .root = .ok (Config.usual .root tools) :=
    bind_eq_ok_iff.mpr ⟨[], hsettings, hresolve⟩
  refine ⟨_, _, hbuilt, fun choices hconfig hroot => ?_⟩
  have hfile : choices.file? = .ok none := by
    rw [Choices.file?, hconfig]
  refine bind_eq_ok_iff.mpr ⟨none, hfile, ?_⟩
  rw [hroot]
  exact hload

/-- A project without settings is cleared for a build. -/
example : ∃ command choices config pipeline,
    Cleared Host.plain ["ios", "build"] command choices config pipeline := by
  obtain ⟨c, p, hbuilt, hload⟩ := exists_load_plain
  exact ⟨.build, {}, c, p, {
    asked := asks_build
    works := ⟨.inl rfl, rfl⟩
    loaded := hload {} rfl rfl
    built := hbuilt
    range := fun _ => ⟨by simp [Choices.bound], by simp [Choices.bound]⟩ }⟩

end FrameworkForge.CommandLine
