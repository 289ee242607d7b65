import FrameworkForge.Proofs.Build.Slots
import FrameworkForge.Proofs.Run.FailFast
import Mathlib.Data.List.Nodup

/-! What the processes of a build find in their environment. The overrides of a target reach its own
release build; all other processes have just what the build inherits. -/

namespace FrameworkForge

theorem Task.get?_environment (host : Host) (t : Task) (name : String) :
    (t.environment host).get? name = (t.overrides.get? name).or (host.environment.get? name) :=
  Table.get?_overlay _ _ name

theorem Task.environment_of_empty (host : Host) {t : Task} (h : t.overrides = .empty) :
    t.environment host = host.environment := by
  rw [Task.environment, h, Table.overlay_empty]

namespace Build

open Recipe

def releaseWords (c : Config) (target : Target) : List String :=
  [(c.tools.executable .cargo).path.text, "build", "--release", "--target=" ++ target.triple]

/-- The process has the environment that is due to it. When it is the release build of a target,
the overrides of the target come first and the inherited variables second; when it is no release
build, there are the inherited variables alone. -/
inductive Equips (c : Config) (inherited : Environment) : Option Target → Spawn → Prop
  | release {target : Target} {spawn : Spawn} (words : spawn.argv = releaseWords c target)
      (values : ∀ name,
        spawn.environment.get? name = (target.overrides.get? name).or (inherited.get? name)) :
      Equips c inherited (some target) spawn
  | other {spawn : Spawn}
      (words : ∀ target ∈ c.targets.targets, spawn.argv ≠ releaseWords c target)
      (values : spawn.environment = inherited) : Equips c inherited none spawn

/-- For each task of a stage, the target whose release build it is. -/
def buildsOf (c : Config) (stage : Stage) : List (Option Target) :=
  if stage.name = "release-builds" then c.targets.targets.map some
  else stage.tasks.map fun _ => none

theorem equips_of_buildsTarget {c : Config} {target : Target} {t : Task}
    (h : BuildsTarget c target t) (host : Host) :
    Equips c host.environment (some target) (t.spawn host) := by
  refine .release ?_ fun name => ?_
  · simp [Task.spawn, Task.argv, h.executable, h.arguments, releaseWords]
  · rw [← h.overrides]
    exact t.get?_environment host name

/-- Outside of the release builds nothing is overridden, and nothing looks like one of them. -/
theorem plain_of_mem_stages (c : Config) : ∀ stage ∈ stages c, stage.name ≠ "release-builds" →
    ∀ t ∈ stage.tasks, t.overrides = .empty ∧
      ∀ triple, t.arguments ≠ ["build", "--release", "--target=" ++ triple] := by
  simp [stages, preflight, registerTargets, clean, remove, cargoClean, clearCache, outputDir,
    makeDirectory, debugStage, debugBuild, bindgen, generateBindings, releaseBuilds, moduleMap,
    renameModuleMap, mergeSlices, merging, xcframework, packaging, compressStage, compress,
    checksumStage, checksum]

/-- No other stage has the name of the release builds. -/
theorem eq_releaseBuilds {c : Config} {stage : Stage} (h : stage ∈ stages c)
    (hname : stage.name = "release-builds") : stage = releaseBuilds c :=
  List.inj_on_of_nodup_map (nodup_names_stages c) h (by simp [stages]) hname

theorem forall₂_equips_stage (c : Config) (host : Host) {stage : Stage} (h : stage ∈ stages c) :
    List.Forall₂ (fun target? t => Equips c host.environment target? (Task.spawn host t))
      (buildsOf c stage) stage.tasks := by
  rw [buildsOf]
  split
  · next hname =>
    rw [eq_releaseBuilds h hname, List.forall₂_map_left_iff]
    exact (forall₂_releaseBuilds c).imp fun _ _ hbuilds => equips_of_buildsTarget hbuilds host
  · next hname =>
    rw [List.forall₂_map_left_iff, List.forall₂_same]
    intro t ht
    obtain ⟨hempty, hwords⟩ := plain_of_mem_stages c stage h hname t ht
    refine .other (fun target _ heq => ?_) (Task.environment_of_empty host hempty)
    exact hwords target.triple (List.cons.inj heq).2

theorem forall₂_equips (c : Config) (host : Host) {selected : List Stage}
    (h : selected ⊆ stages c) :
    List.Forall₂ (fun target? t => Equips c host.environment target? (Task.spawn host t))
      (selected.flatMap (buildsOf c)) (selected.flatMap Stage.tasks) := by
  induction selected with
  | nil => exact .nil
  | cons stage selected ih =>
    have hstage := forall₂_equips_stage c host (h List.mem_cons_self)
    exact List.rel_append hstage (ih (List.subset_of_cons_subset h))

variable {σ : Type}

/-- The processes that a run starts have the environments due to them, whatever was started before
them and whether they start or not. -/
structure Equipped (c : Config) (host : Host) (processes : Processes σ) (selected : List Stage)
    (s : σ) (ran : Ran σ Verdict) (made : List Attempt) (builds : List (Option Target)) : Prop where
  chain : Chain host processes s made ran.state
  spawns : ran.trace.spawns = made.map (Attempt.spawn host)
  inOrder : builds <+: selected.flatMap (buildsOf c)
  equips : List.Forall₂ (fun target? a => Equips c host.environment target? (Attempt.spawn host a))
    builds made

theorem equipped_of_executed {c : Config} {p : Pipeline} {host : Host} {processes : Processes σ}
    {selected : List Stage} {s : σ} {made : List Attempt} {ran : Ran σ Verdict}
    (hselected : selected ⊆ stages c)
    (h : Pipeline.Executed p host processes selected s made ran) :
    ∃ builds, Equipped c host processes selected s ran made builds := by
  have hall := forall₂_equips c host hselected
  have htake := List.prefix_iff_eq_take.mp h.prefix_tasks
  have hmade := List.forall₂_take made.length hall
  rw [List.length_map] at htake
  rw [← htake, List.forall₂_map_right_iff] at hmade
  exact ⟨_, h.chain, h.spawns, List.take_prefix _ _, hmade⟩

/-- In a run of any stages of a build the overrides of a target are seen by its release build and by
no other process. -/
theorem runStages_equips {c : Config} {p : Pipeline} (hp : pipeline c = .ok p) (host : Host)
    (processes : Processes σ) {selected : List Stage} (hselected : selected ⊆ p.stages) (mode : Mode)
    (s : σ) :
    ∃ made builds, Equipped c host processes selected s
      (p.runStages host processes mode selected s) made builds := by
  cases mode with
  | rehearsal => exact ⟨[], [], .nil s, rfl, List.nil_prefix, .nil⟩
  | real =>
    obtain ⟨made, h⟩ := Pipeline.exists_executed_runReal p host processes selected hselected s
    exact ⟨made, equipped_of_executed (stages_of_pipeline hp ▸ hselected) h⟩

/-- The release builds of a project without settings, on a machine that sets the variable which the
device overrides, and processes that exit with the number of those before them. -/
theorem runStages_equips_usual :
    let host := { Host.plain with
      environment := .ofList [("HOME", "/home/dev"), ("IPHONEOS_DEPLOYMENT_TARGET", "12.0")] }
    ∃ c p selected, Config.resolve Host.plain .null (Path.parse "/project") = .ok c ∧
      pipeline c = .ok p ∧ selected ⊆ p.stages ∧ selected = [releaseBuilds c] ∧
      ∃ made builds, Equipped c host .counting selected 0
        (p.runStages host .counting .real selected 0) made builds := by
  intro host
  obtain ⟨tools, hc, -⟩ := Config.exists_resolve_plain (Path.parse "/project") rfl (by decide)
  let c := Config.usual (Path.parse "/project") tools
  have hp := pipeline_of_buildable (Config.buildable_usual (Path.parse "/project") tools)
  have hselected : [releaseBuilds c] ⊆ stages c := by simp [stages]
  exact ⟨c, _, _, hc, hp, hselected, rfl, runStages_equips hp host .counting hselected .real 0⟩

end Build

end FrameworkForge
