import FrameworkForge.Proofs.Build.Environments
import FrameworkForge.Proofs.Build.Libraries
import FrameworkForge.Proofs.Target.Reading

/-! What the builds of the targets find of the overrides that the settings give them: texts of the
settings, as they stand there. -/

namespace FrameworkForge.Build

open Config

/-- The process finds the overrides of the entry, which are texts, before what it inherits. -/
inductive Carries (inherited : Environment) : Value → Spawn → Prop
  | entry {entries : Value.Entries} {identity : Option Nat} {spawn : Spawn}
      (quoted : ∀ override ∈ Target.overrideEntries entries, override.2.isText = true)
      (values : ∀ name, spawn.environment.get? name =
        ((Target.overrideEntries entries).lastText? name).or (inherited.get? name)) :
      Carries inherited (.map entries identity) spawn

theorem carries_of_describes {inherited : Environment} {item : Value} {target : Target}
    {spawn : Spawn} (hitem : Target.Describes item target) (h : ∀ name,
      spawn.environment.get? name = (target.overrides.get? name).or (inherited.get? name)) :
    Carries inherited item spawn := by
  cases hitem with
  | entry _ _ _ quoted overrides => exact .entry quoted fun name => by rw [h, overrides]

/-- The release builds carry the overrides of the items one by one, and no process of a run has
overrides of anything else. -/
structure PassesOverrides (items : List Value) (p : Pipeline) : Prop where
  builds : ∀ host : Host, List.Forall₂ (Carries host.environment) items
    ((p.tasksOf "release-builds").map (Task.spawn host))
  processes : ∀ (σ : Type) (host : Host) (processes : Processes σ) (mode : Mode) (s : σ)
    (selected : List Stage), selected ⊆ p.stages →
      ∀ spawn ∈ (p.runStages host processes mode selected s).trace.spawns,
        spawn.environment = host.environment ∨ ∃ item ∈ items, Carries host.environment item spawn

/-- Every process that a run starts is that of a task of the pipeline. -/
theorem exists_spawn_of_run {σ : Type} {p : Pipeline} {host : Host} {processes : Processes σ}
    {mode : Mode} {s : σ} {selected : List Stage} (hselected : selected ⊆ p.stages) {spawn : Spawn}
    (h : spawn ∈ (p.runStages host processes mode selected s).trace.spawns) :
    ∃ stage ∈ p.stages, ∃ t ∈ stage.tasks, spawn = t.spawn host := by
  cases mode with
  | rehearsal => cases h
  | real =>
    obtain ⟨made, hmade⟩ := Pipeline.exists_executed_runReal p host processes selected hselected s
    have hspawn : spawn ∈ made.map (Attempt.spawn host) := hmade.spawns ▸ h
    obtain ⟨a, ha, rfl⟩ := List.mem_map.mp hspawn
    have htask := hmade.prefix_tasks.subset (List.mem_map_of_mem ha)
    obtain ⟨stage, hstage, ht⟩ := List.mem_flatMap.mp htask
    exact ⟨stage, hselected hstage, a.task, ht, rfl⟩

theorem passesOverrides {c : Config} {p : Pipeline} (hp : pipeline c = .ok p) {items : List Value}
    (h : items.mapM Target.ofValue = .ok c.targets.targets) : PassesOverrides items p where
  builds host := by
    rw [tasksOf_releaseBuilds hp, List.map_map, List.forall₂_map_right_iff]
    refine (Checks.mapM_eq_ok_iff.mp h).imp fun item target hread => ?_
    exact carries_of_describes (Target.describes_of_ofValue hread) (Task.get?_environment host _)
  processes σ host processes mode s selected hselected spawn hspawn := by
    obtain ⟨stage, hstage, t, ht, rfl⟩ := exists_spawn_of_run hselected hspawn
    rw [stages_of_pipeline hp] at hstage
    by_cases hname : stage.name = "release-builds"
    · rw [eq_releaseBuilds hstage hname, releaseBuilds] at ht
      obtain ⟨target, htarget, rfl⟩ := List.mem_map.mp ht
      obtain ⟨item, hitem, hread⟩ := (Checks.mem_iff_of_mapM h target).mp htarget
      refine .inr ⟨item, hitem, ?_⟩
      exact carries_of_describes (Target.describes_of_ofValue hread) (Task.get?_environment host _)
    · obtain ⟨hempty, -⟩ := plain_of_mem_stages c stage hstage hname t ht
      exact .inl (Task.environment_of_empty host hempty)

/-- An entry is read as the target that it describes, or refused for a reason; and when a
configuration is built, the builds of its targets find the texts of the entries. -/
theorem overrides_arrive :
    (∀ entry, Target.Reads entry) ∧
      ∀ (host : Host) (data : Value) (projectRoot : Path) (entries : Value.Entries) (c : Config)
        (p : Pipeline) (v : Value), data.settings = .ok entries → Given entries .targets v →
        resolve host data projectRoot = .ok c → pipeline c = .ok p →
          ∃ items identity, v = .list items identity ∧ PassesOverrides items p := by
  refine ⟨Target.reads, fun host data projectRoot entries c p v hsettings hv hc hp => ?_⟩
  have h := (resolved_iff_of_settings hsettings).mp hc
  obtain ⟨items, identity, rfl, hread⟩ := mapM_of_targetList h.targets hv
  exact ⟨items, identity, rfl, passesOverrides hp hread⟩

theorem overrides_arrive_usual :
    let device : Target := ⟨"device-arm64", "aarch64-apple-ios", .device,
      .ofList [("IPHONEOS_DEPLOYMENT_TARGET", "17.0")]⟩
    Target.ofValue device.entry = .ok device ∧ Target.Describes device.entry device ∧
      ∃ c p, resolve Host.plain (.map (targetSettings .defaults) none) (Path.parse "/project") =
          .ok c ∧ pipeline c = .ok p ∧ device.entry ∈ Target.defaults.map Target.entry ∧
        PassesOverrides (Target.defaults.map Target.entry) p := by
  intro device
  obtain ⟨hreads, harrive⟩ := overrides_arrive
  have hdevice : Target.ofValue device.entry = .ok device :=
    Target.ofValue_entry (by decide) (by decide)
  have hnames : ∀ t ∈ TargetList.defaults.targets, t.name ≠ "" ∧ t.triple ≠ "" := by decide
  obtain ⟨tools, hc⟩ := exists_resolve_targets (Path.parse "/project") rfl (by decide) hnames
  have hp := pipeline_of_buildable (buildable_usual (Path.parse "/project") tools)
  have hgiven : Given (targetSettings .defaults) .targets
      (.list (Target.defaults.map Target.entry) none) := ⟨rfl, nofun⟩
  obtain ⟨items, identity, hitems, hpasses⟩ := harrive _ _ _ _ _ _ _ rfl hgiven hc hp
  cases hitems
  refine ⟨hdevice, (hreads device.entry).describes device hdevice, _, _, hc, hp, ?_, hpasses⟩
  exact List.mem_map_of_mem (List.mem_cons_of_mem _ List.mem_cons_self)

end FrameworkForge.Build
