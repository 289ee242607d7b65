import FrameworkForge.Proofs.Build.Completion
import FrameworkForge.Proofs.Build.Jobs

/-! The stages whose end is a finished framework: its making, its archive and the checksum. A range
of stages leaves none of them out when it goes to the end and does not start too late. -/

namespace FrameworkForge

namespace Task

/-- The first argument of a call that has three at least. -/
def verb? (t : Task) : Option String :=
  if 3 ≤ t.arguments.length then t.arguments.head? else none

end Task

namespace Build

open Recipe

/-- The stages that make the framework, its archive and the checksum. -/
def finishers : List String :=
  ["xcframework", "compress", "checksum"]

/-- The verbs of those tasks that have one, by their stages. -/
def verbs : List (String × String) :=
  [("preflight", "target"), ("release-builds", "build"), ("bindgen", "run"),
    ("merge-slices", "-create"), ("xcframework", "-create-xcframework"), ("compress", "-r"),
    ("checksum", "package")]

theorem mem_verbs_of_mem (c : Config) : ∀ stage ∈ stages c, ∀ t ∈ stage.tasks,
    ∀ verb, t.verb? = some verb → (stage.name, verb) ∈ verbs := by
  simp [stages, preflight, clean, cargoClean, outputDir, debugStage, bindgen, releaseBuilds,
    moduleMap, mergeSlices, xcframework, compressStage, checksumStage, registerTargets, remove,
    clearCache, makeDirectory, debugBuild, generateBindings, releaseBuild, renameModuleMap, merging,
    packaging, compress, checksum, Task.verb?, verbs]

/-- A verb belongs to one stage. -/
theorem eq_of_mem_verbs {stage stage' verb : String} (h : (stage, verb) ∈ verbs)
    (h' : (stage', verb) ∈ verbs) : stage = stage' := by
  have hall : ∀ entry ∈ verbs, ∀ entry' ∈ verbs, entry.2 = entry'.2 → entry.1 = entry'.1 := by
    decide
  exact hall _ h _ h' rfl

variable {c : Config} {p : Pipeline}

theorem exists_finisher (hp : pipeline c = .ok p) : ∀ name ∈ finishers,
    ∃ stage ∈ p.stages, ∃ t verb tool, stage.name = name ∧ stage.tasks = [t] ∧
      t.verb? = some verb ∧ Calls c tool t ∧ tool ∉ Tool.tolerant := by
  let package := xcframework c (packaging [c.mergedLibrary, deviceLibrary c] c.bindingsDir
    (c.outputDir / c.framework) c.root)
  rw [stages_of_pipeline hp]
  simp only [finishers, List.forall_mem_cons]
  exact ⟨⟨package, by simp [stages, package], _, "-create-xcframework", .xcodebuild, rfl, rfl, rfl,
      ⟨rfl, rfl⟩, by decide⟩,
    ⟨compressStage c, by simp [stages], _, "-r", .zip, rfl, rfl, rfl, ⟨rfl, rfl⟩, by decide⟩,
    ⟨checksumStage c, by simp [stages], _, "package", .swift, rfl, rfl, rfl, ⟨rfl, rfl⟩,
      by decide⟩, nofun⟩

/-- Among the attempts is one on the task of each stage that finishes the framework, and its process
exited with zero. -/
def Finished (p : Pipeline) (made : List Attempt) : Prop :=
  ∀ name ∈ finishers, ∃ t, p.tasksOf name = [t] ∧ ∃ a ∈ made, a.task = t ∧ a.outcome = .exited 0

/-- Where all tasks of the selected stages have passed, the framework is finished when the stages
that finish it are among them. -/
theorem finished_iff (hp : pipeline c = .ok p) {selected : List Stage}
    (hsub : selected ⊆ p.stages) {made : List Attempt}
    (htasks : made.map Attempt.task = selected.flatMap Stage.tasks)
    (hpassed : ∀ a ∈ made, a.Passed) :
    Finished p made ↔ ∀ name ∈ finishers, name ∈ selected.map Stage.name := by
  refine forall₂_congr fun name hname => ?_
  obtain ⟨stage, hstage, t, verb, tool, rfl, hsingle, hverb, hcalls, htool⟩ :=
    exists_finisher hp name hname
  have htask : p.tasksOf stage.name = [t] := (Pipeline.tasksOf_name hstage).trans hsingle
  have hzero (a : Attempt) (ha : a ∈ made) (heq : a.task = t) : a.outcome = .exited 0 := by
    have hgoes := (passed_iff_goesOn (heq ▸ hcalls)).mp (hpassed a ha)
    simpa [Tool.GoesOn, htool] using hgoes
  have hattempted : (∃ a ∈ made, a.task = t ∧ a.outcome = .exited 0) ↔
      ∃ other ∈ selected, t ∈ other.tasks := by
    rw [← List.mem_flatMap, ← htasks, List.mem_map]
    refine exists_congr fun a => and_congr_right fun ha => ?_
    exact and_iff_left_of_imp (hzero a ha)
  simp only [htask, List.cons.injEq, and_true, exists_eq_left', hattempted, List.mem_map]
  refine exists_congr fun other => and_congr_right fun hother => ?_
  have hverbs (stage : Stage) (h : stage ∈ p.stages) (ht : t ∈ stage.tasks) :
      (stage.name, verb) ∈ verbs :=
    mem_verbs_of_mem c stage (stages_of_pipeline hp ▸ h) t ht verb hverb
  constructor
  · intro ht
    exact eq_of_mem_verbs (hverbs other (hsub hother) ht) (hverbs stage hstage (by simp [hsingle]))
  · intro heq
    have hsame : other = stage := List.inj_on_of_nodup_map p.distinct (hsub hother) hstage heq
    simp [hsame, hsingle]

/-- The range of a build ends with the last stage, and starts with none of the two before whose end
there is no framework. -/
structure KeepsFinishers (start stop : Option String) : Prop where
  start : ∀ name, start = some name → name ≠ "compress" ∧ name ≠ "checksum"
  stop : ∀ name, stop = some name → name = "checksum"

def stageNames : List String :=
  ["preflight", "clean", "cargo-clean", "output-dir", "debug-build", "bindgen", "release-builds",
    "modulemap", "merge-slices", "xcframework", "compress", "checksum"]

theorem names_pipeline (hp : pipeline c = .ok p) : p.names = stageNames := by
  rw [Pipeline.names, stages_of_pipeline hp]
  exact names_stages c

theorem firstOf_le_iff (hp : pipeline c = .ok p) {start : Option String}
    (hknown : ∀ name, start = some name → name ∈ p.names) : p.firstOf start ≤ 10 ↔
      ∀ name, start = some name → name ≠ "compress" ∧ name ≠ "checksum" := by
  rw [names_pipeline hp] at hknown
  cases start with
  | none => simp [Pipeline.firstOf]
  | some name =>
    have hplaces : ∀ name ∈ stageNames, stageNames.idxOf name + 1 ≤ 10 ↔
        name ≠ "compress" ∧ name ≠ "checksum" := by decide
    simpa [Pipeline.firstOf, Pipeline.position, names_pipeline hp] using
      hplaces name (hknown name rfl)

theorem le_lastOf_iff (hp : pipeline c = .ok p) {stop : Option String}
    (hknown : ∀ name, stop = some name → name ∈ p.names) : 12 ≤ p.lastOf stop ↔
      ∀ name, stop = some name → name = "checksum" := by
  rw [names_pipeline hp] at hknown
  cases stop with
  | none => simp [Pipeline.lastOf, stages_of_pipeline hp, stages]
  | some name =>
    have hplaces : ∀ name ∈ stageNames, 12 ≤ stageNames.idxOf name + 1 ↔ name = "checksum" := by
      decide
    simpa [Pipeline.lastOf, Pipeline.position, names_pipeline hp] using
      hplaces name (hknown name rfl)

theorem finishers_selected_iff (hp : pipeline c = .ok p) {start stop : Option String}
    {selected : List Stage} (h : p.select start stop = .ok selected) :
    (∀ name ∈ finishers, name ∈ selected.map Stage.name) ↔ KeepsFinishers start stop := by
  obtain ⟨hknown, -, -⟩ := Pipeline.select_eq_ok_iff.mp h
  have hplace (name : String) (n : Nat) (hname : name ∈ stageNames)
      (hn : stageNames.idxOf name + 1 = n) :
      name ∈ selected.map Stage.name ↔ p.firstOf start ≤ n ∧ n ≤ p.lastOf stop := by
    rw [Pipeline.mem_names_select_iff h (names_pipeline hp ▸ hname), Pipeline.position,
      names_pipeline hp, hn]
  have hbounds : (∀ name ∈ finishers, name ∈ selected.map Stage.name) ↔
      p.firstOf start ≤ 10 ∧ 12 ≤ p.lastOf stop := by
    simp only [finishers, List.forall_mem_cons, hplace "xcframework" 10 (by decide) (by decide),
      hplace "compress" 11 (by decide) (by decide), hplace "checksum" 12 (by decide) (by decide)]
    simp only [List.not_mem_nil, false_imp_iff, implies_true, and_true]
    omega
  rw [hbounds, firstOf_le_iff hp fun name hname => hknown name (.inl hname),
    le_lastOf_iff hp fun name hname => hknown name (.inr hname)]
  exact ⟨fun h => ⟨h.1, h.2⟩, fun h => ⟨h.start, h.stop⟩⟩

end Build

end FrameworkForge
