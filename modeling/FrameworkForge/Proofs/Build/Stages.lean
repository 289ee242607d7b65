import FrameworkForge.Build
import FrameworkForge.Proofs.Config.Resolved

/-! The stages of a build, said without the checks before them, and what the checks are. -/

namespace FrameworkForge.Build

open Checks Recipe

def stages (c : Config) : List Stage :=
  [preflight c, clean c, cargoClean c, outputDir c, debugStage c, bindgen c, releaseBuilds c,
    moduleMap c (c.bindingsDir / c.moduleMapName.plain),
    mergeSlices c (merging (simulatorLibraries c) c.mergedLibrary c.root),
    xcframework c (packaging [c.mergedLibrary, deviceLibrary c] c.bindingsDir
      (c.outputDir / c.framework) c.root),
    compressStage c, checksumStage c]

/-- What the checks before a build ask of a configuration. -/
structure Buildable (c : Config) : Prop where
  writable : ∀ v ∈ c.names, v.isWritable = true
  moduleMapName : c.moduleMapName.isText = true
  libraries : (simulatorLibraries c).Nodup

theorem names_stages (c : Config) : (stages c).map Stage.name =
    ["preflight", "clean", "cargo-clean", "output-dir", "debug-build", "bindgen",
      "release-builds", "modulemap", "merge-slices", "xcframework", "compress", "checksum"] :=
  rfl

theorem nodup_names_stages (c : Config) : ((stages c).map Stage.name).Nodup := by
  rw [names_stages]
  decide

theorem simulatorLibraries_ne_nil (c : Config) : simulatorLibraries c ≠ [] := by
  simpa [simulatorLibraries, TargetList.simulators] using c.targets.someSimulator

theorem mergeLibraries_eq_ok_iff {inputs : List Path} (hne : inputs ≠ []) {output root : Path}
    {recipe : Recipe} :
    mergeLibraries inputs output root = .ok recipe ↔
      inputs.Nodup ∧ merging inputs output root = recipe := by
  rw [mergeLibraries, if_neg hne]
  split <;> simp_all

theorem pipeline_eq_ok_iff {c : Config} {p : Pipeline} :
    pipeline c = .ok p ↔ Buildable c ∧ p.stages = stages c := by
  have hlibraries := simulatorLibraries_ne_nil c
  have hnames := nodup_names_stages c
  constructor
  · intro h
    obtain ⟨_, hwritable, h⟩ := bind_eq_ok_iff.mp h
    obtain ⟨dest, hdest, h⟩ := bind_eq_ok_iff.mp h
    obtain ⟨merge, hmerge, h⟩ := bind_eq_ok_iff.mp h
    obtain ⟨package, hpackage, h⟩ := bind_eq_ok_iff.mp h
    obtain ⟨htext, -, rfl⟩ := Config.fileIn_eq_ok_iff.mp hdest
    obtain ⟨hnodup, rfl⟩ := (mergeLibraries_eq_ok_iff hlibraries).mp hmerge
    cases hpackage
    have hstages : Pipeline.ofStages (stages c) = .ok p := h
    rw [Pipeline.ofStages, dif_pos hnames] at hstages
    cases hstages
    refine ⟨⟨?_, htext, hnodup⟩, rfl⟩
    exact fun v hv => Value.checkWritable_eq_ok_iff.mp (forM_eq_ok_iff.mp hwritable v hv)
  · rintro ⟨⟨hwritable, htext, hnodup⟩, hstages⟩
    refine bind_eq_ok_iff.mpr ⟨(), forM_eq_ok_iff.mpr fun v hv =>
      Value.checkWritable_eq_ok_iff.mpr (hwritable v hv), ?_⟩
    have hmap : c.moduleMapName ∈ c.names := by simp [Config.names]
    refine bind_eq_ok_iff.mpr ⟨_, Config.fileIn_eq_ok_iff.mpr ⟨htext, hwritable _ hmap, rfl⟩, ?_⟩
    refine bind_eq_ok_iff.mpr ⟨_, (mergeLibraries_eq_ok_iff hlibraries).mpr ⟨hnodup, rfl⟩, ?_⟩
    refine bind_eq_ok_iff.mpr ⟨_, rfl, ?_⟩
    change Pipeline.ofStages (stages c) = .ok p
    rw [Pipeline.ofStages, dif_pos hnames]
    obtain ⟨_, _⟩ := p
    cases hstages
    rfl

theorem pipeline_of_buildable {c : Config} (h : Buildable c) :
    pipeline c = .ok ⟨stages c, nodup_names_stages c⟩ :=
  pipeline_eq_ok_iff.mpr ⟨h, rfl⟩

theorem exists_pipeline_iff {c : Config} : (∃ p, pipeline c = .ok p) ↔ Buildable c :=
  ⟨fun ⟨_, hp⟩ => (pipeline_eq_ok_iff.mp hp).1, fun h => ⟨_, pipeline_of_buildable h⟩⟩

theorem stages_of_pipeline {c : Config} {p : Pipeline} (h : pipeline c = .ok p) :
    p.stages = stages c :=
  (pipeline_eq_ok_iff.mp h).2

theorem stages_ne_nil {c : Config} {p : Pipeline} (hp : pipeline c = .ok p) : p.stages ≠ [] := by
  simp [stages_of_pipeline hp, stages]

theorem tasks_ne_nil (c : Config) : ∀ stage ∈ stages c, stage.tasks ≠ [] := by
  have htargets : c.targets.targets ≠ [] := by
    intro hnil
    exact c.targets.someSimulator (by simp [hnil, Target.simulators])
  simp [stages, preflight, clean, cargoClean, outputDir, debugStage, bindgen, releaseBuilds,
    moduleMap, mergeSlices, xcframework, compressStage, checksumStage, htargets]

end FrameworkForge.Build
