import FrameworkForge.Proofs.Build.Slots
import FrameworkForge.Proofs.Config.Targets
import FrameworkForge.Proofs.Packaging.Layout
import Mathlib.Data.List.Nodup

/-! Which targets leave their libraries at one place. That is so when their triples name one
folder, which triples with different texts can do; merging finds it out among the simulators, and
nothing finds it out between a simulator and the device. -/

namespace FrameworkForge

namespace TargetList

theorem mem_targets_iff (list : TargetList) {t : Target} :
    t ∈ list.targets ↔ t ∈ list.simulators ∨ t = list.device := by
  rw [← list.perm_simulators_device.mem_iff]
  simp

theorem ne_device_of_mem_simulators {list : TargetList} {t : Target} (h : t ∈ list.simulators) :
    t ≠ list.device := by
  have hdevice : list.device ∈ Target.devices list.targets := by simp [list.devices_eq]
  have hplatform : t.platform = .simulator := by simpa using (List.mem_filter.mp h).2
  rintro rfl
  simp [Target.devices, hplatform] at hdevice

theorem nodup_simulators (list : TargetList) : list.simulators.Nodup :=
  (List.Nodup.of_map _ list.distinctTriples).filter _

end TargetList

namespace Config

variable {c : Config} {t t' : Target}

/-- Where the builds of a target leave what they make. -/
def folderOf (c : Config) (t : Target) : Path :=
  c.targetDir / t.triple

/-- No target leaves its library where another one does. -/
def PartsTargets (c : Config) : Prop :=
  ∀ t ∈ c.targets.targets, ∀ t' ∈ c.targets.targets, t ≠ t' → c.libraryOf t ≠ c.libraryOf t'

theorem lead_staticLibrary (crate : String) :
    (Path.parse (Artifact.staticLibrary crate)).lead = .relative := by
  show Path.leadOf ("lib" ++ crate ++ ".a").toList = .relative
  simp [Path.leadOf]

theorem libraryOf_eq_iff : c.libraryOf t = c.libraryOf t' ↔ c.folderOf t = c.folderOf t' := by
  constructor
  · intro h
    have hprofile : c.folderOf t / "release" = c.folderOf t' / "release" :=
      Path.join_right_cancel (lead_staticLibrary c.crate.plain) h
    exact Path.join_right_cancel (by decide) hprofile
  · intro h
    show c.folderOf t / "release" / _ = c.folderOf t' / "release" / _
    rw [h]

theorem nodup_libraries_iff {targets : List Target} (h : targets.Nodup) :
    (targets.map c.libraryOf).Nodup ↔
      ∀ t ∈ targets, ∀ t' ∈ targets, c.folderOf t = c.folderOf t' → t = t' := by
  simp only [List.nodup_map_iff_inj_on h, libraryOf_eq_iff]

theorem partsTargets_iff_of_nodup (h : (c.targets.simulators.map c.libraryOf).Nodup) :
    c.PartsTargets ↔ c.libraryOf c.targets.device ∉ c.targets.simulators.map c.libraryOf := by
  constructor
  · intro hparts hmem
    obtain ⟨t, ht, hsame⟩ := List.mem_map.mp hmem
    have htarget : t ∈ c.targets.targets := c.targets.mem_targets_iff.mpr (.inl ht)
    have hdevice : c.targets.device ∈ c.targets.targets :=
      c.targets.mem_targets_iff.mpr (.inr rfl)
    exact hparts t htarget _ hdevice (TargetList.ne_device_of_mem_simulators ht) hsame
  · intro hnot t ht t' ht' hne hsame
    rcases c.targets.mem_targets_iff.mp ht with ht | rfl <;>
      rcases c.targets.mem_targets_iff.mp ht' with ht' | rfl
    · exact hne (List.inj_on_of_nodup_map h ht ht' hsame)
    · exact hnot (hsame ▸ List.mem_map_of_mem ht)
    · exact hnot (hsame ▸ List.mem_map_of_mem ht')
    · exact hne rfl

/-- Triples that are names of single folders keep the targets apart. -/
theorem partsTargets_of_fileNames (h : ∀ t ∈ c.targets.targets, IsFileName t.triple) :
    c.PartsTargets := by
  intro t ht t' ht' hne hsame
  have hfolder : c.targetDir / t.triple = c.targetDir / t'.triple := libraryOf_eq_iff.mp hsame
  rw [Path.div_eq_join, Path.div_eq_join, (h t ht).parse_eq, (h t' ht').parse_eq] at hfolder
  have hparsed := Path.join_left_cancel rfl rfl hfolder
  have htriple : t.triple = t'.triple := by
    simpa [IsFileName.component] using congrArg Path.parts hparsed
  exact hne (List.inj_on_of_nodup_map c.targets.distinctTriples ht ht' htriple)

end Config

namespace Build

open Config

/-- In a build that can be made, simulators never leave their libraries at one place. The targets
are apart unless a simulator and the device have one folder. -/
theorem partsTargets_iff {host : Host} {data : Value} {projectRoot : Path} {c : Config}
    {p : Pipeline} (hc : Config.resolve host data projectRoot = .ok c) (hp : pipeline c = .ok p) :
    ∃ device inputs, Target.devices c.targets.targets = [device] ∧
      p.jobsOf c.tools .lipo "merge-slices" = [some (.merge inputs c.mergedLibrary)] ∧
      p.jobsOf c.tools .xcodebuild "xcframework" =
        [some (.package [(c.mergedLibrary, c.bindingsDir), (c.libraryOf device, c.bindingsDir)]
          c.container)] ∧
      inputs = (Target.simulators c.targets.targets).map c.libraryOf ∧ inputs.Nodup ∧
      (c.PartsTargets ↔ c.libraryOf device ∉ inputs) ∧
      (c.libraryOf device ∈ inputs ↔
        ∃ t ∈ Target.simulators c.targets.targets, c.folderOf t = c.folderOf device) := by
  obtain ⟨entries, -, h⟩ := resolve_eq_ok_iff.mp hc
  have hmerged := (jobsOf_stage hp (by simp [stages]) .lipo).trans (jobs_mergeSlices h)
  have hpackaged := (jobsOf_stage hp (by simp [stages]) .xcodebuild).trans (jobs_xcframework h)
  have hnodup : (c.targets.simulators.map c.libraryOf).Nodup :=
    (pipeline_eq_ok_iff.mp hp).1.libraries
  refine ⟨c.targets.device, _, c.targets.devices_eq, hmerged, hpackaged, rfl, hnodup,
    partsTargets_iff_of_nodup hnodup, ?_⟩
  show c.libraryOf c.targets.device ∈ c.targets.simulators.map c.libraryOf ↔ _
  simp only [List.mem_map, libraryOf_eq_iff]
  rfl

theorem partsTargets_iff_usual :
    ∃ c p, Config.resolve Host.plain .null (Path.parse "/project") = .ok c ∧ pipeline c = .ok p ∧
      c.PartsTargets ∧
      ∃ device inputs, Target.devices c.targets.targets = [device] ∧
        p.jobsOf c.tools .lipo "merge-slices" = [some (.merge inputs c.mergedLibrary)] ∧
        p.jobsOf c.tools .xcodebuild "xcframework" =
          [some (.package [(c.mergedLibrary, c.bindingsDir), (c.libraryOf device, c.bindingsDir)]
            c.container)] ∧
        inputs = (Target.simulators c.targets.targets).map c.libraryOf ∧ inputs.Nodup ∧
        (c.PartsTargets ↔ c.libraryOf device ∉ inputs) ∧
        (c.libraryOf device ∈ inputs ↔
          ∃ t ∈ Target.simulators c.targets.targets, c.folderOf t = c.folderOf device) := by
  obtain ⟨tools, hc, -⟩ := exists_resolve_plain (Path.parse "/project") rfl (by decide)
  have hp := pipeline_of_buildable (buildable_usual (Path.parse "/project") tools)
  have htriples : ∀ t ∈ Target.defaults, IsFileName t.triple := by decide +kernel
  exact ⟨_, _, hc, hp, partsTargets_of_fileNames htriples, partsTargets_iff hc hp⟩

theorem buildable_usualFor {root : Path} {tools : Toolbox} {list : TargetList}
    (h : (simulatorLibraries (usualFor root tools list)).Nodup) :
    Buildable (usualFor root tools list) where
  writable := (buildable_usual root tools).writable
  moduleMapName := (buildable_usual root tools).moduleMapName
  libraries := h

/-- A simulator and a device whose triples differ as texts and name one folder. -/
def crossedTargets : TargetList where
  targets := [⟨"simulator-arm64", "aarch64-apple-ios", .simulator, .empty⟩,
    ⟨"device-arm64", "./aarch64-apple-ios", .device, .empty⟩]
  distinctNames := by decide
  distinctTriples := by decide
  oneDevice := by decide
  someSimulator := by decide

/-- One library is packaged twice, as the simulators' and as the device's. -/
theorem not_partsTargets_of_crossed_triples :
    ∃ c p library, Config.resolve Host.plain (.map (targetSettings crossedTargets) none)
        (Path.parse "/work") = .ok c ∧ pipeline c = .ok p ∧ ¬ c.PartsTargets ∧
      p.jobsOf c.tools .lipo "merge-slices" = [some (.merge [library] c.mergedLibrary)] ∧
      p.jobsOf c.tools .xcodebuild "xcframework" =
        [some (.package [(c.mergedLibrary, c.bindingsDir), (library, c.bindingsDir)]
          c.container)] := by
  have hnames : ∀ t ∈ crossedTargets.targets, t.name ≠ "" ∧ t.triple ≠ "" := by decide
  obtain ⟨tools, hc⟩ := exists_resolve_targets (Path.parse "/work") rfl (by decide) hnames
  obtain ⟨entries, -, h⟩ := resolve_eq_ok_iff.mp hc
  let c := usualFor (Path.parse "/work") tools crossedTargets
  have hsimulators : simulatorLibraries c =
      [c.libraryOf ⟨"simulator-arm64", "aarch64-apple-ios", .simulator, .empty⟩] := rfl
  have hfolder : Path.parse "aarch64-apple-ios" = Path.parse "./aarch64-apple-ios" := by decide
  have hone : simulatorLibraries c = [deviceLibrary c] := by
    rw [hsimulators]
    exact congrArg (fun folder => [c.targetDir.join folder / "release" / _]) hfolder
  have hnodup : (simulatorLibraries c).Nodup := by
    rw [hone]
    exact List.nodup_singleton _
  have hp := pipeline_of_buildable (buildable_usualFor hnodup)
  have hmerged := (jobsOf_stage hp (by simp [stages]) .lipo).trans (jobs_mergeSlices h)
  have hpackaged := (jobsOf_stage hp (by simp [stages]) .xcodebuild).trans (jobs_xcframework h)
  refine ⟨c, _, deviceLibrary c, hc, hp, ?_, hone ▸ hmerged, hpackaged⟩
  rw [partsTargets_iff_of_nodup hnodup, not_not]
  show deviceLibrary c ∈ simulatorLibraries c
  rw [hone]
  exact List.mem_singleton_self _

end Build

end FrameworkForge
