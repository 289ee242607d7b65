import FrameworkForge.Proofs.Build.Jobs
import Mathlib.Data.List.Forall2

/-! Where the targets of a build go. Each is registered and built once, and its library ends in one
slot of the container: in the merged library of the simulators, or in the place of the device. -/

namespace FrameworkForge

namespace TargetList

theorem devices_eq (list : TargetList) : Target.devices list.targets = [list.device] := by
  obtain ⟨target, htarget⟩ := List.length_eq_one_iff.mp list.oneDevice
  simp [device, htarget]

/-- The two platforms divide the targets between them. -/
theorem perm_simulators_device (list : TargetList) :
    (list.simulators ++ [list.device]).Perm list.targets := by
  have hothers : Target.devices list.targets =
      list.targets.filter fun t => !decide (t.platform = .simulator) := by
    refine List.filter_congr fun t _ => ?_
    cases t.platform <;> decide
  rw [← list.devices_eq, hothers]
  exact List.filter_append_perm _ _

end TargetList

namespace Config

/-- Where the release build of a target leaves its library. -/
def libraryOf (c : Config) (t : Target) : Path :=
  t.releaseLibrary c.targetDir c.crate.plain

end Config

namespace Build

open Config Recipe

/-- The task makes the release build of the target, under the overrides of the target. -/
structure BuildsTarget (c : Config) (target : Target) (t : Task) : Prop where
  executable : t.executable = c.tools.executable .cargo
  arguments : t.arguments = ["build", "--release", "--target=" ++ target.triple]
  overrides : t.overrides = target.overrides
  directory : t.directory = some c.root

/-- All targets of the configuration, of which one is the device, have their place in the build and
no other target has one. -/
structure PlacesTargets (c : Config) (p : Pipeline) (device : Target) : Prop where
  registered : ∃ t, p.tasksOf "preflight" = [t] ∧ t.executable = c.tools.executable .rustup ∧
    t.arguments = ["target", "add"] ++ c.targets.targets.map Target.triple
  built : List.Forall₂ (BuildsTarget c) c.targets.targets (p.tasksOf "release-builds")
  onlyDevice : Target.devices c.targets.targets = [device]
  merged : p.jobsOf c.tools .lipo "merge-slices" =
    [some (.merge ((Target.simulators c.targets.targets).map c.libraryOf) c.mergedLibrary)]
  packaged : p.jobsOf c.tools .xcodebuild "xcframework" =
    [some (.package [(c.mergedLibrary, c.bindingsDir), (c.libraryOf device, c.bindingsDir)]
      c.container)]
  complete : ((Target.simulators c.targets.targets).map c.libraryOf ++ [c.libraryOf device]).Perm
    (c.targets.targets.map c.libraryOf)

theorem tasksOf_preflight {c : Config} {p : Pipeline} (hp : pipeline c = .ok p) :
    p.tasksOf "preflight" =
      [registerTargets c.targets.targets c.root (c.tools.executable .rustup)] :=
  tasksOf_stage hp (preflight c) (by simp [stages])

theorem tasksOf_releaseBuilds {c : Config} {p : Pipeline} (hp : pipeline c = .ok p) :
    p.tasksOf "release-builds" =
      c.targets.targets.map fun t => releaseBuild t c.root (c.tools.executable .cargo) :=
  tasksOf_stage hp (releaseBuilds c) (by simp [stages])

theorem tasksOf_mergeSlices {c : Config} {p : Pipeline} (hp : pipeline c = .ok p) :
    p.tasksOf "merge-slices" =
      [merging (simulatorLibraries c) c.mergedLibrary c.root (c.tools.executable .lipo)] :=
  tasksOf_stage hp (mergeSlices c (merging (simulatorLibraries c) c.mergedLibrary c.root))
    (by simp [stages])

theorem buildsTarget_releaseBuild (c : Config) (t : Target) :
    BuildsTarget c t (releaseBuild t c.root (c.tools.executable .cargo)) where
  executable := rfl
  arguments := rfl
  overrides := rfl
  directory := rfl

theorem forall₂_releaseBuilds (c : Config) :
    List.Forall₂ (BuildsTarget c) c.targets.targets (releaseBuilds c).tasks := by
  simp only [releaseBuilds, List.forall₂_map_right_iff, List.forall₂_same]
  exact fun t _ => buildsTarget_releaseBuild c t

/-- The slots of a container take the libraries of all targets, and of nothing else. -/
theorem perm_libraries (c : Config) :
    ((Target.simulators c.targets.targets).map c.libraryOf ++
      [c.libraryOf c.targets.device]).Perm (c.targets.targets.map c.libraryOf) := by
  have hperm := c.targets.perm_simulators_device.map c.libraryOf
  simpa [TargetList.simulators] using hperm

/-- No target is lost on the way through a build, none is built twice, and none is put in the
place of another. -/
theorem pipeline_placesTargets {host : Host} {data : Value} {projectRoot : Path} {c : Config}
    {p : Pipeline} (hc : Config.resolve host data projectRoot = .ok c)
    (hp : pipeline c = .ok p) : ∃ device, PlacesTargets c p device := by
  obtain ⟨entries, -, h⟩ := resolve_eq_ok_iff.mp hc
  have hpreflight : p.tasksOf "preflight" = (preflight c).tasks :=
    tasksOf_stage hp (preflight c) (by simp [stages])
  have hreleases : p.tasksOf "release-builds" = (releaseBuilds c).tasks :=
    tasksOf_stage hp (releaseBuilds c) (by simp [stages])
  exact ⟨c.targets.device, {
    registered := ⟨_, hpreflight, rfl, rfl⟩
    built := hreleases ▸ forall₂_releaseBuilds c
    onlyDevice := c.targets.devices_eq
    merged := (jobsOf_stage hp (by simp [stages]) _).trans (jobs_mergeSlices h)
    packaged := (jobsOf_stage hp (by simp [stages]) _).trans (jobs_xcframework h)
    complete := perm_libraries c }⟩

theorem pipeline_placesTargets_usual :
    ∃ c p, Config.resolve Host.plain .null (Path.parse "/project") = .ok c ∧ pipeline c = .ok p ∧
      ∃ device, PlacesTargets c p device := by
  obtain ⟨tools, hc, -⟩ := exists_resolve_plain (Path.parse "/project") rfl (by decide)
  have hp := pipeline_of_buildable (buildable_usual (Path.parse "/project") tools)
  exact ⟨_, _, hc, hp, pipeline_placesTargets hc hp⟩

end Build

end FrameworkForge
