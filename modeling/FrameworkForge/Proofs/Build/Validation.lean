import FrameworkForge.Proofs.Build.Libraries

/-! What resolving settings leaves open for the build. A resolved configuration is built, unless
two simulators have one folder or a name is a number that is too long to be written. -/

namespace FrameworkForge

namespace Config

/-- No two simulators have one folder. -/
def PartsSimulators (c : Config) : Prop :=
  ∀ t ∈ c.targets.simulators, ∀ t' ∈ c.targets.simulators, t ≠ t' → c.folderOf t ≠ c.folderOf t'

theorem partsSimulators_iff {c : Config} :
    c.PartsSimulators ↔ (Build.simulatorLibraries c).Nodup := by
  have hnodup : (Build.simulatorLibraries c).Nodup ↔ ∀ t ∈ c.targets.simulators,
      ∀ t' ∈ c.targets.simulators, c.folderOf t = c.folderOf t' → t = t' :=
    nodup_libraries_iff c.targets.nodup_simulators
  rw [hnodup]
  constructor
  · intro h t ht t' ht' hsame
    by_contra hne
    exact h t ht t' ht' hne hsame
  · intro h t ht t' ht' hne hsame
    exact hne (h t ht t' ht' hsame)

end Config

namespace Build

open Config Recipe

theorem forM_checkWritable_of_not {vs : List Value} (h : ∃ v ∈ vs, v.isWritable = false) :
    ∃ v ∈ vs, v.isWritable = false ∧ vs.forM Value.checkWritable = .error v.unwritable := by
  induction vs with
  | nil => simp at h
  | cons first vs ih =>
    have hcons : (first :: vs).forM Value.checkWritable =
        first.checkWritable >>= fun _ => vs.forM Value.checkWritable := rfl
    rw [hcons, Value.checkWritable]
    cases hfirst : first.isWritable with
    | true =>
      obtain ⟨v, hv, hlong, herror⟩ := ih (by simpa [hfirst] using h)
      exact ⟨v, List.mem_cons_of_mem _ hv, hlong, herror⟩
    | false => exact ⟨first, List.mem_cons_self, hfirst, rfl⟩

theorem pipeline_of_not_writable {c : Config} (h : ∃ v ∈ c.names, v.isWritable = false) :
    ∃ v ∈ c.names, v.isWritable = false ∧ pipeline c = .error v.unwritable := by
  obtain ⟨v, hv, hnot, herror⟩ := forM_checkWritable_of_not h
  refine ⟨v, hv, hnot, ?_⟩
  rw [pipeline, herror]
  rfl

theorem pipeline_of_repeated {c : Config} (hwritable : ∀ v ∈ c.names, v.isWritable = true)
    (htext : c.moduleMapName.isText = true) (h : ¬ (simulatorLibraries c).Nodup) :
    pipeline c = .error (.repeatedLibraries ((simulatorLibraries c).map Path.text)) := by
  have hnames : c.names.forM Value.checkWritable = .ok () :=
    Checks.forM_eq_ok_iff.mpr fun v hv => Value.checkWritable_eq_ok_iff.mpr (hwritable v hv)
  have hdest : moduleMapFile c = .ok (c.bindingsDir / c.moduleMapName.plain) :=
    fileIn_eq_ok_iff.mpr ⟨htext, hwritable _ (by simp [Config.names]), rfl⟩
  have hmerge : mergeLibraries (simulatorLibraries c) c.mergedLibrary c.root =
      .error (.repeatedLibraries ((simulatorLibraries c).map Path.text)) := by
    rw [mergeLibraries, if_neg (simulatorLibraries_ne_nil c), if_pos h]
  rw [pipeline, hnames, hdest, hmerge]
  rfl

/-- What resolving has settled: the targets fill the slots of the container, and all programs and
places are absolute. -/
structure Settled (c : Config) : Prop where
  oneDevice : ∃ device, Target.devices c.targets.targets = [device]
  someSimulator : simulatorLibraries c ≠ []
  tools : ∀ tool, (c.tools.executable tool).path.isAbsolute = true
  directories : ∀ dir ∈ [c.root, c.outputDir, c.bindingsDir, c.targetDir], dir.isAbsolute = true
  files : ∀ file ∈ c.mergedLibrary :: deviceLibrary c :: simulatorLibraries c,
    file.isAbsolute = true

theorem settled_of_resolved {host : Host} {entries : Value.Entries} {projectRoot : Path}
    {c : Config} (h : Resolved host entries projectRoot c) : Settled c where
  oneDevice := ⟨_, c.targets.devices_eq⟩
  someSimulator := simulatorLibraries_ne_nil c
  tools tool := (c.tools.executable tool).absolute
  directories := by
    have hroot : c.root.isAbsolute = true := Host.isAbsolute_of_resolve h.root
    simp [hroot, h.isAbsolute_outputDir, h.isAbsolute_bindingsDir, h.isAbsolute_targetDir]
  files := by
    have hlibrary (t : Target) := isAbsolute_releaseLibrary h.isAbsolute_targetDir t c.crate.plain
    intro file hfile
    rcases List.mem_cons.mp hfile with rfl | hfile
    · exact h.isAbsolute_mergedLibrary
    rcases List.mem_cons.mp hfile with rfl | hfile
    · exact hlibrary _
    · obtain ⟨t, -, rfl⟩ := List.mem_map.mp hfile
      exact hlibrary t

/-- The task starts an absolute path in an absolute directory. -/
def IsPlaced (t : Task) : Prop :=
  t.executable.path.isAbsolute = true ∧
    ∃ dir, t.directory = some dir ∧ dir.isAbsolute = true

/-- A build works at the root of the project, and at last in the output directory. -/
theorem directory_of_mem_stages (c : Config) : ∀ stage ∈ stages c, ∀ t ∈ stage.tasks,
    t.directory = some c.root ∨ t.directory = some c.outputDir := by
  simp [stages, preflight, registerTargets, clean, remove, cargoClean, clearCache, outputDir,
    makeDirectory, debugStage, debugBuild, bindgen, generateBindings, releaseBuilds, releaseBuild,
    moduleMap, renameModuleMap, mergeSlices, merging, xcframework, packaging, compressStage,
    compress, checksumStage, checksum]

theorem isPlaced_of_settled {c : Config} (h : Settled c) {stage : Stage}
    (hstage : stage ∈ stages c) {t : Task} (ht : t ∈ stage.tasks) : IsPlaced t := by
  have hroot : c.root.isAbsolute = true := h.directories _ (by simp)
  have hout : c.outputDir.isAbsolute = true := h.directories _ (by simp)
  refine ⟨t.executable.absolute, ?_⟩
  rcases directory_of_mem_stages c stage hstage t ht with hdir | hdir
  · exact ⟨c.root, hdir, hroot⟩
  · exact ⟨c.outputDir, hdir, hout⟩

/-- How the building of a pipeline ends: with a pipeline of placed tasks, or because two simulators
have one folder, or because a name cannot be written. -/
inductive Ended (c : Config) : Except Error Pipeline → Prop
  | built {p : Pipeline} (writable : ∀ v ∈ c.names, v.isWritable = true)
      (apart : c.PartsSimulators) (placed : ∀ stage ∈ p.stages, ∀ t ∈ stage.tasks, IsPlaced t) :
      Ended c (.ok p)
  | tooLong {v : Value} (name : v ∈ c.names) (long : v.isQuotable = false) :
      Ended c (.error .integerNotWritable)
  | halfText {v : Value} (name : v ∈ c.names) (half : v.IsHalf) : Ended c (.error .halfText)
  | repeated (writable : ∀ v ∈ c.names, v.isWritable = true) (together : ¬ c.PartsSimulators) :
      Ended c (.error (.repeatedLibraries ((simulatorLibraries c).map Path.text)))

/-- When settings have been resolved and name the module map by a text, the pipeline is built,
except for the two faults that are left to be reported. -/
theorem pipeline_ended {host : Host} {data : Value} {projectRoot : Path} {c : Config}
    (hc : Config.resolve host data projectRoot = .ok c) (htext : c.moduleMapName.isText = true) :
    Settled c ∧ Ended c (pipeline c) := by
  obtain ⟨entries, -, h⟩ := resolve_eq_ok_iff.mp hc
  have hsettled := settled_of_resolved h
  refine ⟨hsettled, ?_⟩
  by_cases hwritable : ∀ v ∈ c.names, v.isWritable = true
  · by_cases hapart : c.PartsSimulators
    · have hbuildable : Buildable c := ⟨hwritable, htext, partsSimulators_iff.mp hapart⟩
      rw [pipeline_of_buildable hbuildable]
      apply Ended.built hwritable hapart
      intro stage hstage t ht
      exact isPlaced_of_settled hsettled hstage ht
    · rw [pipeline_of_repeated hwritable htext (mt partsSimulators_iff.mpr hapart)]
      exact .repeated hwritable hapart
  · obtain ⟨v, hv, hnot, herror⟩ := pipeline_of_not_writable (c := c) (by simpa using hwritable)
    rw [herror]
    rcases Value.isWritable_eq_false_iff.mp hnot with ⟨hhalf, herror⟩ | ⟨hlong, herror⟩
    · exact herror ▸ .halfText hv hhalf
    · exact herror ▸ .tooLong hv hlong

theorem pipeline_ended_usual :
    ∃ c, Config.resolve Host.plain .null (Path.parse "/project") = .ok c ∧
      c.moduleMapName.isText = true ∧ Settled c ∧ Ended c (pipeline c) := by
  obtain ⟨tools, hc, -⟩ := exists_resolve_plain (Path.parse "/project") rfl (by decide)
  exact ⟨_, hc, rfl, pipeline_ended hc rfl⟩

/-- Two simulators whose triples differ as texts and name one folder. -/
def repeatedTargets : TargetList where
  targets := [⟨"simulator-arm64", "arm64-sim", .simulator, .empty⟩,
    ⟨"simulator-again", "./arm64-sim", .simulator, .empty⟩,
    ⟨"device-arm64", "arm64", .device, .empty⟩]
  distinctNames := by decide
  distinctTriples := by decide
  oneDevice := by decide
  someSimulator := by decide

/-- Settings can be resolved and still not be built. -/
theorem not_built_of_repeated_folder :
    ∃ c, Config.resolve Host.plain (.map (targetSettings repeatedTargets) none)
        (Path.parse "/work") = .ok c ∧ c.moduleMapName.isText = true ∧
      pipeline c = .error (.repeatedLibraries ((simulatorLibraries c).map Path.text)) ∧
      ∀ p, pipeline c ≠ .ok p := by
  have hnames : ∀ t ∈ repeatedTargets.targets, t.name ≠ "" ∧ t.triple ≠ "" := by decide
  obtain ⟨tools, hc⟩ := exists_resolve_targets (Path.parse "/work") rfl (by decide) hnames
  let c := usualFor (Path.parse "/work") tools repeatedTargets
  have hwritable : ∀ v ∈ c.names, v.isWritable = true :=
    (buildable_usual (Path.parse "/work") tools).writable
  have hfolder : Path.parse "arm64-sim" = Path.parse "./arm64-sim" := by decide
  have htogether : ¬ c.PartsSimulators := by
    intro hparts
    apply hparts ⟨"simulator-arm64", "arm64-sim", .simulator, .empty⟩ ?_
      ⟨"simulator-again", "./arm64-sim", .simulator, .empty⟩ ?_ ?_
    · exact congrArg c.targetDir.join hfolder
    · exact List.mem_cons_self
    · exact List.mem_cons_of_mem _ List.mem_cons_self
    · intro heq
      exact absurd (congrArg Target.name heq) (by decide)
  have herror := pipeline_of_repeated hwritable rfl (mt partsSimulators_iff.mpr htogether)
  refine ⟨c, hc, rfl, herror, ?_⟩
  intro p hp
  rw [herror] at hp
  cases hp

end Build

end FrameworkForge
