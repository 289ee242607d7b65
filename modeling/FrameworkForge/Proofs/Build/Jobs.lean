import FrameworkForge.Proofs.Build.Stages
import FrameworkForge.Proofs.Config.Usual

/-! What the calls of a build ask of its tools. Operands are read as paths where the call is made,
and the calls agree on the places that they name. -/

namespace FrameworkForge

/-- What a call asks of a tool, with the places that its operands name. -/
inductive Job where
  | remove (target : Path)
  | makeDirectory (target : Path)
  | generate (library outDir : Path)
  | rename (source dest : Path)
  | merge (inputs : List Path) (output : Path)
  | package (slices : List (Path × Path)) (output : Path)
  | compress (archive directory : Path)
  | checksum (archive : Path)

namespace Job

def readSlices (cwd : Path) : List String → Option (List (Path × Path) × Path)
  | ["-output", output] => some ([], cwd / output)
  | "-library" :: library :: "-headers" :: headers :: rest =>
    (readSlices cwd rest).map fun (slices, output) =>
      ((cwd / library, cwd / headers) :: slices, output)
  | _ => none

/-- Reads the arguments of a call that is made in `cwd`. -/
def read? (cwd : Path) : Tool → List String → Option Job
  | .rm, ["-rv", target] => some (.remove (cwd / target))
  | .mkdir, [target] => some (.makeDirectory (cwd / target))
  | .cargo, ["run", "-p", _, "--bin", _, "generate", "--library", library, "--language", _,
      "--out-dir", outDir] => some (.generate (cwd / library) (cwd / outDir))
  | .mv, [source, dest] => some (.rename (cwd / source) (cwd / dest))
  | .lipo, "-create" :: "-output" :: output :: inputs =>
    some (.merge (inputs.map (cwd / ·)) (cwd / output))
  | .xcodebuild, "-create-xcframework" :: rest =>
    (readSlices cwd rest).map fun (slices, output) => .package slices output
  | .zip, ["-r", archive, directory] => some (.compress (cwd / archive) (cwd / directory))
  | .swift, ["package", "compute-checksum", archive] => some (.checksum (cwd / archive))
  | _, _ => none

theorem readSlices_libraryArguments (cwd headers output : Path) (libraries : List Path) :
    readSlices cwd (libraries.flatMap (Recipe.libraryArguments headers) ++
        ["-output", output.text]) =
      some (libraries.map fun library => (cwd / library.text, cwd / headers.text),
        cwd / output.text) := by
  induction libraries with
  | nil => rfl
  | cons library libraries ih =>
    simp only [List.flatMap_cons, Recipe.libraryArguments, List.cons_append, List.nil_append,
      readSlices, List.map_cons]
    rw [ih]
    rfl

end Job

/-- The job of a task that calls the tool, read in the directory of the task. -/
def Task.job? (tools : Toolbox) (tool : Tool) (t : Task) : Option Job :=
  if t.executable.path = (tools.executable tool).path then
    t.directory.bind fun cwd => Job.read? cwd tool t.arguments
  else none

theorem Task.job?_eq {tools : Toolbox} {tool : Tool} {t : Task} {cwd : Path}
    (hexecutable : t.executable = tools.executable tool) (hdirectory : t.directory = some cwd) :
    t.job? tools tool = Job.read? cwd tool t.arguments := by
  rw [job?, hexecutable, hdirectory, if_pos rfl, Option.bind_some]

namespace Recipe

variable (tools : Toolbox) (root : Path)

theorem job?_remove (shown : String) :
    (remove shown root (tools.executable .rm)).job? tools .rm = some (.remove (root / shown)) :=
  Task.job?_eq rfl rfl

theorem job?_makeDirectory (shown : String) :
    (makeDirectory shown root (tools.executable .mkdir)).job? tools .mkdir =
      some (.makeDirectory (root / shown)) :=
  Task.job?_eq rfl rfl

theorem job?_generateBindings (generator : Generator) (library outDir : Path) :
    (generateBindings generator library outDir root (tools.executable .cargo)).job? tools .cargo =
      some (.generate (root / library.text) (root / outDir.text)) :=
  Task.job?_eq rfl rfl

theorem job?_renameModuleMap (generated dest : Path) :
    (renameModuleMap generated dest root (tools.executable .mv)).job? tools .mv =
      some (.rename (root / generated.text) (root / dest.text)) :=
  Task.job?_eq rfl rfl

theorem job?_merging (inputs : List Path) (output : Path) :
    (merging inputs output root (tools.executable .lipo)).job? tools .lipo =
      some (.merge (inputs.map fun p => root / p.text) (root / output.text)) := by
  rw [Task.job?_eq rfl rfl]
  change some (Job.merge ((inputs.map Path.text).map (root / ·)) (root / output.text)) = _
  rw [List.map_map]
  rfl

theorem job?_packaging (libraries : List Path) (headers output : Path) :
    (packaging libraries headers output root (tools.executable .xcodebuild)).job? tools
        .xcodebuild =
      some (.package (libraries.map fun p => (root / p.text, root / headers.text))
        (root / output.text)) := by
  rw [Task.job?_eq rfl rfl]
  change (Job.readSlices root (libraries.flatMap (libraryArguments headers) ++
    ["-output", output.text])).map (fun (slices, output) => Job.package slices output) = _
  rw [Job.readSlices_libraryArguments]
  rfl

theorem job?_compress (archive framework : String) :
    (compress archive framework root (tools.executable .zip)).job? tools .zip =
      some (.compress (root / archive) (root / framework)) :=
  Task.job?_eq rfl rfl

theorem job?_checksum (archive : String) :
    (checksum archive root (tools.executable .swift)).job? tools .swift =
      some (.checksum (root / archive)) :=
  Task.job?_eq rfl rfl

end Recipe

namespace Config

def container (c : Config) : Path :=
  c.outputDir / c.framework

def archiveFile (c : Config) : Path :=
  c.outputDir / c.archive

end Config

namespace Pipeline

def tasksOf (p : Pipeline) (stage : String) : List Task :=
  (p.stages.filter fun s => s.name = stage).flatMap Stage.tasks

/-- What the tasks of a stage ask of a tool; a task that asks nothing of it counts as well. -/
def jobsOf (p : Pipeline) (tools : Toolbox) (tool : Tool) (stage : String) : List (Option Job) :=
  (p.tasksOf stage).map (Task.job? tools tool)

theorem filter_name_eq {stages : List Stage} (hnodup : (stages.map Stage.name).Nodup)
    {stage : Stage} (h : stage ∈ stages) :
    stages.filter (fun s => s.name = stage.name) = [stage] := by
  simpa using Stage.filter_name_mem hnodup (List.singleton_sublist.mpr h)

theorem tasksOf_name {p : Pipeline} {stage : Stage} (h : stage ∈ p.stages) :
    p.tasksOf stage.name = stage.tasks := by
  simp [tasksOf, filter_name_eq p.distinct h]

end Pipeline

namespace Build

open Config Recipe

theorem tasksOf_stage {c : Config} {p : Pipeline} (hp : pipeline c = .ok p) (stage : Stage)
    (h : stage ∈ stages c) : p.tasksOf stage.name = stage.tasks :=
  Pipeline.tasksOf_name (stages_of_pipeline hp ▸ h)

theorem jobsOf_stage {c : Config} {p : Pipeline} (hp : pipeline c = .ok p) {stage : Stage}
    (h : stage ∈ stages c) (tool : Tool) :
    p.jobsOf c.tools tool stage.name = stage.tasks.map (Task.job? c.tools tool) := by
  rw [Pipeline.jobsOf, tasksOf_stage hp stage h]

/-- The stages of a build agree on the places of what they hand over. -/
structure HandsOver (c : Config) (p : Pipeline) : Prop where
  clean : p.jobsOf c.tools .rm "clean" =
    [some (.remove c.container), some (.remove c.archiveFile), some (.remove c.mergedLibrary)]
  outputDir : p.jobsOf c.tools .mkdir "output-dir" = [some (.makeDirectory c.outputDir)]
  bindgen : p.jobsOf c.tools .cargo "bindgen" =
    [some (.generate (c.targetDir / "debug" / Artifact.dynamicLibrary c.crate.plain)
      c.bindingsDir)]
  moduleMap : p.jobsOf c.tools .mv "modulemap" =
    [some (.rename (c.bindingsDir / Artifact.generatedModuleMap c.crate.plain)
      (c.bindingsDir / c.moduleMapName.plain))]
  mergeSlices : p.jobsOf c.tools .lipo "merge-slices" =
    [some (.merge (simulatorLibraries c) c.mergedLibrary)]
  xcframework : p.jobsOf c.tools .xcodebuild "xcframework" =
    [some (.package [(c.mergedLibrary, c.bindingsDir), (deviceLibrary c, c.bindingsDir)]
      c.container)]
  compress : p.jobsOf c.tools .zip "compress" = [some (.compress c.archiveFile c.container)]
  checksum : p.jobsOf c.tools .swift "checksum" = [some (.checksum c.archiveFile)]
  directories : ∀ t ∈ p.tasksOf "compress" ++ p.tasksOf "checksum",
    t.directory = some c.outputDir

section

variable {host : Host} {entries : Value.Entries} {projectRoot : Path} {c : Config}

theorem isAbsolute_releaseLibrary {targetDir : Path} (h : targetDir.isAbsolute = true)
    (t : Target) (crate : String) : (t.releaseLibrary targetDir crate).isAbsolute = true :=
  Path.isAbsolute_div (Path.isAbsolute_div (Path.isAbsolute_div h _) _) _

theorem jobs_clean (h : Resolved host entries projectRoot c) :
    (clean c).tasks.map (Task.job? c.tools .rm) =
      [some (.remove c.container), some (.remove c.archiveFile),
        some (.remove c.mergedLibrary)] := by
  have hcontainer : c.root / c.container.shownFrom c.root = c.container :=
    Path.div_shownFrom (Path.isAbsolute_div h.isAbsolute_outputDir _) c.root
  have harchive : c.root / c.archiveFile.shownFrom c.root = c.archiveFile :=
    Path.div_shownFrom (Path.isAbsolute_div h.isAbsolute_outputDir _) c.root
  have hmerged : c.root / c.mergedLibrary.shownFrom c.root = c.mergedLibrary :=
    Path.div_shownFrom h.isAbsolute_mergedLibrary c.root
  simp only [clean, List.map_cons, List.map_nil, job?_remove]
  rw [← container, ← archiveFile, hcontainer, harchive, hmerged]

theorem jobs_outputDir (h : Resolved host entries projectRoot c) :
    (outputDir c).tasks.map (Task.job? c.tools .mkdir) = [some (.makeDirectory c.outputDir)] := by
  simp only [outputDir, List.map_cons, List.map_nil, job?_makeDirectory,
    Path.div_shownFrom h.isAbsolute_outputDir]

theorem jobs_bindgen (h : Resolved host entries projectRoot c) :
    (bindgen c).tasks.map (Task.job? c.tools .cargo) =
      [some (.generate (c.targetDir / "debug" / Artifact.dynamicLibrary c.crate.plain)
        c.bindingsDir)] := by
  have hlibrary := Path.isAbsolute_div (Path.isAbsolute_div h.isAbsolute_targetDir "debug")
    (Artifact.dynamicLibrary c.crate.plain)
  simp only [bindgen, List.map_cons, List.map_nil, job?_generateBindings, Path.div_text _ hlibrary,
    Path.div_text _ h.isAbsolute_bindingsDir]

theorem jobs_moduleMap (h : Resolved host entries projectRoot c) :
    (moduleMap c (c.bindingsDir / c.moduleMapName.plain)).tasks.map (Task.job? c.tools .mv) =
      [some (.rename (c.bindingsDir / Artifact.generatedModuleMap c.crate.plain)
        (c.bindingsDir / c.moduleMapName.plain))] := by
  have hinside := Path.isAbsolute_div h.isAbsolute_bindingsDir
  simp only [moduleMap, List.map_cons, List.map_nil, job?_renameModuleMap,
    Path.div_text _ (hinside _)]

theorem jobs_mergeSlices (h : Resolved host entries projectRoot c) :
    (mergeSlices c (merging (simulatorLibraries c) c.mergedLibrary c.root)).tasks.map
        (Task.job? c.tools .lipo) =
      [some (.merge (simulatorLibraries c) c.mergedLibrary)] := by
  have hinputs : (simulatorLibraries c).map (fun p => c.root / p.text) = simulatorLibraries c := by
    refine (List.map_congr_left fun library hlibrary => ?_).trans (List.map_id _)
    obtain ⟨t, -, rfl⟩ := List.mem_map.mp hlibrary
    exact Path.div_text _ (isAbsolute_releaseLibrary h.isAbsolute_targetDir t _)
  simp only [mergeSlices, List.map_cons, List.map_nil, job?_merging, hinputs,
    Path.div_text _ h.isAbsolute_mergedLibrary]

theorem jobs_xcframework (h : Resolved host entries projectRoot c) :
    (xcframework c (packaging [c.mergedLibrary, deviceLibrary c] c.bindingsDir
        (c.outputDir / c.framework) c.root)).tasks.map (Task.job? c.tools .xcodebuild) =
      [some (.package [(c.mergedLibrary, c.bindingsDir), (deviceLibrary c, c.bindingsDir)]
        c.container)] := by
  have hdevice : c.root / (deviceLibrary c).text = deviceLibrary c :=
    Path.div_text _ (isAbsolute_releaseLibrary h.isAbsolute_targetDir _ _)
  have hcontainer : c.root / c.container.text = c.container :=
    Path.div_text _ (Path.isAbsolute_div h.isAbsolute_outputDir _)
  rw [← container]
  simp only [xcframework, List.map_cons, List.map_nil, job?_packaging, hdevice, hcontainer,
    Path.div_text _ h.isAbsolute_mergedLibrary, Path.div_text _ h.isAbsolute_bindingsDir]

/-- The last two stages work in the output directory, where names alone are enough. -/
theorem jobs_compress (c : Config) :
    (compressStage c).tasks.map (Task.job? c.tools .zip) =
      [some (.compress c.archiveFile c.container)] := by
  simp only [compressStage, List.map_cons, List.map_nil, job?_compress, archiveFile, container]

theorem jobs_checksum (c : Config) :
    (checksumStage c).tasks.map (Task.job? c.tools .swift) =
      [some (.checksum c.archiveFile)] := by
  simp only [checksumStage, List.map_cons, List.map_nil, job?_checksum, archiveFile]

end

/-- Whatever the names in the settings are, what a stage makes is what a later stage takes. -/
theorem pipeline_handsOver {host : Host} {data : Value} {projectRoot : Path} {c : Config}
    {p : Pipeline} (hc : Config.resolve host data projectRoot = .ok c)
    (hp : pipeline c = .ok p) : HandsOver c p := by
  obtain ⟨entries, -, h⟩ := resolve_eq_ok_iff.mp hc
  have htasks (stage : Stage) (hstage : stage ∈ stages c) :
      p.tasksOf stage.name = stage.tasks :=
    Pipeline.tasksOf_name (stages_of_pipeline hp ▸ hstage)
  have hjobs {stage : Stage} (hstage : stage ∈ stages c) (tool : Tool) :
      p.jobsOf c.tools tool stage.name = stage.tasks.map (Task.job? c.tools tool) := by
    rw [Pipeline.jobsOf, htasks stage hstage]
  have hcompress : p.tasksOf "compress" = (compressStage c).tasks :=
    htasks (compressStage c) (by simp [stages])
  have hchecksum : p.tasksOf "checksum" = (checksumStage c).tasks :=
    htasks (checksumStage c) (by simp [stages])
  exact {
    clean := (hjobs (by simp [stages]) _).trans (jobs_clean h)
    outputDir := (hjobs (by simp [stages]) _).trans (jobs_outputDir h)
    bindgen := (hjobs (by simp [stages]) _).trans (jobs_bindgen h)
    moduleMap := (hjobs (by simp [stages]) _).trans (jobs_moduleMap h)
    mergeSlices := (hjobs (by simp [stages]) _).trans (jobs_mergeSlices h)
    xcframework := (hjobs (by simp [stages]) _).trans (jobs_xcframework h)
    compress := (hjobs (by simp [stages]) _).trans (jobs_compress c)
    checksum := (hjobs (by simp [stages]) _).trans (jobs_checksum c)
    directories := by
      rw [hcompress, hchecksum]
      simp [compressStage, checksumStage, compress, checksum] }

theorem pipeline_handsOver_usual :
    ∃ c p, Config.resolve Host.plain .null (Path.parse "/project") = .ok c ∧ pipeline c = .ok p ∧
      HandsOver c p := by
  obtain ⟨tools, hc, -⟩ := exists_resolve_plain (Path.parse "/project") rfl (by decide)
  have hp := pipeline_of_buildable (buildable_usual (Path.parse "/project") tools)
  exact ⟨_, _, hc, hp, pipeline_handsOver hc hp⟩

end Build

end FrameworkForge
