import FrameworkForge.Proofs.Build.Jobs
import FrameworkForge.Proofs.Config.Relocation
import Mathlib.Data.List.Forall2
import Mathlib.Data.List.Nodup

/-! Builds at another root. The build of a configuration that lies within its root moves along with
it: it differs in nothing but the root of its paths. -/

namespace FrameworkForge

open FrameworkForge.Path

namespace Task

/-- The task at another base. Its directory and the arguments at the given places are paths that
move. -/
def moved (t : Task) (base base' : Path) (isPath : Nat → Bool) : Task :=
  { t with
    arguments := t.arguments.mapIdx fun i argument =>
      if isPath i then movedText base base' argument else argument
    directory := t.directory.map fun dir => dir.moved base base' }

/-- The paths of the task are within the base, and the other task has them at the other base. In all
else the tasks are the same. -/
structure MovesTo (base base' : Path) (isPath : Nat → Bool) (t t' : Task) : Prop where
  moved : t' = t.moved base base' isPath
  directory : ∃ dir, t.directory = some dir ∧ dir.IsWithin base
  operands : ∀ i argument, t.arguments[i]? = some argument → isPath i = true →
    (parse argument).IsWithin base

variable {base base' dir dir' : Path} {t t' : Task}

theorem arguments_moved_of_no_path (t : Task) (base base' : Path) :
    (t.moved base base' fun _ => false).arguments = t.arguments := by
  refine List.ext_getElem? fun i => ?_
  simp [moved]

theorem movesTo_of_no_path (hdir : t.directory = some dir) (h : dir.IsWithin base)
    (hmoved : dir.moved base base' = dir') :
    MovesTo base base' (fun _ => false) t { t with directory := some dir' } where
  moved := by
    have harguments := arguments_moved_of_no_path t base base'
    have hdirectory : t.directory.map (fun dir => dir.moved base base') = some dir' := by
      rw [hdir, Option.map_some, hmoved]
    exact congrArg₂ (fun arguments directory => { t with arguments, directory }) harguments.symm
      hdirectory.symm
  directory := ⟨dir, hdir, h⟩
  operands := by simp

theorem arguments_of_no_path {tasks tasks' : List Task}
    (h : List.Forall₂ (MovesTo base base' fun _ => false) tasks tasks') :
    tasks'.map arguments = tasks.map arguments := by
  induction h with
  | nil => rfl
  | cons hmoves _ ih =>
    rw [List.map_cons, List.map_cons, ih, hmoves.moved, arguments_moved_of_no_path]

end Task

namespace Build

open Config Recipe

/-- The places of the paths among the arguments of the tasks of a stage, counted from zero: the
library and the directory of the bindings, what is renamed and its new name, what is merged and
where to, and what stands behind the options of packaging. -/
def isPathAt (stage : String) (i : Nat) : Bool :=
  match stage with
  | "bindgen" => i = 7 || i = 11
  | "modulemap" => true
  | "merge-slices" => 2 ≤ i
  | "xcframework" => 0 < i && i % 2 = 0
  | _ => false

/-- The stages of whose arguments some are absolute paths. -/
def pathStages : List String :=
  ["bindgen", "modulemap", "merge-slices", "xcframework"]

theorem isPathAt_of_not_mem {stage : String} (h : stage ∉ pathStages) :
    isPathAt stage = fun _ => false := by
  funext i
  rw [isPathAt.eq_def]
  split <;> simp_all [pathStages]

/-- The stages are the same but for the base of their paths. Outside of the stages that name paths
the arguments are the same to the letter. -/
structure StageMoves (base base' : Path) (stage stage' : Stage) : Prop where
  name : stage'.name = stage.name
  description : stage'.description = stage.description
  tasks : List.Forall₂ (Task.MovesTo base base' (isPathAt stage.name)) stage.tasks stage'.tasks
  fixed : stage.name ∉ pathStages →
    stage'.tasks.map Task.arguments = stage.tasks.map Task.arguments

variable {base base' : Path}

theorem stageMoves_of_tasks {stage stage' : Stage} (hname : stage'.name = stage.name)
    (hdescription : stage'.description = stage.description)
    (htasks : List.Forall₂ (Task.MovesTo base base' (isPathAt stage.name)) stage.tasks
      stage'.tasks) : StageMoves base base' stage stage' where
  name := hname
  description := hdescription
  tasks := htasks
  fixed hnone := Task.arguments_of_no_path (isPathAt_of_not_mem hnone ▸ htasks)

/-- A stage without paths among its arguments, and with one directory, moves with that directory. -/
theorem stageMoves_of_no_path {stage stage' : Stage} (hname : stage'.name = stage.name)
    (hdescription : stage'.description = stage.description) (hnone : stage.name ∉ pathStages)
    {dir dir' : Path} (hdir : dir.IsWithin base) (hmoved : dir.moved base base' = dir')
    (htasks : List.Forall₂
      (fun t t' => t.directory = some dir ∧ t' = { t with directory := some dir' })
      stage.tasks stage'.tasks) : StageMoves base base' stage stage' := by
  refine stageMoves_of_tasks hname hdescription ?_
  rw [isPathAt_of_not_mem hnone]
  refine htasks.imp ?_
  rintro t _ ⟨hdirectory, rfl⟩
  exact Task.movesTo_of_no_path hdirectory hdir hmoved

section

variable {root library outDir source dest output headers : Path} {inputs : List Path}
  (root' : Path)

theorem movesTo_generateBindings (generator : Generator) (hlibrary : library.IsWithin root)
    (houtDir : outDir.IsWithin root) (cargo : Executable) :
    Task.MovesTo root root' (isPathAt "bindgen")
      (generateBindings generator library outDir root cargo)
      (generateBindings generator (library.moved root root') (outDir.moved root root') root'
        cargo) where
  moved := by
    simp [Task.moved, generateBindings, isPathAt, movedText_text, moved_base]
  directory := ⟨root, rfl, isWithin_self root⟩
  operands i argument hargument hpath := by
    have hplace : i = 7 ∨ i = 11 := by simpa [isPathAt] using hpath
    rcases hplace with rfl | rfl <;> cases hargument
    · rwa [parse_text]
    · rwa [parse_text]

theorem movesTo_renameModuleMap (hsource : source.IsWithin root) (hdest : dest.IsWithin root)
    (mv : Executable) :
    Task.MovesTo root root' (isPathAt "modulemap") (renameModuleMap source dest root mv)
      (renameModuleMap (source.moved root root') (dest.moved root root') root' mv) where
  moved := by
    simp [Task.moved, renameModuleMap, isPathAt, movedText_text, moved_base]
  directory := ⟨root, rfl, isWithin_self root⟩
  operands i argument hargument _ := by
    have hmem : argument = source.text ∨ argument = dest.text := by
      simpa [renameModuleMap] using List.mem_of_getElem? hargument
    rcases hmem with rfl | rfl
    · rwa [parse_text]
    · rwa [parse_text]

theorem mapIdx_same {α β : Type} (f : α → β) (xs : List α) :
    xs.mapIdx (fun _ x => f x) = xs.map f :=
  List.ext_getElem? fun i => by simp

theorem movesTo_merging (hinputs : ∀ p ∈ inputs, p.IsWithin root) (houtput : output.IsWithin root)
    (lipo : Executable) :
    Task.MovesTo root root' (isPathAt "merge-slices") (merging inputs output root lipo)
      (merging (inputs.map fun p => p.moved root root') (output.moved root root') root' lipo) where
  moved := by
    simp [Task.moved, merging, isPathAt, movedText_text, moved_base, mapIdx_same]
  directory := ⟨root, rfl, isWithin_self root⟩
  operands i argument hargument hpath := by
    have hplace : 2 ≤ i := by simpa [isPathAt] using hpath
    obtain ⟨i, rfl⟩ := Nat.exists_eq_add_of_le' hplace
    have hmem : argument ∈ output.text :: inputs.map Path.text :=
      List.mem_of_getElem? (i := i) hargument
    obtain ⟨p, hp, rfl⟩ : ∃ p ∈ output :: inputs, p.text = argument :=
      List.mem_map.mp hmem
    have hall : ∀ p ∈ output :: inputs, p.IsWithin root :=
      List.forall_mem_cons.mpr ⟨houtput, hinputs⟩
    rw [parse_text]
    exact hall p hp

theorem movesTo_packaging {merged device : Path} (hmerged : merged.IsWithin root)
    (hdevice : device.IsWithin root) (hheaders : headers.IsWithin root)
    (houtput : output.IsWithin root) (xcodebuild : Executable) :
    Task.MovesTo root root' (isPathAt "xcframework")
      (packaging [merged, device] headers output root xcodebuild)
      (packaging [merged.moved root root', device.moved root root'] (headers.moved root root')
        (output.moved root root') root' xcodebuild) where
  moved := by
    simp [Task.moved, packaging, libraryArguments, isPathAt, movedText_text, moved_base]
  directory := ⟨root, rfl, isWithin_self root⟩
  operands i argument hargument hpath := by
    have hplace : 0 < i ∧ i % 2 = 0 := by simpa [isPathAt] using hpath
    have hbound : i < 11 := (List.getElem?_eq_some_iff.mp hargument).1
    obtain rfl | rfl | rfl | rfl | rfl : i = 2 ∨ i = 4 ∨ i = 6 ∨ i = 8 ∨ i = 10 := by omega
    all_goals
      cases hargument
      rwa [parse_text]

end

section

variable {c : Config} {root' : Path}

theorem simulatorLibraries_movedTo (h : c.Rooted) (root' : Path) :
    simulatorLibraries (c.movedTo root') =
      (simulatorLibraries c).map fun p => p.moved c.root root' := by
  rw [simulatorLibraries, simulatorLibraries, List.map_map]
  refine List.map_congr_left fun t ht => ?_
  exact (h.moved_releaseLibrary (List.mem_filter.mp ht).1 root').symm

theorem isWithin_of_mem_simulatorLibraries (h : c.Rooted) :
    ∀ p ∈ simulatorLibraries c, p.IsWithin c.root := by
  intro p hp
  obtain ⟨t, ht, rfl⟩ := List.mem_map.mp hp
  exact h.isWithin_releaseLibrary (List.mem_filter.mp ht).1

theorem device_mem_targets (list : TargetList) : list.device ∈ list.targets :=
  (List.mem_filter.mp (List.head_mem list.devices_ne_nil)).1

theorem deviceLibrary_movedTo (h : c.Rooted) (root' : Path) :
    deviceLibrary (c.movedTo root') = (deviceLibrary c).moved c.root root' :=
  (h.moved_releaseLibrary (device_mem_targets c.targets) root').symm

theorem Buildable.movedTo (h : Buildable c) (hrooted : c.Rooted) (root' : Path) :
    Buildable (c.movedTo root') where
  writable := h.writable
  moduleMapName := h.moduleMapName
  libraries := by
    have hwithin := isWithin_of_mem_simulatorLibraries hrooted
    rw [simulatorLibraries_movedTo hrooted]
    exact h.libraries.map_on fun p hp q hq => moved_inj (hwithin p hp) (hwithin q hq)

theorem stageMoves_clean (h : c.Rooted) (root' : Path) :
    StageMoves c.root root' (clean c) (clean (c.movedTo root')) := by
  let rm := c.tools.executable .rm
  have hremove {p p' : Path} (hp : p.IsWithin c.root) (hmoved : p.moved c.root root' = p') :
      remove (p'.shownFrom root') root' rm =
        { remove (p.shownFrom c.root) c.root rm with directory := some root' } := by
    rw [← hmoved, shownFrom_moved hp]
    rfl
  have hframework := h.leadsOn_framework
  have harchive := h.leadsOn_archive
  refine stageMoves_of_no_path rfl rfl (show "clean" ∉ pathStages by decide)
    (isWithin_self c.root) (moved_base _ _) ?_
  refine .cons ⟨rfl, ?_⟩ (.cons ⟨rfl, ?_⟩ (.cons ⟨rfl, ?_⟩ .nil))
  · exact hremove (h.outputDir.div hframework) (moved_div h.outputDir hframework)
  · exact hremove (h.outputDir.div harchive) (moved_div h.outputDir harchive)
  · exact hremove h.mergedLibrary rfl

theorem stageMoves_outputDir (h : c.Rooted) (root' : Path) :
    StageMoves c.root root' (outputDir c) (outputDir (c.movedTo root')) := by
  refine stageMoves_of_no_path rfl rfl (show "output-dir" ∉ pathStages by decide)
    (isWithin_self c.root) (moved_base _ _) ?_
  refine .cons ⟨rfl, ?_⟩ .nil
  exact congrArg (fun shown => makeDirectory shown root' (c.tools.executable .mkdir))
    (shownFrom_moved h.outputDir)

theorem stageMoves_releaseBuilds (c : Config) (root' : Path) :
    StageMoves c.root root' (releaseBuilds c) (releaseBuilds (c.movedTo root')) := by
  refine stageMoves_of_no_path rfl rfl (show "release-builds" ∉ pathStages by decide)
    (isWithin_self c.root) (moved_base _ _) ?_
  simp only [releaseBuilds, List.forall₂_map_left_iff, List.forall₂_map_right_iff]
  exact List.forall₂_same.mpr fun t _ => ⟨rfl, rfl⟩

theorem stageMoves_bindgen (h : c.Rooted) (root' : Path) :
    StageMoves c.root root' (bindgen c) (bindgen (c.movedTo root')) := by
  have hdebug : (c.targetDir / "debug").IsWithin c.root := h.targetDir.div (by decide)
  have hmoves := movesTo_generateBindings root' (generator c)
    (hdebug.div h.leadsOn_dynamicLibrary) h.bindingsDir (c.tools.executable .cargo)
  rw [moved_div hdebug h.leadsOn_dynamicLibrary, moved_div h.targetDir (by decide)] at hmoves
  exact stageMoves_of_tasks rfl rfl (.cons hmoves .nil)

theorem stageMoves_moduleMap (h : c.Rooted) (root' : Path) :
    StageMoves c.root root' (moduleMap c (c.bindingsDir / c.moduleMapName.plain))
      (moduleMap (c.movedTo root')
        ((c.movedTo root').bindingsDir / (c.movedTo root').moduleMapName.plain)) := by
  have hmoves := movesTo_renameModuleMap root'
    (h.bindingsDir.div h.leadsOn_generatedModuleMap) (h.bindingsDir.div h.moduleMapName)
    (c.tools.executable .mv)
  rw [moved_div h.bindingsDir h.leadsOn_generatedModuleMap,
    moved_div h.bindingsDir h.moduleMapName] at hmoves
  exact stageMoves_of_tasks rfl rfl (.cons hmoves .nil)

theorem stageMoves_mergeSlices (h : c.Rooted) (root' : Path) :
    StageMoves c.root root'
      (mergeSlices c (merging (simulatorLibraries c) c.mergedLibrary c.root))
      (mergeSlices (c.movedTo root') (merging (simulatorLibraries (c.movedTo root'))
        (c.movedTo root').mergedLibrary (c.movedTo root').root)) := by
  have hmoves := movesTo_merging root' (isWithin_of_mem_simulatorLibraries h)
    h.mergedLibrary (c.tools.executable .lipo)
  rw [← simulatorLibraries_movedTo h] at hmoves
  exact stageMoves_of_tasks rfl rfl (.cons hmoves .nil)

theorem stageMoves_xcframework (h : c.Rooted) (root' : Path) :
    StageMoves c.root root'
      (xcframework c (packaging [c.mergedLibrary, deviceLibrary c] c.bindingsDir
        (c.outputDir / c.framework) c.root))
      (xcframework (c.movedTo root') (packaging
        [(c.movedTo root').mergedLibrary, deviceLibrary (c.movedTo root')]
        (c.movedTo root').bindingsDir ((c.movedTo root').outputDir / (c.movedTo root').framework)
        (c.movedTo root').root)) := by
  have hdevice : (deviceLibrary c).IsWithin c.root :=
    h.isWithin_releaseLibrary (device_mem_targets c.targets)
  have hmoves := movesTo_packaging root' h.mergedLibrary hdevice h.bindingsDir
    (h.outputDir.div h.leadsOn_framework) (c.tools.executable .xcodebuild)
  rw [moved_div h.outputDir h.leadsOn_framework, ← deviceLibrary_movedTo h] at hmoves
  exact stageMoves_of_tasks rfl rfl (.cons hmoves .nil)

/-- A stage with one task that has a directory and no paths among its arguments. -/
theorem stageMoves_of_single {stage stage' : Stage} {t : Task} {dir dir' : Path}
    (hnone : stage.name ∉ pathStages) (hname : stage'.name = stage.name)
    (hdescription : stage'.description = stage.description) (htasks : stage.tasks = [t])
    (htasks' : stage'.tasks = [{ t with directory := some dir' }])
    (hdirectory : t.directory = some dir) (hdir : dir.IsWithin base)
    (hmoved : dir.moved base base' = dir') : StageMoves base base' stage stage' := by
  refine stageMoves_of_no_path hname hdescription hnone hdir hmoved ?_
  rw [htasks, htasks']
  exact .cons ⟨hdirectory, rfl⟩ .nil

theorem stageMoves_stages (h : c.Rooted) (root' : Path) :
    List.Forall₂ (StageMoves c.root root') (stages c) (stages (c.movedTo root')) := by
  have hroot := isWithin_self c.root
  have hmoved := moved_base c.root root'
  refine .cons ?preflight (.cons (stageMoves_clean h root') (.cons ?cargoClean
    (.cons (stageMoves_outputDir h root') (.cons ?debugStage (.cons (stageMoves_bindgen h root')
    (.cons (stageMoves_releaseBuilds c root') (.cons (stageMoves_moduleMap h root')
    (.cons (stageMoves_mergeSlices h root') (.cons (stageMoves_xcframework h root')
    (.cons ?compress (.cons ?checksum .nil)))))))))))
  case preflight =>
    exact stageMoves_of_single (show "preflight" ∉ pathStages by decide) rfl rfl rfl rfl rfl
      hroot hmoved
  case cargoClean =>
    exact stageMoves_of_single (show "cargo-clean" ∉ pathStages by decide) rfl rfl rfl rfl rfl
      hroot hmoved
  case debugStage =>
    exact stageMoves_of_single (show "debug-build" ∉ pathStages by decide) rfl rfl rfl rfl rfl
      hroot hmoved
  case compress =>
    exact stageMoves_of_single (show "compress" ∉ pathStages by decide) rfl rfl rfl rfl rfl
      h.outputDir rfl
  case checksum =>
    exact stageMoves_of_single (show "checksum" ∉ pathStages by decide) rfl rfl rfl rfl rfl
      h.outputDir rfl

end

/-- Settings that bring no place of their own resolve at one root when they do at another, and are
built there when they are here. The builds are the same stage by stage and task by task, with the
one root in the place of the other in all paths. -/
theorem pipeline_of_moved {host : Host} (hlinks : host.links = []) {data : Value}
    (hportable : ∀ entries, data.settings = .ok entries → Portable entries) {root root' : Path}
    (hroot : root.IsStraight) (hroot' : root'.IsStraight) :
    ((∃ c, resolve host data root = .ok c) ↔ ∃ c', resolve host data root' = .ok c') ∧
      ∀ c c', resolve host data root = .ok c → resolve host data root' = .ok c' →
        ((∃ p, pipeline c = .ok p) ↔ ∃ p', pipeline c' = .ok p') ∧
          ∀ p p', pipeline c = .ok p → pipeline c' = .ok p' →
            List.Forall₂ (StageMoves root root') p.stages p'.stages := by
  cases hdata : data.settings with
  | error e =>
    have hrefused (root : Path) (c : Config) : resolve host data root ≠ .ok c := by
      simp [resolve, hdata, bind, Except.bind]
    exact ⟨by simp [hrefused], fun c c' hc => absurd hc (hrefused root c)⟩
  | ok entries =>
    have hentries := hportable entries hdata
    simp only [resolved_iff_of_settings hdata]
    refine ⟨⟨?_, ?_⟩, fun c c' hc hc' => ?_⟩
    · rintro ⟨c, hc⟩
      exact ⟨_, (hc.moves hlinks hentries hroot hroot').2⟩
    · rintro ⟨c', hc'⟩
      exact ⟨_, (hc'.moves hlinks hentries hroot' hroot).2⟩
    · obtain ⟨hrooted, hmoved⟩ := hc.moves hlinks hentries hroot hroot'
      obtain ⟨hrooted', hmoved'⟩ := hc'.moves hlinks hentries hroot' hroot
      have hsame : c' = c.movedTo root' := Resolved.unique hc' hmoved
      have hback : c = c'.movedTo root := Resolved.unique hc hmoved'
      obtain rfl := hc.root_eq hlinks hroot
      refine ⟨?_, fun p p' hp hp' => ?_⟩
      · rw [exists_pipeline_iff, exists_pipeline_iff]
        exact ⟨fun h => hsame ▸ h.movedTo hrooted root',
          fun h => hback.symm ▸ h.movedTo hrooted' c.root⟩
      · rw [stages_of_pipeline hp, stages_of_pipeline hp', hsame]
        exact stageMoves_stages hrooted root'

theorem portable_nil : Portable [] where
  directories := by decide
  names := by decide
  triples list hlist := by
    cases hlist
    decide

/-- A project without settings, once at the root of all directories and once deeper down. -/
theorem pipeline_of_moved_deeper :
    let root := Path.root
    let root' := parse "/home/dev/project"
    Host.plain.links = [] ∧
      (∀ entries, Value.null.settings = .ok entries → Portable entries) ∧ root.IsStraight ∧
      root'.IsStraight ∧ ∃ c c' p p', resolve Host.plain .null root = .ok c ∧
        resolve Host.plain .null root' = .ok c' ∧ pipeline c = .ok p ∧ pipeline c' = .ok p' ∧
        List.Forall₂ (StageMoves root root') p.stages p'.stages := by
  intro root root'
  have hlinks : Host.plain.links = [] := rfl
  have hroot : root.IsStraight := ⟨rfl, by decide⟩
  have hroot' : root'.IsStraight := ⟨by decide, by decide⟩
  have hportable (entries : Value.Entries) (h : Value.null.settings = .ok entries) :
      Portable entries := by
    cases h
    exact portable_nil
  obtain ⟨tools, hc, -⟩ := exists_resolve_plain root rfl hroot.plain
  have hp := pipeline_of_buildable (buildable_usual root tools)
  obtain ⟨hresolves, hbuilds⟩ := pipeline_of_moved hlinks hportable hroot hroot'
  obtain ⟨c', hc'⟩ := hresolves.mp ⟨_, hc⟩
  obtain ⟨hexists, hmoves⟩ := hbuilds _ _ hc hc'
  obtain ⟨p', hp'⟩ := hexists.mp ⟨_, hp⟩
  exact ⟨hlinks, hportable, hroot, hroot', _, _, _, _, hc, hc', hp, hp',
    hmoves _ _ hp hp'⟩

end Build

end FrameworkForge
