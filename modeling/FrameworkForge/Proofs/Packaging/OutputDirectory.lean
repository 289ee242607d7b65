import FrameworkForge.Proofs.Packaging.Tools
import FrameworkForge.Proofs.Path.Resolution

/-! What it says about the output directory that its stage has passed. The code that is tolerated
stands for a directory that is there already and for one that cannot be made, so the directory above
decides alone. -/

namespace FrameworkForge

namespace FileTree

variable {f : FileTree} {p : Place}

/-- Makes a directory in a free place with a directory above it. All else fails with one and changes
nothing. -/
def makeDirectory (f : FileTree) (p : Place) : Int × FileTree :=
  if f.node p = none ∧ f.node p.dropLast = some .directory then (0, f.graft p bare) else (1, f)

theorem makeDirectory_fst (f : FileTree) (p : Place) :
    (f.makeDirectory p).1 = 0 ∨ (f.makeDirectory p).1 = 1 := by
  rw [makeDirectory]
  split <;> simp

theorem makeDirectory_fst_eq_zero_iff : (f.makeDirectory p).1 = 0 ↔
    f.node p = none ∧ f.node p.dropLast = some .directory := by
  rw [makeDirectory]
  split <;> simp_all

theorem makeDirectory_snd_of_no_room (h : f.node p.dropLast ≠ some .directory) :
    (f.makeDirectory p).2 = f := by
  simp [makeDirectory, h]

theorem node_dropLast_of_directory (h : f.node p = some .directory) :
    f.node p.dropLast = some .directory := by
  induction p using List.reverseRecOn with
  | nil => exact h
  | append_singleton p name =>
    rw [List.dropLast_concat]
    exact f.closed p name (by simp [h])

theorem makeDirectory_ne_file (h : ∀ q bytes, f.node q ≠ some (.file bytes)) (q : Place)
    (bytes : List UInt8) : (f.makeDirectory p).2.node q ≠ some (.file bytes) := by
  rw [makeDirectory]
  split
  · next hroom =>
    rw [node_graft (fits_of_directory hroom.2), bare]
    split
    · dsimp only
      split <;> simp
    · exact h q bytes
  · exact h q bytes

theorem node_makeDirectory_iff (hfile : ∀ bytes, f.node p ≠ some (.file bytes)) :
    (f.makeDirectory p).2.node p = some .directory ↔ f.node p.dropLast = some .directory := by
  by_cases habove : f.node p.dropLast = some .directory
  · have hmade : (f.makeDirectory p).2.node p = some .directory := by
      cases hnode : f.node p with
      | none => simp [makeDirectory, hnode, habove, node_graft_self (fits_of_directory habove), bare]
      | some node =>
        cases node with
        | directory => simp [makeDirectory, hnode]
        | file bytes => exact absurd hnode (hfile bytes)
    exact iff_of_true hmade habove
  · rw [makeDirectory_snd_of_no_room habove]
    exact iff_of_false (mt node_dropLast_of_directory habove) habove

end FileTree

/-- An argument that a tool does not read as an operand. -/
def IsOption (argument : String) : Prop :=
  argument.toList.head? = some '-'

instance (argument : String) : Decidable (IsOption argument) :=
  inferInstanceAs (Decidable (_ = _))

/-- A process that is started in a directory with one operand makes the directory that the operand
names from there, or fails with one. Nothing is said of a place that lies behind a link. -/
structure MakesDirectories {σ : Type} (host : Host) (mkdir : Executable) (processes : Processes σ)
    (files : σ → FileTree) : Prop where
  makes : ∀ s operand environment cwd, ¬ IsOption operand → processes.look s cwd = .directory →
    (cwd / operand).isAbsolute = true → Path.IsDirect host.links (cwd / operand) →
      ∃ next, processes.start s ⟨[mkdir.path.text, operand], environment, some cwd.text⟩ =
          (.exited ((files s).makeDirectory (cwd / operand).parts).1, next) ∧
        files next = ((files s).makeDirectory (cwd / operand).parts).2

namespace Task

variable {σ : Type} (host : Host) (processes : Processes σ) (t : Task) (s : σ)

theorem value_runAll_singleton :
    (runAll host processes [t] s).value = (t.run host processes [] s).value.map some := by
  simp only [runAll]
  split
  · next hvalue => rw [hvalue]; rfl
  · next hvalue =>
    rw [hvalue]
    split <;> rfl

theorem state_runAll_singleton :
    (runAll host processes [t] s).state = (t.run host processes [] s).state := by
  simp only [runAll]
  split
  · rfl
  · split <;> rfl

end Task

/-- No link lies on the way to the output directory, unless a link without an end was met when it
was resolved. -/
theorem Config.Resolved.isDirect_outputDir {host : Host} {entries : Value.Entries}
    {projectRoot : Path} {c : Config} (h : Resolved host entries projectRoot c)
    (hloops : ∀ p, ¬ host.Loops p) : Path.IsDirect host.links c.outputDir := by
  obtain ⟨text, -, hdir⟩ := Checks.bind_eq_ok_iff.mp h.outputDir
  have habs := Path.isAbsolute_div (Host.isAbsolute_of_resolve h.root) text
  exact (Host.isDirect_of_resolve habs (hloops _) hdir).2

namespace Build

open Config Recipe

def directoryTask (c : Config) : Task :=
  makeDirectory (c.outputDir.shownFrom c.root) c.root (c.tools.executable .mkdir)

section

variable {c : Config} {p : Pipeline} {host : Host} {σ : Type} {processes : Processes σ}
  {files : σ → FileTree} {s next : σ}

theorem tasksOf_outputDir (hp : pipeline c = .ok p) :
    p.tasksOf "output-dir" = [directoryTask c] :=
  tasksOf_stage hp (outputDir c) (by simp [stages])

theorem runAll_outputDir (hp : pipeline c = .ok p) {code : Int} (hcode : code = 0 ∨ code = 1)
    (hstart : processes.start s ((directoryTask c).spawn host) = (.exited code, next)) :
    let ran := Task.runAll host processes (p.tasksOf "output-dir") s
    (∃ result, ran.value = .ok (some result) ∧ result.ok = true ∧ result.code = code) ∧
      ran.state = next := by
  intro ran
  have haccepts : (directoryTask c).accepting [] code = true := by
    rcases hcode with rfl | rfl <;> rfl
  have hvalue := Task.value_runAll_singleton host processes (directoryTask c) s
  have hstate := Task.state_runAll_singleton host processes (directoryTask c) s
  rw [← tasksOf_outputDir hp, Task.run, hstart] at hvalue hstate
  exact ⟨⟨_, hvalue, haccepts, rfl⟩, hstate⟩

theorem runAll_outputDir_of_makes {entries : Value.Entries} {projectRoot : Path}
    (h : Resolved host entries projectRoot c) (hp : pipeline c = .ok p)
    (hmkdir : MakesDirectories host (c.tools.executable .mkdir) processes files)
    (hoperand : ¬ IsOption (c.outputDir.shownFrom c.root))
    (hdirect : Path.IsDirect host.links c.outputDir)
    (hroot : processes.look s c.root = .directory) :
    let ran := Task.runAll host processes (p.tasksOf "output-dir") s
    let made := (files s).makeDirectory c.outputDir.parts
    (∃ result, ran.value = .ok (some result) ∧ result.ok = true ∧ result.code = made.1) ∧
      files ran.state = made.2 := by
  intro ran made
  have hplace : c.root / c.outputDir.shownFrom c.root = c.outputDir :=
    Path.div_shownFrom h.isAbsolute_outputDir _
  obtain ⟨next, hstart, hnext⟩ := hmkdir.makes s _ ((directoryTask c).environment host) _
    hoperand hroot (hplace.symm ▸ h.isAbsolute_outputDir) (hplace.symm ▸ hdirect)
  rw [hplace] at hstart hnext
  obtain ⟨hvalue, hstate⟩ := runAll_outputDir hp ((files s).makeDirectory_fst _) hstart
  exact ⟨hvalue, hstate ▸ hnext⟩

end

/-- The stage passes in any case. Afterwards the output directory is there exactly when the
directory above it was there before; when it was not, nothing has changed. -/
theorem outputDir_made_iff {host : Host} {data : Value} {projectRoot : Path} {c : Config}
    {p : Pipeline} (hc : Config.resolve host data projectRoot = .ok c) (hp : pipeline c = .ok p)
    {σ : Type} {processes : Processes σ} {files : σ → FileTree}
    (hmkdir : MakesDirectories host (c.tools.executable .mkdir) processes files)
    (hoperand : ¬ IsOption (c.outputDir.shownFrom c.root))
    (hdirect : Path.IsDirect host.links c.outputDir) {s : σ}
    (hroot : processes.look s c.root = .directory)
    (hfile : ∀ bytes, (files s).node c.outputDir.parts ≠ some (.file bytes)) :
    let ran := Task.runAll host processes (p.tasksOf "output-dir") s
    let above := (files s).node c.outputDir.parts.dropLast
    (∃ result, ran.value = .ok (some result) ∧ result.ok = true ∧
      (result.code = 0 ↔ (files s).node c.outputDir.parts = none ∧ above = some .directory)) ∧
      ((files ran.state).node c.outputDir.parts = some .directory ↔ above = some .directory) ∧
      (above ≠ some .directory → files ran.state = files s) := by
  intro ran above
  obtain ⟨entries, -, h⟩ := resolve_eq_ok_iff.mp hc
  obtain ⟨⟨result, hvalue, hok, hcode⟩, hstate⟩ :=
    runAll_outputDir_of_makes h hp hmkdir hoperand hdirect hroot
  refine ⟨⟨result, hvalue, hok, ?_⟩, ?_, fun hnone => ?_⟩
  · rw [hcode]
    exact FileTree.makeDirectory_fst_eq_zero_iff
  · rw [hstate]
    exact FileTree.node_makeDirectory_iff hfile
  · rw [hstate]
    exact FileTree.makeDirectory_snd_of_no_room hnone

/-- Every process makes the directory that its operand names. An option alone is refused. -/
def directoryMaker : Processes FileTree where
  start f spawn :=
    match spawn.argv, spawn.directory with
    | [_, operand], some cwd =>
      if IsOption operand then (.exited 1, f)
      else
        let made := f.makeDirectory (Path.parse cwd / operand).parts
        (.exited made.1, made.2)
    | _, _ => (.exited 1, f)
  look f p := if f.node p.parts = some .directory then .directory else .other

theorem makesDirectories_directoryMaker (host : Host) (mkdir : Executable) :
    MakesDirectories host mkdir directoryMaker id where
  makes f operand environment cwd hoperand _ _ _ := by
    refine ⟨(f.makeDirectory (cwd / operand).parts).2, ?_, rfl⟩
    simp [directoryMaker, hoperand]

theorem start_directoryMaker_of_refused {f : FileTree} {cwd p : Path}
    (habs : p.isAbsolute = true)
    (hrefused : IsOption (p.shownFrom cwd) ∨ f.node p.parts.dropLast ≠ some .directory)
    (mkdir : String) (environment : Environment) :
    directoryMaker.start f ⟨[mkdir, p.shownFrom cwd], environment, some cwd.text⟩ =
      (.exited 1, f) := by
  rcases hrefused with hoption | hnone
  · simp [directoryMaker, hoption]
  · simp [directoryMaker, Path.div_shownFrom habs, FileTree.makeDirectory, hnone]

def emptyProject (root : Path) : FileTree :=
  (FileTree.bare.makeDirectory root.parts).2

theorem not_loops_plain (p : Path) : ¬ Host.plain.Loops p := by
  rintro ⟨place, rest, hwalk⟩
  rcases Path.walk_no_links [] (if p.isAbsolute then .root else .here) p.parts with
    hrefused | ⟨⟨place', hreached⟩, -⟩
  · cases hrefused.symm.trans hwalk
  · cases hreached.symm.trans hwalk

theorem outputDir_made_iff_usual :
    ∃ c p, Config.resolve Host.plain .null (Path.parse "/project") = .ok c ∧
      pipeline c = .ok p ∧
      let ran := Task.runAll Host.plain directoryMaker (p.tasksOf "output-dir")
        (emptyProject (Path.parse "/project"))
      (∃ result, ran.value = .ok (some result) ∧ result.ok = true ∧ result.code = 0) ∧
        ran.state.node c.outputDir.parts = some .directory := by
  obtain ⟨tools, hc, -⟩ := exists_resolve_plain (Path.parse "/project") rfl (by decide)
  have hp := pipeline_of_buildable (buildable_usual (Path.parse "/project") tools)
  let f := emptyProject (Path.parse "/project")
  let dir := Path.parse "/project" / "buildIos"
  have hoperand : ¬ IsOption (dir.shownFrom (Path.parse "/project")) := by decide +kernel
  have hdirect : Path.IsDirect Host.plain.links dir := Path.IsPlain.isDirect (by decide) rfl
  have hroot : directoryMaker.look f (Path.parse "/project") = .directory := by decide +kernel
  have hfree : f.node dir.parts = none := by decide +kernel
  have habove : f.node dir.parts.dropLast = some .directory := by decide +kernel
  have hfile (bytes : List UInt8) : f.node dir.parts ≠ some (.file bytes) := by simp [hfree]
  obtain ⟨⟨result, hvalue, hok, hcode⟩, hmade, -⟩ := outputDir_made_iff hc hp
    (makesDirectories_directoryMaker Host.plain _) hoperand hdirect hroot hfile
  exact ⟨_, _, hc, hp, ⟨result, hvalue, hok, hcode.mpr ⟨hfree, habove⟩⟩, hmade.mpr habove⟩

def outputSettings (name : String) : Value.Entries :=
  [(.text Setting.outputDir.key, .text name)]

def usualIn (root : Path) (tools : Toolbox) (name : String) : Config :=
  { usual root tools with
    outputDir := root / name
    mergedLibrary := root / name / "libmls_rs_uniffi_ios_sim_combined.a" }

theorem resolved_usualIn {host : Host} {root : Path} {tools : Toolbox}
    (h : Resolved host [] root (usual root tools)) {name : String}
    (hname : host.resolve (root / name) = .ok (root / name)) :
    Resolved host (outputSettings name) root (usualIn root tools name) :=
  { h with
    outputDir := hname
    mergedLibrary := rfl }

theorem buildable_usualIn (root : Path) (tools : Toolbox) (name : String) :
    Buildable (usualIn root tools name) where
  writable := (buildable_usual root tools).writable
  moduleMapName := (buildable_usual root tools).moduleMapName
  libraries := (buildable_usual root tools).libraries

/-- In an empty project the stage passes for an output directory of the name, and leaves none. -/
def PassesWithout (name : String) : Prop :=
  ∃ c p, Config.resolve Host.plain (.map (outputSettings name) none) (Path.parse "/work") = .ok c ∧
    pipeline c = .ok p ∧
    let f := emptyProject (Path.parse "/work")
    let ran := Task.runAll Host.plain directoryMaker (p.tasksOf "output-dir") f
    MakesDirectories Host.plain (c.tools.executable .mkdir) directoryMaker id ∧
      Path.IsDirect Host.plain.links c.outputDir ∧
      directoryMaker.look f c.root = .directory ∧
      (∀ place bytes, place <+: c.outputDir.parts → f.node place ≠ some (.file bytes)) ∧
      (∃ result, ran.value = .ok (some result) ∧ result.ok = true) ∧
      ran.state.node c.outputDir.parts = none

theorem passesWithout_of_refused {name : String} (hname : (Path.parse name).lead = .relative)
    (hbelow : (Path.parse name).IsPlain)
    (hrefused : IsOption ((Path.parse "/work" / name).shownFrom (Path.parse "/work")) ∨
      (emptyProject (Path.parse "/work")).node (Path.parse "/work" / name).parts.dropLast ≠
        some .directory)
    (hfree : (emptyProject (Path.parse "/work")).node (Path.parse "/work" / name).parts = none) :
    PassesWithout name := by
  obtain ⟨tools, husual, -⟩ := exists_resolved_plain (Path.parse "/work") rfl (by decide)
  let c := usualIn (Path.parse "/work") tools name
  have hdir : Host.plain.resolve (Path.parse "/work" / name) = .ok (Path.parse "/work" / name) :=
    Host.resolve_div_self rfl rfl (by decide) hname hbelow
  have h : Resolved Host.plain (outputSettings name) (Path.parse "/work") c :=
    resolved_usualIn husual hdir
  have hp := pipeline_of_buildable (buildable_usualIn (Path.parse "/work") tools name)
  have hstart : directoryMaker.start (emptyProject (Path.parse "/work"))
      ((directoryTask c).spawn Host.plain) = (.exited 1, emptyProject (Path.parse "/work")) :=
    start_directoryMaker_of_refused h.isAbsolute_outputDir hrefused _ _
  obtain ⟨⟨result, hvalue, hok, -⟩, hstate⟩ := runAll_outputDir hp (.inr rfl) hstart
  refine ⟨c, _, resolve_eq_ok_iff.mpr ⟨_, rfl, h⟩, hp, makesDirectories_directoryMaker _ _,
    h.isDirect_outputDir not_loops_plain, ?_, ?_, ⟨result, hvalue, hok⟩, ?_⟩
  · change directoryMaker.look _ (Path.parse "/work") = _
    decide +kernel
  · exact fun place bytes _ => FileTree.makeDirectory_ne_file (by simp [FileTree.bare]) place bytes
  · rw [hstate]
    exact hfree

/-- Below a directory that is missing nothing can be made, and a name that is read as an option names
nothing. The stage passes both times. -/
theorem outputDir_not_made : PassesWithout "build/ios" ∧ PassesWithout "-p" := by
  constructor
  · exact passesWithout_of_refused (by decide) (by decide) (.inr (by decide +kernel))
      (by decide +kernel)
  · exact passesWithout_of_refused (by decide) (by decide) (.inl (by decide +kernel))
      (by decide +kernel)

end Build

end FrameworkForge
