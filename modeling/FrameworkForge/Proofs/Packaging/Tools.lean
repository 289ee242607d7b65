import FrameworkForge.Proofs.Build.Completion
import FrameworkForge.Proofs.Build.Jobs
import FrameworkForge.Proofs.Packaging.FileTree

/-! What the tools of a package run do to a file tree, and what a run of their jobs comes to. What
a tool makes is a function of what it reads; a build knows no more about it than that. -/

namespace FrameworkForge

/-- What the tools make of what they read, when they make anything. -/
structure Craft where
  merge : List Path → List (List UInt8) → Option (List UInt8)
  /-- A library that is not there has no content. -/
  package : List (Path × Path) → List (Option (List UInt8)) → List FileTree → Option FileTree
  /-- An archive that is there already is brought up to date. -/
  archive : Path → Option (List UInt8) → FileTree → Option (List UInt8)
  sums : Path → List UInt8 → Bool

namespace FileTree

def contents? (f : FileTree) (places : List Place) : Option (List (List UInt8)) :=
  places.mapM f.content?

theorem contents?_congr {f g : FileTree} {places : List Place}
    (h : ∀ p ∈ places, f.content? p = g.content? p) : f.contents? places = g.contents? places := by
  induction places with
  | nil => rfl
  | cons p places ih =>
    obtain ⟨hp, h⟩ := List.forall_mem_cons.mp h
    have hrest : places.mapM f.content? = places.mapM g.content? := ih h
    simp only [contents?, List.mapM_cons, hp, hrest]

def Makes (f : FileTree) (p : Place) (made : Option FileTree) (code : Int) (after : FileTree) :
    Prop :=
  match made with
  | some sub => code = 0 ∧ after = f.graft p sub
  | none => code ≠ 0

end FileTree

namespace Craft

variable (craft : Craft) (locate : Path → Place) (f : FileTree)

def merged? (inputs : List Path) : Option (List UInt8) :=
  (f.contents? (inputs.map locate)).bind (craft.merge inputs)

def packaged? (slices : List (Path × Path)) : Option FileTree :=
  craft.package slices (slices.map fun slice => f.content? (locate slice.1))
    (slices.map fun slice => f.below (locate slice.2))

def archived? (archive directory : Path) : Option (List UInt8) :=
  craft.archive directory (f.content? (locate archive)) (f.below (locate directory))

/-- The exit code of a job and the tree after it. Nothing is said about the tree that a failed job
leaves, nor about jobs for which there is no room. -/
def Does : Job → Int → FileTree → Prop
  | .remove target, code, after =>
    if f.node (locate target) = none then code = 1 ∧ after = f
    else code = 0 ∧ after = f.erase (locate target)
  | .makeDirectory target, code, after =>
    if f.node (locate target) = none then
      f.node (locate target).dropLast = some .directory →
        code = 0 ∧ after = f.graft (locate target) .bare
    else code = 1 ∧ after = f
  | .merge inputs output, code, after =>
    f.node (locate output) ≠ some .directory →
      if f.node (locate output).dropLast = some .directory then
        f.Makes (locate output) ((craft.merged? locate f inputs).map .single) code after
      else code ≠ 0
  | .package slices output, code, after =>
    if f.node (locate output) = none then
      f.node (locate output).dropLast = some .directory →
        f.Makes (locate output) (craft.packaged? locate f slices) code after
    else code ≠ 0
  | .compress archive directory, code, after =>
    f.node (locate archive) ≠ some .directory →
      f.node (locate archive).dropLast = some .directory →
        f.Makes (locate archive) ((craft.archived? locate f archive directory).map .single) code
          after
  | .checksum archive, code, after =>
    after = f ∧ ∀ bytes, f.content? (locate archive) = some bytes →
      (code = 0 ↔ craft.sums archive bytes = true)
  | .generate _ _, _, _ => True
  | .rename _ _, _, _ => True

end Craft

/-- Every process starts, and those of the tools do their jobs on the file tree of the state. -/
structure Serves {σ : Type} (tools : Toolbox) (craft : Craft) (locate : Path → Place)
    (processes : Processes σ) (files : σ → FileTree) : Prop where
  starts : ∀ s spawn, ∃ code, (processes.start s spawn).1 = .exited code
  does : ∀ s tool arguments environment cwd job, Job.read? cwd tool arguments = some job →
    ∀ code next, processes.start s ⟨(tools.executable tool).path.text :: arguments, environment,
      some cwd.text⟩ = (.exited code, next) → craft.Does locate (files s) job code (files next)

structure Asks (c : Config) (call : Tool × Job) (t : Task) : Prop where
  calls : Build.Calls c call.1 t
  job : t.job? c.tools call.1 = some call.2

namespace Asks

theorem does {σ : Type} {c : Config} {call : Tool × Job} {a : Attempt} (h : Asks c call a.task)
    {craft : Craft} {locate : Path → Place} {processes : Processes σ} {files : σ → FileTree}
    (hserves : Serves c.tools craft locate processes files) {host : Host} {s next : σ}
    (hstart : processes.start s (a.spawn host) = (a.outcome, next)) :
    ∃ code, a.outcome = .exited code ∧ craft.Does locate (files s) call.2 code (files next) := by
  obtain ⟨code, hcode⟩ := hserves.starts s (a.spawn host)
  rw [hstart] at hcode
  have houtcome : a.outcome = .exited code := hcode
  have hjob := h.job
  rw [Task.job?] at hjob
  split at hjob
  · next hpath =>
    obtain ⟨cwd, hcwd, hread⟩ := Option.bind_eq_some_iff.mp hjob
    refine ⟨code, houtcome, hserves.does s call.1 a.task.arguments (a.task.environment host) cwd
      call.2 hread code next ?_⟩
    rw [← houtcome, ← hstart, ← hpath]
    simp [Attempt.spawn, Task.spawn, Task.argv, hcwd]
  · cases hjob

end Asks

/-- The jobs of calls are done one after another on a file tree, up to the first after which a
build does not go on. -/
inductive Carried (craft : Craft) (locate : Path → Place) :
    List (Tool × Job) → FileTree → Verdict → FileTree → Prop
  | done (f : FileTree) : Carried craft locate [] f .complete f
  | goOn {tool : Tool} {job : Job} {jobs : List (Tool × Job)} {f next last : FileTree}
      {verdict : Verdict} {code : Int} (does : craft.Does locate f job code next)
      (goesOn : tool.GoesOn (.exited code)) (rest : Carried craft locate jobs next verdict last) :
      Carried craft locate ((tool, job) :: jobs) f verdict last
  | halt {tool : Tool} {job : Job} (jobs : List (Tool × Job)) {f last : FileTree} {code : Int}
      (does : craft.Does locate f job code last) (halt : ¬ tool.GoesOn (.exited code)) :
      Carried craft locate ((tool, job) :: jobs) f .stopped last

section

variable {σ : Type} {c : Config} {craft : Craft} {locate : Path → Place}
  {processes : Processes σ} {files : σ → FileTree} {host : Host}

theorem carried_of_chain (hserves : Serves c.tools craft locate processes files)
    {jobs : List (Tool × Job)} {tasks : List Task} (hasks : List.Forall₂ (Asks c) jobs tasks)
    {made : List Attempt} {r : Option (Except Interruption TaskResult)}
    (hfast : FailFast tasks made r) {s last : σ} (hchain : Chain host processes s made last) :
    Carried craft locate jobs (files s) (.ofFailure r) (files last) := by
  induction hasks generalizing made s with
  | nil =>
    obtain ⟨rfl, rfl⟩ := hfast.of_nil
    cases hchain
    exact .done _
  | @cons call t jobs tasks hcall _ ih =>
    obtain ⟨a, rest, rfl, rfl, hnext⟩ := hfast.of_cons
    cases hchain with
    | cons start _ tail =>
      obtain ⟨code, houtcome, hdoes⟩ := hcall.does hserves start
      have hpassed := Build.passed_iff_goesOn hcall.calls
      rw [houtcome] at hpassed
      rcases hnext with ⟨ha, hrest⟩ | ⟨ha, rfl, rfl⟩
      · exact .goOn hdoes (hpassed.mp ha) (ih hrest tail)
      · cases tail
        rw [Attempt.result, houtcome]
        exact .halt jobs hdoes fun hgo => ha (hpassed.mpr hgo)

theorem carried_of_executed (hserves : Serves c.tools craft locate processes files)
    {jobs : List (Tool × Job)} {p : Pipeline} {selected : List Stage}
    (hasks : List.Forall₂ (Asks c) jobs (selected.flatMap Stage.tasks)) {made : List Attempt}
    {s : σ} {ran : Ran σ Verdict} (h : Pipeline.Executed p host processes selected s made ran) :
    Carried craft locate jobs (files s) ran.value (files ran.state) := by
  obtain ⟨r, hvalue, hfast⟩ := h.failFast
  exact hvalue ▸ carried_of_chain hserves hasks hfast h.chain

end

namespace Tool

theorem goesOn_iff_of_not_mem {tool : Tool} (h : tool ∉ tolerant) (code : Int) :
    tool.GoesOn (.exited code) ↔ code = 0 := by
  simp [GoesOn, h]

theorem goesOn_of_mem {tool : Tool} (h : tool ∈ tolerant) {code : Int}
    (hcode : code = 0 ∨ code = 1) : tool.GoesOn (.exited code) := by
  rcases hcode with rfl | rfl
  · exact .inl rfl
  · exact .inr ⟨h, rfl⟩

end Tool

namespace Carried

variable {craft : Craft} {locate : Path → Place} {jobs : List (Tool × Job)} {f last : FileTree}
  {verdict : Verdict}

theorem of_tolerated {tool : Tool} (htolerant : tool ∈ Tool.tolerant) {job : Job}
    {next : FileTree}
    (hdoes : ∀ code after, craft.Does locate f job code after →
      (code = 0 ∨ code = 1) ∧ after = next)
    (h : Carried craft locate ((tool, job) :: jobs) f verdict last) :
    Carried craft locate jobs next verdict last := by
  cases h with
  | goOn does _ rest => exact (hdoes _ _ does).2 ▸ rest
  | halt _ does halt => exact absurd (Tool.goesOn_of_mem htolerant (hdoes _ _ does).1) halt

/-- Whether there was anything to remove or not, afterwards nothing is there. -/
theorem of_remove {target : Path}
    (h : Carried craft locate ((.rm, .remove target) :: jobs) f verdict last) :
    Carried craft locate jobs (f.erase (locate target)) verdict last := by
  refine h.of_tolerated (by decide) fun code after hdoes => ?_
  simp only [Craft.Does] at hdoes
  split at hdoes
  · next hnone => exact ⟨.inr hdoes.1, by rw [hdoes.2, FileTree.erase_of_none hnone]⟩
  · exact ⟨.inl hdoes.1, hdoes.2⟩

theorem of_removes {targets : List Path}
    (h : Carried craft locate (targets.map (fun target => (.rm, .remove target)) ++ jobs) f verdict
      last) :
    Carried craft locate jobs (f.clear (targets.map locate)) verdict last := by
  induction targets generalizing f with
  | nil => exact h
  | cons target targets ih => exact ih h.of_remove

theorem of_makeDirectory {target : Path}
    (hparent : f.node (locate target).dropLast = some .directory)
    (h : Carried craft locate ((.mkdir, .makeDirectory target) :: jobs) f verdict last) :
    Carried craft locate jobs (f.withDirectory (locate target)) verdict last := by
  refine h.of_tolerated (by decide) fun code after hdoes => ?_
  simp only [Craft.Does, FileTree.withDirectory] at hdoes ⊢
  split at hdoes
  · next hnone => exact ⟨.inl (hdoes hparent).1, by rw [if_pos hnone, (hdoes hparent).2]⟩
  · next hsome => exact ⟨.inr hdoes.1, by rw [if_neg hsome, hdoes.2]⟩

theorem of_makes {tool : Tool} (hstrict : tool ∉ Tool.tolerant) {job : Job} {p : Place}
    {made : Option FileTree}
    (hdoes : ∀ code after, craft.Does locate f job code after → f.Makes p made code after)
    (h : Carried craft locate ((tool, job) :: jobs) f verdict last) :
    (∃ sub, made = some sub ∧ Carried craft locate jobs (f.graft p sub) verdict last) ∨
      verdict = .stopped ∧ made = none := by
  cases h with
  | goOn does goesOn rest =>
    have hcode := (Tool.goesOn_iff_of_not_mem hstrict _).mp goesOn
    have hmakes := hdoes _ _ does
    cases made with
    | none => exact absurd hcode hmakes
    | some sub => exact .inl ⟨sub, rfl, hmakes.2 ▸ rest⟩
  | halt _ does halt =>
    have hcode := mt (Tool.goesOn_iff_of_not_mem hstrict _).mpr halt
    have hmakes := hdoes _ _ does
    cases made with
    | none => exact .inr ⟨rfl, rfl⟩
    | some sub => exact absurd hmakes.1 hcode

theorem of_merge {inputs : List Path} {output : Path}
    (hfree : f.node (locate output) = none)
    (h : Carried craft locate ((.lipo, .merge inputs output) :: jobs) f verdict last) :
    (∃ merged, craft.merged? locate f inputs = some merged ∧
      f.node (locate output).dropLast = some .directory ∧
      Carried craft locate jobs (f.graft (locate output) (.single merged)) verdict last) ∨
    verdict = .stopped ∧ (f.node (locate output).dropLast = some .directory →
      craft.merged? locate f inputs = none) := by
  have hnotDirectory : f.node (locate output) ≠ some .directory := by simp [hfree]
  by_cases hdirectory : f.node (locate output).dropLast = some .directory
  · have hdoes (code : Int) (after : FileTree)
        (hdoes : craft.Does locate f (.merge inputs output) code after) :
        f.Makes (locate output) ((craft.merged? locate f inputs).map .single) code after := by
      simpa only [hdirectory, if_true] using hdoes hnotDirectory
    rcases h.of_makes (by decide) hdoes with ⟨sub, hsub, hrest⟩ | ⟨hstop, hnone⟩
    · obtain ⟨merged, hmerged, rfl⟩ := Option.map_eq_some_iff.mp hsub
      exact .inl ⟨merged, hmerged, hdirectory, hrest⟩
    · exact .inr ⟨hstop, fun _ => Option.map_eq_none_iff.mp hnone⟩
  · have hdoes (code : Int) (after : FileTree)
        (hdoes : craft.Does locate f (.merge inputs output) code after) :
        f.Makes (locate output) none code after := by
      have hfails := hdoes hnotDirectory
      rw [if_neg hdirectory] at hfails
      exact hfails
    rcases h.of_makes (by decide) hdoes with ⟨sub, hsub, -⟩ | ⟨hstop, -⟩
    · cases hsub
    · exact .inr ⟨hstop, fun h => absurd h hdirectory⟩

theorem of_package {slices : List (Path × Path)} {output : Path}
    (hfree : f.node (locate output) = none)
    (hdirectory : f.node (locate output).dropLast = some .directory)
    (h : Carried craft locate ((.xcodebuild, .package slices output) :: jobs) f verdict last) :
    (∃ container, craft.packaged? locate f slices = some container ∧
      Carried craft locate jobs (f.graft (locate output) container) verdict last) ∨
    verdict = .stopped ∧ craft.packaged? locate f slices = none := by
  refine h.of_makes (by decide) fun code after hdoes => ?_
  simp only [Craft.Does, hfree, if_true] at hdoes
  exact hdoes hdirectory

/-- Where no archive is, the new one is made of the directory alone. -/
theorem of_compress {archive directory : Path} (hfree : f.node (locate archive) = none)
    (hdirectory : f.node (locate archive).dropLast = some .directory)
    (h : Carried craft locate ((.zip, .compress archive directory) :: jobs) f verdict last) :
    (∃ bytes, craft.archive directory none (f.below (locate directory)) = some bytes ∧
      Carried craft locate jobs (f.graft (locate archive) (.single bytes)) verdict last) ∨
    verdict = .stopped ∧ craft.archive directory none (f.below (locate directory)) = none := by
  have harchived : craft.archived? locate f archive directory =
      craft.archive directory none (f.below (locate directory)) := by
    simp [Craft.archived?, FileTree.content?, hfree]
  have hdoes (code : Int) (after : FileTree)
      (hdoes : craft.Does locate f (.compress archive directory) code after) :
      f.Makes (locate archive) ((craft.archived? locate f archive directory).map .single) code
        after :=
    hdoes (by simp [hfree]) hdirectory
  rw [harchived] at hdoes
  rcases h.of_makes (by decide) hdoes with ⟨sub, hsub, hrest⟩ | ⟨hstop, hnone⟩
  · obtain ⟨bytes, hbytes, rfl⟩ := Option.map_eq_some_iff.mp hsub
    exact .inl ⟨bytes, hbytes, hrest⟩
  · exact .inr ⟨hstop, Option.map_eq_none_iff.mp hnone⟩

theorem of_checksum {archive : Path} {bytes : List UInt8}
    (hbytes : f.content? (locate archive) = some bytes)
    (h : Carried craft locate [(.swift, .checksum archive)] f verdict last) :
    craft.sums archive bytes = true ∧ verdict = .complete ∧ last = f ∨
      craft.sums archive bytes = false ∧ verdict = .stopped := by
  cases h with
  | goOn does goesOn rest =>
    have hcode := (Tool.goesOn_iff_of_not_mem (by decide) _).mp goesOn
    cases rest
    exact .inl ⟨(does.2 bytes hbytes).mp hcode, rfl, does.1⟩
  | halt _ does halt =>
    have hcode := mt (Tool.goesOn_iff_of_not_mem (by decide) _).mpr halt
    have hsums := mt (does.2 bytes hbytes).mpr hcode
    exact .inr ⟨by simpa using hsums, rfl⟩

end Carried

end FrameworkForge
