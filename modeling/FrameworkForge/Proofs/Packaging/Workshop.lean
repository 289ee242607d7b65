import FrameworkForge.Proofs.Packaging.Tools

/-! Processes that keep nothing but a file tree and do the jobs of the tools on it. They know a
tool by the name of its program, and they work for every craft. -/

namespace FrameworkForge

namespace FileTree

def accept (f : FileTree) (p : Place) (made : Option FileTree) : Int × FileTree :=
  match made with
  | some sub => if f.node p.dropLast = some .directory then (0, f.graft p sub) else (1, f)
  | none => (1, f)

theorem makes_accept (f : FileTree) {p : Place} (h : f.node p.dropLast = some .directory)
    (made : Option FileTree) : f.Makes p made (f.accept p made).1 (f.accept p made).2 := by
  cases made with
  | none => simp [Makes, accept]
  | some sub => simp [Makes, accept, h]

theorem accept_fst_ne_zero (f : FileTree) {p : Place} (h : f.node p.dropLast ≠ some .directory)
    (made : Option FileTree) : (f.accept p made).1 ≠ 0 := by
  cases made with
  | none => simp [accept]
  | some sub => simp [accept, h]

end FileTree

namespace Craft

variable (craft : Craft) (locate : Path → Place) (f : FileTree)

def perform : Job → Int × FileTree
  | .remove target =>
    if f.node (locate target) = none then (1, f) else (0, f.erase (locate target))
  | .makeDirectory target =>
    if f.node (locate target) = none then (0, f.graft (locate target) .bare) else (1, f)
  | .merge inputs output =>
    f.accept (locate output) ((craft.merged? locate f inputs).map .single)
  | .package slices output =>
    if f.node (locate output) = none then
      f.accept (locate output) (craft.packaged? locate f slices)
    else (1, f)
  | .compress archive directory =>
    f.accept (locate archive) ((craft.archived? locate f archive directory).map .single)
  | .checksum archive =>
    if (f.content? (locate archive)).any (craft.sums archive) then (0, f) else (1, f)
  | .generate _ _ => (0, f)
  | .rename _ _ => (0, f)

theorem does_perform (job : Job) :
    craft.Does locate f job (craft.perform locate f job).1 (craft.perform locate f job).2 := by
  cases job with
  | remove target => by_cases h : f.node (locate target) = none <;> simp [Does, perform, h]
  | makeDirectory target => by_cases h : f.node (locate target) = none <;> simp [Does, perform, h]
  | merge inputs output =>
    intro _
    by_cases h : f.node (locate output).dropLast = some .directory
    · rw [if_pos h]
      exact f.makes_accept h _
    · rw [if_neg h]
      exact f.accept_fst_ne_zero h _
  | package slices output =>
    by_cases hfree : f.node (locate output) = none
    · simp only [Does, perform, hfree, if_true]
      exact fun h => f.makes_accept h _
    · simp [Does, perform, hfree]
  | compress archive directory => exact fun _ h => f.makes_accept h _
  | checksum archive =>
    cases h : f.content? (locate archive) with
    | none => simp [Does, perform, h]
    | some bytes =>
      by_cases hsums : craft.sums archive bytes = true <;> simp [Does, perform, h, hsums]
  | generate | rename => trivial

end Craft

/-- The job of a spawn, whose tool is known by the name of the program. -/
def Spawn.job? (spawn : Spawn) : Option Job :=
  match spawn.argv, spawn.directory with
  | program :: arguments, some directory => do
    let name ← (Path.parse program).parts.getLast?
    let tool ← Tool.ofName? name.name
    Job.read? (Path.parse directory) tool arguments
  | _, _ => none

/-- A spawn that is no job exits with zero and changes nothing. -/
def workshop (craft : Craft) (locate : Path → Place) : Processes FileTree where
  start f spawn :=
    match spawn.job? with
    | some job => (.exited (craft.perform locate f job).1, (craft.perform locate f job).2)
    | none => (.exited 0, f)
  look f p := if f.node (locate p) = some .directory then .directory else .other

theorem serves_workshop {tools : Toolbox}
    (hcalled : ∀ tool, Config.CalledLike tool (tools.executable tool)) (craft : Craft)
    (locate : Path → Place) : Serves tools craft locate (workshop craft locate) id where
  starts f spawn := by
    cases h : spawn.job? with
    | none => exact ⟨0, by simp [workshop, h]⟩
    | some job => exact ⟨(craft.perform locate f job).1, by simp [workshop, h]⟩
  does f tool arguments environment cwd job hread code next hstart := by
    obtain ⟨name, hlast, hname⟩ := Option.map_eq_some_iff.mp (hcalled tool)
    have hjob : Spawn.job? ⟨(tools.executable tool).path.text :: arguments, environment,
        some cwd.text⟩ = some job := by
      simp [Spawn.job?, hlast, hname, Tool.ofName?_name, hread]
    simp only [workshop, hjob, Prod.mk.injEq, Outcome.exited.injEq] at hstart
    obtain ⟨rfl, rfl⟩ := hstart
    exact craft.does_perform locate f job

end FrameworkForge
