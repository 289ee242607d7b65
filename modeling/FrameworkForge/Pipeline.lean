import FrameworkForge.Task
import FrameworkForge.Text.Order

/-!
Pipelines: named stages in order, each a list of tasks. No two stages have one name. A selection
is a run of neighbouring stages or the stages of given names, and keeps the order.
-/

namespace FrameworkForge

structure Stage where
  name : String
  description : String
  tasks : List Task

namespace Stage

/-- Where no two stages have one name, the names of some of them choose these and no others. -/
theorem filter_name_mem {stages selected : List Stage} (hnodup : (stages.map name).Nodup)
    (h : selected.Sublist stages) :
    stages.filter (fun stage => stage.name ∈ selected.map name) = selected := by
  induction h with
  | slnil => rfl
  | @cons selected stages stage h ih =>
    obtain ⟨hnew, hnodup⟩ := List.nodup_cons.mp hnodup
    have hout : stage.name ∉ selected.map name := fun hmem => hnew ((h.map name).subset hmem)
    rw [List.filter_cons_of_neg (by simpa using hout), ih hnodup]
  | @cons_cons selected stages stage h ih =>
    obtain ⟨hnew, hnodup⟩ := List.nodup_cons.mp hnodup
    have hsame : stages.filter (fun other => other.name ∈ (stage :: selected).map name) =
        stages.filter (fun other => other.name ∈ selected.map name) := by
      refine List.filter_congr fun other hother => ?_
      have hne : other.name ≠ stage.name := fun heq => hnew (heq ▸ List.mem_map_of_mem hother)
      simp [hne]
    rw [List.filter_cons_of_pos (by simp), hsame, ih hnodup]

end Stage

structure Pipeline where
  stages : List Stage
  distinct : (stages.map Stage.name).Nodup

namespace Pipeline

def ofStages (stages : List Stage) : Except Error Pipeline :=
  if h : (stages.map Stage.name).Nodup then .ok ⟨stages, h⟩
  else .error (.duplicateStages (stages.map Stage.name))

def names (p : Pipeline) : List String :=
  p.stages.map Stage.name

def position (p : Pipeline) (name : String) : Nat :=
  p.names.idxOf name + 1

def checkStage (p : Pipeline) : Option String → Except Error Unit
  | none => .ok ()
  | some name =>
    if name ∈ p.names then .ok () else .error (.unknownStage name p.names)

/-- The stages from `start` through `stop`. A bound that is not given is the first stage or the
last one, of which there has to be one. -/
def select (p : Pipeline) (start stop : Option String) : Except Error (List Stage) := do
  p.checkStage start
  p.checkStage stop
  let first := (start.map p.position).getD 1
  let last := (stop.map p.position).getD p.stages.length
  if last < first then .error (.reversedRange start stop)
  else return (p.stages.take last).drop (first - 1)

def selectNamed (p : Pipeline) (wanted : List String) : Except Error (List Stage) :=
  match wanted.filter fun name => name ∉ p.names with
  | [] => .ok (p.stages.filter fun stage => stage.name ∈ wanted)
  | unknown => .error (.unknownStages (Text.sorted unknown.eraseDups) p.names)

end Pipeline

end FrameworkForge
