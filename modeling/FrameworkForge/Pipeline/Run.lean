import FrameworkForge.Pipeline
import FrameworkForge.Task.Run

/-!
Runs of a pipeline. The stages run in order, and the first task that fails stops everything, as
does one whose run has no result. A rehearsal shows the tasks and starts nothing.
-/

namespace FrameworkForge

inductive Mode where
  | real
  | rehearsal
  deriving DecidableEq, Repr

inductive Verdict where
  | complete
  | stopped
  | interrupted (cause : Interruption)
  deriving DecidableEq, Repr

namespace Verdict

/-- The code that a run gives. An interrupted run gives none. -/
def code : Verdict → Except Interruption Nat
  | complete => .ok 0
  | stopped => .ok 1
  | interrupted cause => .error cause

end Verdict

namespace Stage

def header (p : Pipeline) (stage : Stage) : String :=
  s!"🔨 [{p.position stage.name}/{p.stages.length}] {stage.name}: {stage.description}"

def rehearsedLines (stage : Stage) : List String :=
  stage.tasks.map fun t => s!"  {t.describe}"

def failureLines (stage : Stage) (r : TaskResult) : List String :=
  [s!"❌ {r.text}", s!"   Pipeline stopped at stage {stage.name}"]

def completion (stage : Stage) : Trace :=
  .noticed [.debug .pipeline s!"Stage {stage.name} complete"]

end Stage

namespace Pipeline

variable {σ : Type}

/-- The result that says of a run of tasks that it failed, or why it has no result. -/
def failure? :
    Except Interruption (Option TaskResult) → Option (Except Interruption TaskResult)
  | .error cause => some (.error cause)
  | .ok none => none
  | .ok (some r) => if r.ok then none else some (.ok r)

def runStage (p : Pipeline) (host : Host) (processes : Processes σ) (stage : Stage) (s : σ) :
    Ran σ Verdict :=
  let ran := Task.runAll host processes stage.tasks s
  let shown := Trace.printed [stage.header p] ++ ran.trace
  match failure? ran.value with
  | some (.error cause) => ⟨.interrupted cause, shown, ran.state⟩
  | some (.ok r) => ⟨.stopped, shown ++ .complained (stage.failureLines r), ran.state⟩
  | none => ⟨.complete, shown ++ stage.completion, ran.state⟩

def runReal (p : Pipeline) (host : Host) (processes : Processes σ) :
    List Stage → σ → Ran σ Verdict
  | [], s => ⟨.complete, ∅, s⟩
  | stage :: stages, s =>
    let first := p.runStage host processes stage s
    match first.value with
    | .complete =>
      let later := runReal p host processes stages first.state
      ⟨later.value, first.trace ++ later.trace, later.state⟩
    | _ => first

def rehearsed (p : Pipeline) (stages : List Stage) : Trace :=
  .printed (stages.flatMap fun stage => stage.header p :: stage.rehearsedLines)

def runStages (p : Pipeline) (host : Host) (processes : Processes σ) (mode : Mode)
    (stages : List Stage) (s : σ) : Ran σ Verdict :=
  match mode with
  | .real => p.runReal host processes stages s
  | .rehearsal => ⟨.complete, p.rehearsed stages, s⟩

end Pipeline

end FrameworkForge
