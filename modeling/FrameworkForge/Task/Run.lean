import FrameworkForge.Process
import FrameworkForge.Task

/-!
Runs of tasks. A run starts one process and says whether its exit code counts as success; a
process that could not start has a code and a reason of its own. A run can be interrupted, and has
no result then.
-/

namespace FrameworkForge

/-- Codes that a shell gives to a command that cannot be started. -/
def exitNotExecutable : Int := 126

def exitNotFound : Int := 127

/-- What ends a run without a result: the request to start a process was refused, or the directory
of a process that did not start could not be looked at. -/
inductive Interruption where
  | refused (text : String)
  | unseen (text : String)
  deriving DecidableEq, Repr

structure TaskResult where
  path : Path
  code : Int
  ok : Bool
  reason : String := ""

structure TaskFailure where
  path : Path
  code : Int
  deriving DecidableEq

namespace TaskFailure

def message (f : TaskFailure) : String :=
  s!"{f.path.text} failed with exit code {f.code}"

end TaskFailure

namespace TaskResult

def check (r : TaskResult) : Except TaskFailure TaskResult :=
  if r.ok then .ok r else .error ⟨r.path, r.code⟩

def text (r : TaskResult) : String :=
  if r.ok then s!"{r.path.text} exited with code {r.code}"
  else if r.reason = "" then s!"{r.path.text} failed with exit code {r.code}"
  else s!"{r.path.text} failed with exit code {r.code} ({r.reason})"

end TaskResult

namespace Task

def spawn (host : Host) (t : Task) : Spawn :=
  ⟨t.argv, t.environment host, t.directory.map Path.text⟩

/-- How the directory of a task looks. A task without one starts where the build itself runs. -/
def sight {σ : Type} (processes : Processes σ) (t : Task) (s : σ) : Sight :=
  match t.directory with
  | none => .directory
  | some p => processes.look s p

/-- Code and cause of a failed start. A missing directory comes before a missing tool. -/
def startFailure (t : Task) (sight : Sight) (fault : StartFault) :
    Except Interruption (Int × String) :=
  match t.directory, sight with
  | some p, .other =>
    .ok (exitNotFound, s!"working directory missing or not a directory: {p.text}")
  | some _, .unseen text => .error (.unseen text)
  | _, _ =>
    if fault.isNotFound then .ok (exitNotFound, "executable not found")
    else .ok (exitNotExecutable, s!"cannot execute: {fault.shown}")

def accepting (t : Task) (allowed : List Int) (code : Int) : Bool :=
  t.accepts code || code ∈ allowed

def resultOf (t : Task) (allowed : List Int) (sight : Sight) :
    Outcome → Except Interruption TaskResult
  | .exited code => .ok ⟨t.executable.path, code, t.accepting allowed code, ""⟩
  | .failed fault =>
    (t.startFailure sight fault).map fun failure =>
      ⟨t.executable.path, failure.1, t.accepting allowed failure.1, failure.2⟩
  | .refused text => .error (.refused text)

def endNotices (t : Task) : Except Interruption TaskResult → Outcome → List Notice
  | .ok r, .failed _ =>
    [.record ⟨.error, .task, s!"Could not start {t.executable.path.text}: {r.reason}"⟩]
  | .ok r, .exited _ =>
    if r.ok ∧ r.code ≠ 0 then
      [.debug .task s!"{t.executable.path.text} exited with tolerated code {r.code}"]
    else []
  | _, _ => []

/-- Starts the task, with further codes allowed for this run alone. The directory is looked at after
the start. -/
def run {σ : Type} (host : Host) (processes : Processes σ) (allowed : List Int) (t : Task)
    (s : σ) : Ran σ (Except Interruption TaskResult) :=
  let spawn := t.spawn host
  let (outcome, s) := processes.start s spawn
  let result := t.resultOf allowed (t.sight processes s) outcome
  let notices := .debug .task s!"Running {t.describe}" :: t.endNotices result outcome
  ⟨result, ⟨[spawn], [], notices⟩, s⟩

/-- Runs tasks in order up to the first that fails. The result is that of the last task run. -/
def runAll {σ : Type} (host : Host) (processes : Processes σ) :
    List Task → σ → Ran σ (Except Interruption (Option TaskResult))
  | [], s => ⟨.ok none, ∅, s⟩
  | t :: ts, s =>
    let first := t.run host processes [] s
    match first.value with
    | .error cause => ⟨.error cause, first.trace, first.state⟩
    | .ok result =>
      if result.ok then
        let later := runAll host processes ts first.state
        ⟨later.value.map fun last => some (last.getD result), first.trace ++ later.trace,
          later.state⟩
      else ⟨.ok (some result), first.trace, first.state⟩

end Task

end FrameworkForge
