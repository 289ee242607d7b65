import FrameworkForge.Build
import FrameworkForge.CommandLine.Arguments
import FrameworkForge.Pipeline.Run

/-!
Runs of the command line. Nothing is started before the configuration, the pipeline and the
selection of stages are all in order.
-/

namespace FrameworkForge.CommandLine

/-- How a run ends: with an exit code, by an error that is not reported to the user, or by what
interrupts a run of tasks. -/
inductive Ending where
  | exited (code : Nat)
  | escaped (error : Error)
  | interrupted (cause : Interruption)

variable {σ : Type}

def usageCode : Nat := 2

namespace Choices

def file? (c : Choices) : Except Error (Option Path) :=
  match c.config with
  | none => .ok none
  | some (some text) => .ok (some (Path.parse text))
  | some none => .error (.emptyOption .config)

/-- The bound of a range; an operand of which nothing is left is shown as an empty list. -/
def bound : Option Operand → Option String
  | none => none
  | some operand => some (operand.getD "[]")

/-- The configuration for the choices. A root that is not named is an error when it is needed. -/
def load (host : Host) (c : Choices) : Except Error Config := do
  let file ← c.file?
  match c.projectRoot, file with
  | none, _ => Config.load host file host.currentDirectory
  | some (some text), _ => Config.load host file (Path.parse text)
  | some none, none => throw (.emptyOption .root)
  | some none, some _ => do
    let entries ← Config.settings host file Path.here
    Config.checkKeys entries
    throw (.emptyOption .rootBesideConfig)

def mode (c : Choices) : Mode :=
  if c.dryRun then .rehearsal else .real

end Choices

structure Plan where
  config : Config
  pipeline : Pipeline
  selected : List Stage

namespace Command

def select (command : Command) (c : Choices) (p : Pipeline) : Except Error (List Stage) :=
  match command with
  | .package => p.selectNamed Build.packageStages
  | .build => p.select (Choices.bound c.start) (Choices.bound c.stop)
  | .stages => .ok p.stages

def plan (host : Host) (command : Command) (c : Choices) : Except Error Plan := do
  let config ← c.load host
  let pipeline ← Build.pipeline config
  let selected ← command.select c pipeline
  return ⟨config, pipeline, selected⟩

end Command

def refused (e : Error) (s : σ) : Ran σ Ending :=
  if e.isReported then ⟨.exited 1, .complained [s!"❌ {e.message}"], s⟩
  else ⟨.escaped e, ∅, s⟩

namespace Plan

def completeLine (p : Plan) : String :=
  s!"🎉 XCFramework build complete: {p.config.outputDir.text}"

def closing (p : Plan) (mode : Mode) (v : Verdict) : Trace :=
  match mode, v with
  | .real, .complete => .printed [p.completeLine]
  | _, _ => ∅

def ending (v : Verdict) : Ending :=
  match v.code with
  | .ok code => .exited code
  | .error cause => .interrupted cause

def run (p : Plan) (host : Host) (processes : Processes σ) (mode : Mode) (s : σ) :
    Ran σ Ending :=
  let ran := p.pipeline.runStages host processes mode p.selected s
  ⟨ending ran.value, ran.trace ++ p.closing mode ran.value, ran.state⟩

def numbered (n : Nat) : String :=
  let digits := toString n
  "".pushn ' ' (2 - digits.length) ++ digits

def nameWidth : Nat := 15

def stageLine (n : Nat) (stage : Stage) : String :=
  let name := stage.name.pushn ' ' (nameWidth - stage.name.length)
  s!"{numbered n}. {name} {stage.description}"

def stageLines (p : Plan) : List String :=
  (p.pipeline.stages.zipIdx 1).map fun (stage, n) => stageLine n stage

end Plan

namespace Command

def usageError (command : Command) (e : UsageError) (s : σ) : Ran σ Ending :=
  ⟨.exited usageCode,
    .complained (command.usage ++ [s!"{command.program}: error: {e.message}"]), s⟩

def runFor (command : Command) (host : Host) (processes : Processes σ) (c : Choices) (s : σ) :
    Ran σ Ending :=
  match command.plan host c with
  | .error e => refused e s
  | .ok plan =>
    match command with
    | .stages => ⟨.exited 0, .printed plan.stageLines, s⟩
    | .build | .package => plan.run host processes c.mode s

def run (command : Command) (host : Host) (processes : Processes σ) (words : List String) (s : σ) :
    Ran σ Ending :=
  match Request.read command words with
  | .error e => command.usageError e s
  | .ok .help => ⟨.exited 0, .printed command.help, s⟩
  | .ok (.run choices) => command.runFor host processes choices s

end Command

def failed (lines : List String) (s : σ) : Ran σ Ending :=
  ⟨.exited 1, .complained lines, s⟩

def runCommand (host : Host) (processes : Processes σ) (words : List String) (s : σ) :
    Ran σ Ending :=
  match words with
  | [] => failed ["mlsrs ios: missing subcommand (build, package, stages)"] s
  | name :: words =>
    match Command.ofName? name with
    | some command => command.run host processes words s
    | none =>
      failed [s!"mlsrs ios: unknown subcommand {Text.quoted name} (use build, package, or stages)"] s

def runWords (host : Host) (processes : Processes σ) (words : List String) (s : σ) :
    Ran σ Ending :=
  match words with
  | [] => failed overview s
  | name :: words =>
    if name = "ios" then runCommand host processes words s
    else failed [s!"Error: Unknown command: {name}"] s

def isVerbose (words : List String) : Bool :=
  words.head?.any fun word => word = "-v" || word = "--verbose"

/-- Runs the words of the program. The verbosity has no part in what happens, but in what the error
stream shows of it. -/
def run (host : Host) (processes : Processes σ) (words : List String) (s : σ) :
    Ran σ Ending × Bool :=
  if isVerbose words then (runWords host processes (words.drop 1) s, true)
  else (runWords host processes words s, false)

/-- The words of the build command in a full command line: those behind the program and the name
of the command group. -/
def commandWords (line : List String) : List String :=
  line.drop 2

end FrameworkForge.CommandLine
