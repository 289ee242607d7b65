import FrameworkForge.Table

/-!
What a run shows to the world: the processes it starts, the lines it prints, and its notices on
the error stream. A notice is a line, or a record of the log whose look depends on the verbosity.
-/

namespace FrameworkForge

/-- A request to start a process, with the whole environment that the process gets. -/
structure Spawn where
  argv : List String
  environment : Environment
  directory : Option String

inductive Severity where
  | debug
  | error
  deriving DecidableEq, Repr

inductive Logger where
  | task
  | pipeline
  deriving DecidableEq, Repr

structure LogRecord where
  severity : Severity
  logger : Logger
  message : String
  deriving DecidableEq, Repr

inductive Notice where
  | line (text : String)
  | record (entry : LogRecord)
  deriving DecidableEq, Repr

namespace Severity

def label : Severity → String
  | debug => "DEBUG"
  | error => "ERROR"

end Severity

namespace Logger

def label : Logger → String
  | task => "mlsrs_tooling.process.task"
  | pipeline => "mlsrs_tooling.pipeline"

end Logger

namespace Notice

def debug (logger : Logger) (message : String) : Notice :=
  .record ⟨.debug, logger, message⟩

/-- Without verbosity only errors of the log are shown, and nothing but their message. -/
def shown? (verbose : Bool) : Notice → Option String
  | line text => some text
  | record entry =>
    if verbose then some s!"{entry.severity.label} {entry.logger.label}: {entry.message}"
    else match entry.severity with
      | .error => some entry.message
      | .debug => none

end Notice

structure Trace where
  spawns : List Spawn := []
  out : List String := []
  err : List Notice := []

namespace Trace

def append (first later : Trace) : Trace :=
  ⟨first.spawns ++ later.spawns, first.out ++ later.out, first.err ++ later.err⟩

instance : Append Trace :=
  ⟨append⟩

instance : EmptyCollection Trace :=
  ⟨⟨[], [], []⟩⟩

def printed (lines : List String) : Trace :=
  ⟨[], lines, []⟩

def noticed (notices : List Notice) : Trace :=
  ⟨[], [], notices⟩

def complained (lines : List String) : Trace :=
  noticed (lines.map Notice.line)

def lineText (lines : List String) : String :=
  String.join (lines.map (· ++ "\n"))

def outText (t : Trace) : String :=
  lineText t.out

def errText (t : Trace) (verbose : Bool) : String :=
  lineText (t.err.filterMap (Notice.shown? verbose))

end Trace

end FrameworkForge
