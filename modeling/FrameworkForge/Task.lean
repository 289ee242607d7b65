import FrameworkForge.Host
import FrameworkForge.Text.Word

/-!
Tasks: one invocation of an external tool each. A task says what to start, with which arguments,
which variables to override, where, and which exit codes other than zero count as success.
-/

namespace FrameworkForge

structure Executable where
  path : Path
  absolute : path.isAbsolute = true

namespace Executable

/-- The error shows the path as it was given. -/
def check (p : Path) (error : Error) : Except Error Executable :=
  if h : p.isAbsolute = true then .ok ⟨p, h⟩ else .error error

def ofPath (p : Path) : Except Error Executable :=
  check p (.relativeExecutable p.text)

def ofText (s : String) : Except Error Executable :=
  check (Path.parse s) (.relativeExecutable s)

/-- The tool of a configuration, where a leading tilde stands for the home directory. -/
def ofSetting (host : Host) (s : String) : Except Error Executable := do
  let p ← host.expandHome (Path.parse s)
  check p (.relativeTool s)

end Executable

structure Task where
  executable : Executable
  arguments : List String
  overrides : Environment := .empty
  tolerated : List Int := []
  directory : Option Path := none

namespace Task

def argv (t : Task) : List String :=
  t.executable.path.text :: t.arguments

def accepts (t : Task) (code : Int) : Bool :=
  code = 0 || code ∈ t.tolerated

def accepted (t : Task) : List Int :=
  (0 :: t.tolerated).eraseDups.mergeSort

def environment (host : Host) (t : Task) : Environment :=
  host.environment.overlay t.overrides

def assignment (entry : String × String) : String :=
  s!"{entry.1}={Text.word entry.2}"

def commandText (t : Task) : String :=
  " ".intercalate (t.overrides.sorted.map assignment ++ [Text.words t.argv])

/-- The task as a shell command, in a shell of its own when it has a directory. -/
def describe (t : Task) : String :=
  match t.directory with
  | none => t.commandText
  | some p => s!"(cd {Text.word p.text} && {t.commandText})"

end Task

end FrameworkForge
