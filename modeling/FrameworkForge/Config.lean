import FrameworkForge.Target
import FrameworkForge.Task

/-!
Configurations of a build: names, directories, tools and targets. Names are kept as the values
that the document gave; directories and tools are absolute.
-/

namespace FrameworkForge

inductive Tool where
  | cargo
  | rustup
  | rm
  | mkdir
  | mv
  | lipo
  | xcodebuild
  | zip
  | swift
  deriving DecidableEq, Repr

namespace Tool

def all : List Tool :=
  [cargo, rustup, rm, mkdir, mv, lipo, xcodebuild, zip, swift]

def name : Tool → String
  | cargo => "cargo"
  | rustup => "rustup"
  | rm => "rm"
  | mkdir => "mkdir"
  | mv => "mv"
  | lipo => "lipo"
  | xcodebuild => "xcodebuild"
  | zip => "zip"
  | swift => "swift"

def defaultPath : Tool → String
  | cargo => "~/.cargo/bin/cargo"
  | rustup => "~/.cargo/bin/rustup"
  | rm => "/bin/rm"
  | mkdir => "/bin/mkdir"
  | mv => "/bin/mv"
  | lipo => "/usr/bin/lipo"
  | xcodebuild => "/usr/bin/xcodebuild"
  | zip => "/usr/bin/zip"
  | swift => "/usr/bin/swift"

def ofName? (name : String) : Option Tool :=
  all.find? fun tool => tool.name = name

theorem ofName?_name (tool : Tool) : ofName? tool.name = some tool := by
  cases tool <;> decide

end Tool

/-- An executable for each tool, and further ones that the configuration names. -/
structure Toolbox where
  executable : Tool → Executable
  further : List (String × Executable)

namespace Toolbox

def entries (box : Toolbox) : List (String × Executable) :=
  Tool.all.map (fun tool => (tool.name, box.executable tool)) ++ box.further

end Toolbox

structure Config where
  root : Path
  crate : Value
  frameworkName : Value
  outputDir : Path
  bindingsDir : Path
  targetDir : Path
  mergedLibrary : Path
  moduleMapName : Value
  bindgenPackage : Value
  bindgenBinary : Value
  language : Value
  tools : Toolbox
  targets : TargetList

namespace Config

def names (c : Config) : List Value :=
  [c.frameworkName, c.language, c.crate, c.bindgenPackage, c.bindgenBinary, c.moduleMapName]

def framework (c : Config) : String :=
  Artifact.framework c.frameworkName.plain

def archive (c : Config) : String :=
  Artifact.archive c.frameworkName.plain

end Config

end FrameworkForge
