import FrameworkForge.Config.Load
import FrameworkForge.Text.Fill

/-!
The commands of the command line and their options, with the texts that explain them.
-/

namespace FrameworkForge.CommandLine

inductive Flag where
  | help
  | config
  | projectRoot
  | start
  | stop
  | dryRun
  deriving DecidableEq, Repr

namespace Flag

def labels : Flag → List String
  | help => ["-h", "--help"]
  | config => ["--config"]
  | projectRoot => ["--project-root"]
  | start => ["--from"]
  | stop => ["--to"]
  | dryRun => ["--dry-run"]

def operand? : Flag → Option String
  | config => some "CONFIG"
  | projectRoot => some "PROJECT_ROOT"
  | start => some "START"
  | stop => some "STOP"
  | help | dryRun => none

def description : Flag → String
  | help => "show this help message and exit"
  | config => s!"Build config YAML (default: <project-root>/{Config.usualFile} if present)"
  | projectRoot => "Crate root containing Cargo.toml (default: cwd)"
  | start => "First stage to run"
  | stop => "Last stage to run"
  | dryRun => "Print commands, run nothing"

def title (f : Flag) : String :=
  "/".intercalate f.labels

def withOperand (f : Flag) (label : String) : String :=
  match f.operand? with
  | some operand => label ++ " " ++ operand
  | none => label

end Flag

inductive Command where
  | build
  | package
  | stages
  deriving DecidableEq, Repr

namespace Command

def name : Command → String
  | build => "build"
  | package => "package"
  | stages => "stages"

def ofName? (s : String) : Option Command :=
  if s = "build" then some build
  else if s = "package" then some package
  else if s = "stages" then some stages
  else none

def program (c : Command) : String :=
  s!"mlsrs ios {c.name}"

def description : Command → String
  | build => "Build, bind, merge, package, zip, and checksum the XCFramework"
  | package =>
    "Clear previous outputs, merge simulator slices, create the XCFramework, " ++
      "zip, and checksum (requires existing release builds and bindings)"
  | stages => "List pipeline stages in order"

def flags : Command → List Flag
  | build => [.help, .config, .projectRoot, .start, .stop, .dryRun]
  | package => [.help, .config, .projectRoot, .dryRun]
  | stages => [.help, .config, .projectRoot]

def labels (c : Command) : List (String × Flag) :=
  c.flags.flatMap fun flag => flag.labels.map fun label => (label, flag)

def ofLabel? (c : Command) (label : String) : Option Flag :=
  c.labels.lookup label

end Command

def lineWidth : Nat := 78

def explanationColumn : Nat := 24

namespace Command

def summaryPiece (f : Flag) : Text.Piece :=
  ⟨"[" ++ f.withOperand (f.labels.headD "") ++ "]", false⟩

/-- How the command is called. Further lines start below the first option. -/
def usage (c : Command) : List String :=
  let start := "usage: " ++ c.program
  Text.fill lineWidth ("".pushn ' ' (start.length + 1)) start (c.flags.map summaryPiece)

/-- An option with its explanation beside it, or below it where it takes too much room. -/
def explain (f : Flag) : List String :=
  let name := "  " ++ ", ".intercalate (f.labels.map f.withOperand)
  let explanation := Text.paragraph (lineWidth - explanationColumn) f.description
  let below := "".pushn ' ' explanationColumn
  if name.length + 2 ≤ explanationColumn then
    match explanation with
    | [] => [name]
    | first :: later =>
      (name.pushn ' ' (explanationColumn - name.length) ++ first) :: later.map (below ++ ·)
  else name :: explanation.map (below ++ ·)

def help (c : Command) : List String :=
  c.usage ++ [""] ++ Text.paragraph lineWidth c.description ++ ["", "options:"] ++
    c.flags.flatMap explain

end Command

def overview : List String :=
  ["Usage: mlsrs [-v] <command> [args...]",
    "Commands:",
    "  ios build     - Full XCFramework pipeline (rustup, cargo, uniffi-bindgen, lipo, " ++
      "xcodebuild, zip, checksum)",
    "  ios package   - Clean outputs, then merge, package, zip, and checksum existing builds",
    "  ios stages    - List pipeline stages"]

end FrameworkForge.CommandLine
