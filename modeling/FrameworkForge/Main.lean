import FrameworkForge.CommandLine.Run
import FrameworkForge.Yaml.Document

/-!
The program itself: what it reads of the machine, and what it prints. Links are looked for on the
ways that a build takes. The program starts no process, so that a build can be rehearsed only;
every start is refused by the system's code for what is not implemented.
-/

namespace FrameworkForge

def notImplemented : Nat := 38

/-- No start succeeds, and the given places are the directories. -/
def refusingProcesses (directories : List Path) : Processes Unit where
  start _ _ := (.failed (.system notImplemented (SystemCode.text notImplemented)), ())
  look _ p := if p ∈ directories then .directory else .other

/-- The name and the value in a text with an equals sign between them. -/
def variableOf (cs : List Char) : Option (String × String) :=
  match cs.dropWhile (· ≠ '=') with
  | _ :: value => some (String.ofList (cs.takeWhile (· ≠ '=')), String.ofList value)
  | [] => none

def readEnvironment : IO Environment := do
  let bytes ← IO.FS.readBinFile "/proc/self/environ"
  let entries := (Text.splitAt 0 bytes.toList).filterMap fun entry =>
    (Text.decodeUtf8 entry).toOption.bind variableOf
  return .ofList entries

/-- A user by name and number, with the home directory. -/
structure User where
  name : String
  number : String
  home : String

def userOf (line : String) : Option User :=
  match Text.splitAt ':' line.toList with
  | name :: _ :: number :: _ :: _ :: home :: _ =>
    some ⟨String.ofList name, String.ofList number, String.ofList home⟩
  | _ => none

def readUsers : IO (List User) := do
  return (← IO.FS.lines "/etc/passwd").toList.filterMap userOf

/-- The number of the user who runs the program, the first of several that the system tells. -/
def readOwnNumber : IO (Option String) := do
  let lines ← IO.FS.lines "/proc/self/status"
  let own := lines.toList.find? (·.startsWith "Uid:")
  return own.map fun line =>
    String.ofList ((line.toList.dropWhile (!Char.isDigit ·)).takeWhile Char.isDigit)

/-- The place that a name really leads to, where it is not the one that it names and there is
anything at all. -/
def readTarget (host : Host) (name : Path) : IO (Option Path) := do
  try
    let place := Path.parse (← IO.FS.realPath name.text).toString
    return if place = host.absolute name then none else some place
  catch _ => return none

/-- The links on the way of a path, by the names that a walk makes of it. -/
def readLinks (host : Host) (p : Path) : IO (List Link) := do
  let mut links := []
  let mut base : Path := if p.isAbsolute then .root else .here
  for c in p.parts do
    if c = .parent then base := base.up
    else
      let name := base.child c
      match ← readTarget host name with
      | none => base := name
      | some target =>
        links := ⟨name, target⟩ :: links
        base := target
  return links

/-- The content of the file that a name leads to, if there is one. Refusals for want of permission
are kept, and other errors end the program. -/
def readContent (file : Path) : IO (Option (Except Int Content)) := do
  try
    let bytes ← IO.FS.readBinFile file.text
    return some (.ok (.bytes bytes.toList))
  catch
  | .permissionDenied _ code _ => return some (.error code.toNat)
  | .noFileOrDirectory _ _ _ => return none
  | .inappropriateType _ _ _ => return none
  | e => throw e

namespace CommandLine

/-- The command and the choices that the words ask for, if they do. -/
def asked? (words : List String) : Option (Command × Choices) :=
  match if isVerbose words then words.drop 1 else words with
  | "ios" :: name :: rest =>
    match Command.ofName? name with
    | some command =>
      match Request.read command rest with
      | .ok (.run choices) => some (command, choices)
      | _ => none
    | none => none
  | _ => none

def rootOf (host : Host) (choices : Choices) : Path :=
  ((choices.projectRoot.bind id).map Path.parse).getD host.currentDirectory

def fileOf (host : Host) (choices : Choices) : Path :=
  ((choices.config.bind id).map Path.parse).getD (rootOf host choices / Config.usualFile)

/-- The directories that the settings name, as far as they can be read. -/
def settingPaths (host : Host) (choices : Choices) : List Path :=
  let root := rootOf host choices
  match host.resolve root, Config.settings host (some (fileOf host choices)) root with
  | .ok root, .ok entries =>
    [Setting.outputDir, .bindingsDir, .targetDir].filterMap fun setting =>
      ((Setting.inForce entries setting).written.toOption).map (root / ·)
  | _, _ => []

end CommandLine

/-- The machine, as far as the command line does not make a difference. -/
def readMachine : IO Host := do
  let users ← readUsers
  let own ← readOwnNumber
  return {
    environment := ← readEnvironment
    currentDirectory := Path.parse (← IO.currentDir).toString
    ownHome := (users.find? fun user => own = some user.number).map User.home
    homeOf := fun name => (users.find? fun user => user.name = name).map User.home
    links := []
    isEndless := fun _ => false
    content? := fun _ => none
    reader := Yaml.reader .usual }

/-- The machine with the file and the links that a command comes upon. -/
def readHost (words : List String) : IO Host := do
  let machine ← readMachine
  match CommandLine.asked? words with
  | none => return machine
  | some (_, choices) => do
    let file := CommandLine.fileOf machine choices
    let content ← readContent file
    let links ← readLinks machine (CommandLine.rootOf machine choices)
    let host := { machine with
      links
      content? := fun p => if p = file then content else none }
    let more ← (CommandLine.settingPaths host choices).mapM (readLinks host)
    return { host with links := links ++ more.flatten }

/-- The directories among those in which a command starts processes. -/
def readDirectories (host : Host) (words : List String) : IO (List Path) := do
  match CommandLine.asked? words with
  | none => return []
  | some (command, choices) =>
    match command.plan host choices with
    | .error _ => return []
    | .ok plan =>
      [plan.config.root, plan.config.outputDir].filterM fun p => do
        try (← IO.FS.realPath p.text).isDir
        catch _ => return false

def finish (ran : Ran Unit CommandLine.Ending) (verbose : Bool) : IO UInt32 := do
  (← IO.getStdout).putStr ran.trace.outText
  (← IO.getStderr).putStr (ran.trace.errText verbose)
  match ran.value with
  | .exited code => return code.toUInt32
  | .escaped e => throw (IO.userError e.message)
  | .interrupted (.refused text) | .interrupted (.unseen text) => throw (IO.userError text)

end FrameworkForge

def main (words : List String) : IO UInt32 := do
  let host ← FrameworkForge.readHost words
  let processes := FrameworkForge.refusingProcesses (← FrameworkForge.readDirectories host words)
  let (ran, verbose) := FrameworkForge.CommandLine.run host processes words ()
  FrameworkForge.finish ran verbose
