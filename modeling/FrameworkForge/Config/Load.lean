import FrameworkForge.Config.Resolve

/-!
Configurations from a file: a given one, or the usual file of the project if it is there. Without a
file every setting has its default.
-/

namespace FrameworkForge.Config

def usualFile : String := "ios-build.yaml"

def settingsOf (file : Path) (value : Value) : Except Error Value.Entries :=
  if !value.isGiven then .ok []
  else match value with
    | .map entries _ => .ok entries
    | _ => .error (.documentNotMapping file.text)

def readFile (host : Host) (file : Path) (content : Except Int Content) :
    Except Error Value.Entries :=
  match content with
  | .error code => .error (.fileRefused code file.text)
  | .ok content =>
    match host.reader content with
    | .error fault => .error (.unread fault)
    | .ok value => settingsOf file value

/-- The settings of a project: those of the given file, or of the usual one if it is there. -/
def settings (host : Host) (file : Option Path) (projectRoot : Path) :
    Except Error Value.Entries :=
  match file with
  | some file =>
    match host.content? file with
    | some content => readFile host file content
    | none => .error (.fileMissing file.text)
  | none =>
    let file := projectRoot / usualFile
    match host.content? file with
    | some content => readFile host file content
    | none => .ok []

def load (host : Host) (file : Option Path) (projectRoot : Path) : Except Error Config := do
  let entries ← settings host file projectRoot
  ofEntries host entries projectRoot

end FrameworkForge.Config
