import FrameworkForge.Config
import FrameworkForge.Value.Settings

/-!
From the settings of a document to a configuration. A setting that is null counts as absent, and
an absent one has its default; paths are resolved below the project root; tools and targets are
checked in the end.
-/

namespace FrameworkForge

inductive Setting where
  | crate
  | frameworkName
  | outputDir
  | bindingsDir
  | targetDir
  | mergedLibrary
  | moduleMapName
  | bindgenPackage
  | bindgenBinary
  | language
  | tools
  | targets
  deriving DecidableEq, Repr

namespace Setting

def all : List Setting :=
  [crate, frameworkName, outputDir, bindingsDir, targetDir, mergedLibrary, moduleMapName,
    bindgenPackage, bindgenBinary, language, tools, targets]

def key : Setting → String
  | crate => "crate"
  | frameworkName => "framework_name"
  | outputDir => "output_dir"
  | bindingsDir => "bindings_dir"
  | targetDir => "target_dir"
  | mergedLibrary => "merged_library"
  | moduleMapName => "module_map_name"
  | bindgenPackage => "bindgen_package"
  | bindgenBinary => "bindgen_bin"
  | language => "language"
  | tools => "tools"
  | targets => "targets"

def default : Setting → Value
  | crate => .text "mls_rs_uniffi_ios"
  | frameworkName => .text "MLSrs"
  | outputDir => .text "buildIos"
  | bindingsDir => .text "bindings"
  | targetDir => .text "target"
  | moduleMapName => .text "module.modulemap"
  | bindgenPackage | bindgenBinary => .text "uniffi-bindgen"
  | language => .text "swift"
  | mergedLibrary | tools | targets => .null

def isKnown (key : Value) : Bool :=
  all.any fun setting => key.sameKey (.text setting.key)

/-- The value in force: the given one unless it is null. -/
def inForce (entries : Value.Entries) (setting : Setting) : Value :=
  match Value.Entries.get? entries setting.key with
  | none | some .null => setting.default
  | some value => value

end Setting

namespace Config

def unknownKeys (entries : Value.Entries) : List Value :=
  (entries.map Prod.fst).filter fun key => !Setting.isKnown key

/-- Unknown keys are an error that lists them; keys that are not texts cannot be listed. -/
def checkKeys (entries : Value.Entries) : Except Error Unit :=
  if (unknownKeys entries).isEmpty then .ok ()
  else if (unknownKeys entries).all Value.isText then do
    throw (.unknownSettings (Text.sorted (← (unknownKeys entries).mapM Value.written)))
  else .error .unknownSettingKind

def fileIn (dir : Path) (setting : NameSetting) (name : Value) : Except Error Path :=
  if name.isText then do return dir / (← name.written) else .error (.nameNotText setting)

def mergedLibraryIn (outputDir : Path) (given crate : Value) : Except Error Path :=
  if given.isGiven then fileIn outputDir .mergedLibrary given
  else do
    return outputDir / Artifact.mergedLibrary (← crate.written)

def givenTools (entries : Value.Entries) : Except Error (Table String) :=
  let value := Setting.inForce entries .tools
  if !value.isGiven then .ok .empty
  else match value with
    | .map tools _ => Environment.ofEntries tools
    | _ => .error .toolsNotMapping

def isStandard (name : String) : Bool :=
  Tool.all.any fun tool => tool.name = name

def toolbox (host : Host) (given : Table String) : Except Error Toolbox := do
  let find (tool : Tool) :=
    Executable.ofSetting host ((given.get? tool.name).getD tool.defaultPath)
  let cargo ← find .cargo
  let rustup ← find .rustup
  let rm ← find .rm
  let mkdir ← find .mkdir
  let mv ← find .mv
  let lipo ← find .lipo
  let xcodebuild ← find .xcodebuild
  let zip ← find .zip
  let swift ← find .swift
  let executable : Tool → Executable
    | .cargo => cargo
    | .rustup => rustup
    | .rm => rm
    | .mkdir => mkdir
    | .mv => mv
    | .lipo => lipo
    | .xcodebuild => xcodebuild
    | .zip => zip
    | .swift => swift
  let others := given.entries.filter fun entry => !isStandard entry.1
  let further ← others.mapM fun entry => do
    return (entry.1, ← Executable.ofSetting host entry.2)
  return ⟨executable, further⟩

def targetList (entries : Value.Entries) : Except Error TargetList :=
  match Setting.inForce entries .targets with
  | .null => .ok .defaults
  | .list items _ => do
    let targets ← items.mapM Target.ofValue
    TargetList.check targets
  | _ => .error .targetsNotList

def ofEntries (host : Host) (entries : Value.Entries) (projectRoot : Path) :
    Except Error Config := do
  checkKeys entries
  let root ← host.resolve projectRoot
  let value (setting : Setting) := Setting.inForce entries setting
  let directory (setting : Setting) : Except Error Path := do
    host.resolve (root / (← (value setting).written))
  let outputDir ← directory .outputDir
  let bindingsDir ← directory .bindingsDir
  let targetDir ← directory .targetDir
  let crate := value .crate
  let mergedLibrary ← mergedLibraryIn outputDir (value .mergedLibrary) crate
  let given ← givenTools entries
  let tools ← toolbox host given
  let targets ← targetList entries
  return {
    root, crate, outputDir, bindingsDir, targetDir, mergedLibrary, tools, targets
    frameworkName := value .frameworkName
    moduleMapName := value .moduleMapName
    bindgenPackage := value .bindgenPackage
    bindgenBinary := value .bindgenBinary
    language := value .language }

def resolve (host : Host) (data : Value) (projectRoot : Path) : Except Error Config := do
  let entries ← data.settings
  ofEntries host entries projectRoot

end Config

end FrameworkForge
