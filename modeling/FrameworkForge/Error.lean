import FrameworkForge.SystemCode
import FrameworkForge.Text.Quoted

/-!
Everything that can go wrong before a build starts, by cause. The command line reports some of
these to its user and exits; the others end the program.
-/

namespace FrameworkForge

inductive NameSetting where
  | mergedLibrary
  | moduleMap
  deriving DecidableEq, Repr

/-- Options whose operand names a file or a directory. The root counts twice, as it is looked up
later when a file was given. -/
inductive PathOption where
  | config
  | root
  | rootBesideConfig
  deriving DecidableEq, Repr

/-- Kinds of errors of a reader of documents, those first that are reported. -/
inductive FaultKind where
  | document
  | encoding
  | system
  | value
  | type
  | member
  | index
  | key
  | range
  | depth
  deriving DecidableEq, Repr

/-- An error of a reader of documents, with the text that it gives of itself. -/
structure ReaderFault where
  kind : FaultKind
  text : String
  deriving DecidableEq, Repr

namespace ReaderFault

def isReported (fault : ReaderFault) : Bool :=
  fault.kind ∈ [.document, .encoding, .system, .value]

end ReaderFault

inductive Error where
  | relativeTool (shown : String)
  | relativeExecutable (shown : String)
  | unknownHome
  | linkLoop (shown : String)
  | nullInUser
  | nullInPath (request : String)
  | unknownPlatform (target platform : String)
  | targetNotMapping (shown : String)
  | targetFieldsMissing (shown : String) (fields : List String)
  | overridesNotMapping (target : String)
  | overridesNotText (target : String) (names : List String)
  | duplicateTargetNames (names : List String)
  | duplicateTargetTriples (triples : List String)
  | deviceCount (found : Nat)
  | noSimulator
  | nothingToMerge
  | repeatedLibraries (shown : List String)
  | nothingToPackage
  | settingsNotMapping
  | settingsPairLength (index length : Nat)
  | unknownSettings (names : List String)
  | unknownSettingKind
  | nameNotText (setting : NameSetting)
  | toolsNotMapping
  | targetsNotList
  | documentNotMapping (file : String)
  | fileMissing (file : String)
  | fileRefused (code : Int) (file : String)
  | unread (fault : ReaderFault)
  | integerNotWritable
  | halfText
  | duplicateStages (names : List String)
  | unknownStage (name : String) (known : List String)
  | unknownStages (names known : List String)
  | reversedRange (start stop : Option String)
  | emptyOption (option : PathOption)

namespace NameSetting

def name : NameSetting → String
  | mergedLibrary => "merged_library"
  | moduleMap => "module_map_name"

end NameSetting

namespace Error

def commas (texts : List String) : String :=
  ", ".intercalate texts

/-- The bound of a range as shown; a bound that was not given has a word of its own. -/
def bound (stage : Option String) : String :=
  stage.getD "None"

def message : Error → String
  | relativeTool shown => s!"Tool path must be absolute: {shown}"
  | relativeExecutable shown => s!"Task executable must be an absolute path: {shown}"
  | unknownHome => "Could not determine home directory."
  | linkLoop shown => s!"Symlink loop from {Text.quoted shown}"
  | nullInUser => "embedded null byte"
  | nullInPath request => s!"{request}: embedded null character in path"
  | unknownPlatform target platform =>
    s!"Unknown platform for target {target}: {platform} (use device or simulator)"
  | targetNotMapping shown => s!"Build target entry must be a mapping: {shown}"
  | targetFieldsMissing shown fields => s!"Build target {shown} missing: {commas fields}"
  | overridesNotMapping target => s!"Build target {target}: env must be a mapping"
  | overridesNotText target names =>
    s!"Build target {target}: env values must be quoted strings: {commas names}"
  | duplicateTargetNames names => s!"Duplicate build target names: {commas names}"
  | duplicateTargetTriples triples => s!"Duplicate build target triples: {commas triples}"
  | deviceCount found => s!"Exactly one device target required, found {found}"
  | noSimulator => "At least one simulator target required"
  | nothingToMerge => "lipo needs at least one input library"
  | repeatedLibraries shown => s!"lipo inputs must be distinct: {Text.quotedList shown}"
  | nothingToPackage => "xcframework needs at least one library"
  | settingsNotMapping => "the configuration is not a mapping"
  | settingsPairLength index length =>
    s!"dictionary update sequence element #{index} has length {length}; 2 is required"
  | unknownSettings names => s!"Unknown build config keys: {commas names}"
  | unknownSettingKind => "a build config key is not a text"
  | nameNotText setting => s!"{setting.name} is not a text"
  | toolsNotMapping => "tools must be a mapping of tool name to path"
  | targetsNotList => "targets must be a list"
  | documentNotMapping file => s!"{file}: top level must be a mapping"
  | fileMissing file => s!"Config file not found: {file}"
  | fileRefused code file =>
    s!"[Errno {code}] {SystemCode.text code}: {Text.quoted file}"
  | unread fault => fault.text
  | integerNotWritable =>
    "Exceeds the limit (4300 digits) for integer string conversion; " ++
      "use sys.set_int_max_str_digits() to increase the limit"
  | halfText => "surrogates not allowed"
  | duplicateStages names => s!"Duplicate stage names: {Text.quotedList names}"
  | unknownStage name known => s!"Unknown stage: {name}. Stages: {commas known}"
  | unknownStages names known =>
    s!"Unknown stage: {commas names}. Stages: {commas known}"
  | reversedRange start stop => s!"Stage {bound start} comes after {bound stop}"
  | emptyOption .config => "the configuration file is not named"
  | emptyOption _ => "the project root is not named"

/-- Errors of the input and refusals of the system are reported to the user. The others are
faults that the command line does not expect. -/
def isReported : Error → Bool
  | unread fault => fault.isReported
  | unknownHome | linkLoop _ | settingsNotMapping | unknownSettingKind | nameNotText _
  | emptyOption _ => false
  | _ => true

end Error

end FrameworkForge
