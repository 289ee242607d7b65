import FrameworkForge.Config.Resolve
import FrameworkForge.Pipeline
import FrameworkForge.Recipe

/-!
The build of a framework: twelve stages from the registration of the targets to the checksum of
the archive.
-/

namespace FrameworkForge.Build

open Recipe

def packageStages : List String :=
  ["clean", "output-dir", "merge-slices", "xcframework", "compress", "checksum"]

def preflight (c : Config) : Stage where
  name := "preflight"
  description := "Register iOS targets with rustup"
  tasks := [registerTargets c.targets.targets c.root (c.tools.executable .rustup)]

def clean (c : Config) : Stage where
  name := "clean"
  description := "Remove previous XCFramework, archive, and merged library"
  tasks := [c.outputDir / c.framework, c.outputDir / c.archive, c.mergedLibrary].map fun p =>
    remove (p.shownFrom c.root) c.root (c.tools.executable .rm)

def cargoClean (c : Config) : Stage where
  name := "cargo-clean"
  description := "Reset cargo build cache"
  tasks := [clearCache c.root (c.tools.executable .cargo)]

def outputDir (c : Config) : Stage where
  name := "output-dir"
  description := "Create output directory"
  tasks := [makeDirectory (c.outputDir.shownFrom c.root) c.root (c.tools.executable .mkdir)]

def debugStage (c : Config) : Stage where
  name := "debug-build"
  description := "Debug build for binding generation"
  tasks := [debugBuild c.root (c.tools.executable .cargo)]

def generator (c : Config) : Generator where
  package := c.bindgenPackage.plain
  binary := c.bindgenBinary.plain
  language := c.language.plain

def bindgen (c : Config) : Stage where
  name := "bindgen"
  description := s!"Generate {c.language.plain} bindings"
  tasks :=
    [generateBindings (generator c)
      (c.targetDir / "debug" / Artifact.dynamicLibrary c.crate.plain) c.bindingsDir c.root
      (c.tools.executable .cargo)]

def targetNames (targets : List Target) : String :=
  ", ".intercalate (targets.map Target.name)

def releaseBuilds (c : Config) : Stage where
  name := "release-builds"
  description := "Release builds: " ++ targetNames c.targets.targets
  tasks := c.targets.targets.map fun t => releaseBuild t c.root (c.tools.executable .cargo)

def moduleMapFile (c : Config) : Except Error Path :=
  Config.fileIn c.bindingsDir .moduleMap c.moduleMapName

def moduleMap (c : Config) (dest : Path) : Stage where
  name := "modulemap"
  description := s!"Rename module map to {c.moduleMapName.plain}"
  tasks :=
    [renameModuleMap (c.bindingsDir / Artifact.generatedModuleMap c.crate.plain) dest c.root
      (c.tools.executable .mv)]

def simulatorLibraries (c : Config) : List Path :=
  c.targets.simulators.map fun t => t.releaseLibrary c.targetDir c.crate.plain

def deviceLibrary (c : Config) : Path :=
  c.targets.device.releaseLibrary c.targetDir c.crate.plain

def mergeSlices (c : Config) (recipe : Recipe) : Stage where
  name := "merge-slices"
  description := "Combine simulator slices: " ++ targetNames c.targets.simulators
  tasks := [recipe (c.tools.executable .lipo)]

def xcframework (c : Config) (recipe : Recipe) : Stage where
  name := "xcframework"
  description := s!"Create {c.framework}"
  tasks := [recipe (c.tools.executable .xcodebuild)]

def compressStage (c : Config) : Stage where
  name := "compress"
  description := s!"Zip {c.framework}"
  tasks := [compress c.archive c.framework c.outputDir (c.tools.executable .zip)]

def checksumStage (c : Config) : Stage where
  name := "checksum"
  description := s!"Compute checksum of {c.archive}"
  tasks := [checksum c.archive c.outputDir (c.tools.executable .swift)]

/-- The pipeline of a configuration. Names that cannot be written are met before anything else. -/
def pipeline (c : Config) : Except Error Pipeline := do
  c.names.forM Value.checkWritable
  let dest ← moduleMapFile c
  let merge ← mergeLibraries (simulatorLibraries c) c.mergedLibrary c.root
  let package ← createFramework [c.mergedLibrary, deviceLibrary c] c.bindingsDir
    (c.outputDir / c.framework) c.root
  Pipeline.ofStages
    [preflight c, clean c, cargoClean c, outputDir c, debugStage c, bindgen c, releaseBuilds c,
      moduleMap c dest, mergeSlices c merge, xcframework c package, compressStage c,
      checksumStage c]

end FrameworkForge.Build
