import FrameworkForge.Target
import FrameworkForge.Task

/-!
The tasks of a framework build, each waiting for its executable. They fix the arguments and the
directory, and the exit codes that only say that what was wanted is already so.
-/

namespace FrameworkForge

/-- A task that lacks its executable. -/
abbrev Recipe := Executable → Task

namespace Recipe

/-- Registering a target again, removing what is not there, or making a directory that is there
ends in this code. -/
def alreadySo : Int := 1

def registerTargets (targets : List Target) (root : Path) : Recipe := fun rustup =>
  { executable := rustup
    arguments := ["target", "add"] ++ targets.map Target.triple
    tolerated := [alreadySo]
    directory := some root }

def clearCache (root : Path) : Recipe := fun cargo =>
  { executable := cargo, arguments := ["clean"], directory := some root }

/-- Builds for the machine itself; the binding generator reads the dynamic library of this
build. -/
def debugBuild (root : Path) : Recipe := fun cargo =>
  { executable := cargo, arguments := ["build"], directory := some root }

def releaseBuild (target : Target) (root : Path) : Recipe := fun cargo =>
  { executable := cargo
    arguments := ["build", "--release", s!"--target={target.triple}"]
    overrides := target.overrides
    directory := some root }

/-- The package and the program of the binding generator, and the language that it writes. -/
structure Generator where
  package : String := "uniffi-bindgen"
  binary : String := "uniffi-bindgen"
  language : String := "swift"

def generateBindings (generator : Generator) (library outDir root : Path) : Recipe := fun cargo =>
  { executable := cargo
    arguments :=
      ["run", "-p", generator.package, "--bin", generator.binary, "generate", "--library",
        library.text, "--language", generator.language, "--out-dir", outDir.text]
    directory := some root }

def renameModuleMap (generated dest root : Path) : Recipe := fun mv =>
  { executable := mv, arguments := [generated.text, dest.text], directory := some root }

def merging (inputs : List Path) (output root : Path) : Recipe := fun lipo =>
  { executable := lipo
    arguments := ["-create", "-output", output.text] ++ inputs.map Path.text
    directory := some root }

/-- The libraries have to be different files, and one at least. -/
def mergeLibraries (inputs : List Path) (output root : Path) : Except Error Recipe :=
  if inputs = [] then .error .nothingToMerge
  else if ¬ inputs.Nodup then .error (.repeatedLibraries (inputs.map Path.text))
  else .ok (merging inputs output root)

def libraryArguments (headers library : Path) : List String :=
  ["-library", library.text, "-headers", headers.text]

def packaging (libraries : List Path) (headers output root : Path) : Recipe := fun xcodebuild =>
  { executable := xcodebuild
    arguments := ["-create-xcframework"] ++ libraries.flatMap (libraryArguments headers) ++
      ["-output", output.text]
    directory := some root }

def createFramework (libraries : List Path) (headers output root : Path) : Except Error Recipe :=
  if libraries = [] then .error .nothingToPackage
  else .ok (packaging libraries headers output root)

/-- Works inside the output directory, so that the archive holds relative paths. -/
def compress (archive framework : String) (outputDir : Path) : Recipe := fun zip =>
  { executable := zip, arguments := ["-r", archive, framework], directory := some outputDir }

def checksum (archive : String) (outputDir : Path) : Recipe := fun swift =>
  { executable := swift
    arguments := ["package", "compute-checksum", archive]
    directory := some outputDir }

/-- Removes a file or a directory with all that it holds, and names what it removes. -/
def remove (shown : String) (root : Path) : Recipe := fun rm =>
  { executable := rm
    arguments := ["-rv", shown]
    tolerated := [alreadySo]
    directory := some root }

def makeDirectory (shown : String) (root : Path) : Recipe := fun mkdir =>
  { executable := mkdir
    arguments := [shown]
    tolerated := [alreadySo]
    directory := some root }

end Recipe

end FrameworkForge
