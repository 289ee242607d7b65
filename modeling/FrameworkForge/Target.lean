import FrameworkForge.Path
import FrameworkForge.Text.Order
import FrameworkForge.Value.Settings

/-!
Build targets: an architecture of a platform, with variables that its builds override. A usable
list of targets has one device and some simulators, and no name or triple twice. The files that a
build makes and consumes are named after the library crate or the framework.
-/

namespace FrameworkForge

namespace Artifact

def staticLibrary (crate : String) : String :=
  s!"lib{crate}.a"

def dynamicLibrary (crate : String) : String :=
  s!"lib{crate}.dylib"

def generatedModuleMap (crate : String) : String :=
  s!"{crate}FFI.modulemap"

def mergedLibrary (crate : String) : String :=
  s!"lib{crate}_sim_combined.a"

def framework (name : String) : String :=
  s!"{name}.xcframework"

def archive (name : String) : String :=
  s!"{framework name}.zip"

end Artifact

inductive Platform where
  | device
  | simulator
  deriving DecidableEq, Repr

namespace Platform

def text : Platform → String
  | device => "device"
  | simulator => "simulator"

def ofText? (s : String) : Option Platform :=
  if s = "device" then some device
  else if s = "simulator" then some simulator
  else none

theorem ofText?_eq_some_iff {s : String} {platform : Platform} :
    ofText? s = some platform ↔ platform.text = s := by
  constructor
  · intro h
    rw [ofText?] at h
    split at h
    · next hs =>
      cases h
      exact hs.symm
    · split at h
      · next hs =>
        cases h
        exact hs.symm
      · cases h
  · rintro rfl
    cases platform <;> decide

end Platform

structure Target where
  name : String
  triple : String
  platform : Platform
  overrides : Environment

namespace Target

def build (name triple platform : String) (overrides : Value.Entries) : Except Error Target :=
  match Platform.ofText? platform with
  | some platform => do
    return ⟨name, triple, platform, ← Environment.ofEntries overrides⟩
  | none => .error (.unknownPlatform name platform)

def library (t : Target) (targetDir : Path) (crate profile : String) : Path :=
  targetDir / t.triple / profile / Artifact.staticLibrary crate

def releaseLibrary (t : Target) (targetDir : Path) (crate : String) : Path :=
  t.library targetDir crate "release"

/-- The arm64 simulator, the device, and the x86_64 simulator, built in this order. -/
def defaults : List Target :=
  [⟨"simulator-arm64", "aarch64-apple-ios-sim", .simulator, .empty⟩,
    ⟨"device-arm64", "aarch64-apple-ios", .device,
      .ofList [("IPHONEOS_DEPLOYMENT_TARGET", "17.0")]⟩,
    ⟨"simulator-x86_64", "x86_64-apple-ios", .simulator, .empty⟩]

def requiredFields : List String :=
  ["name", "triple", "platform"]

def given? (entries : Value.Entries) (field : String) : Option Value :=
  (Value.Entries.get? entries field).filter Value.isGiven

/-- The names of the overrides whose values are not texts: a number would not keep its spelling. -/
def unquoted (overrides : Value.Entries) : Except Error (List String) := do
  let entries := overrides.filter fun entry => !entry.2.isText
  return Text.sorted (← entries.mapM fun entry => entry.1.written)

def overridesOf (target : Value) (entries : Value.Entries) : Except Error Value.Entries :=
  match given? entries "env" with
  | none => .ok []
  | some (.map overrides _) => do
    match ← unquoted overrides with
    | [] => return overrides
    | names => throw (.overridesNotText (← target.written) names)
  | some _ => do
    throw (.overridesNotMapping (← target.written))

def ofValue (entry : Value) : Except Error Target :=
  match entry with
  | .map entries _ => do
    match requiredFields.filter fun field => (given? entries field).isNone with
    | [] => do
      let field (name : String) := (given? entries name).getD .null
      let overrides ← overridesOf (field "name") entries
      let name ← (field "name").written
      let triple ← (field "triple").written
      let platform ← (field "platform").written
      build name triple platform overrides
    | missing => throw (.targetFieldsMissing (← entry.shown) missing)
  | _ => do
    throw (.targetNotMapping (← entry.shown))

def devices (targets : List Target) : List Target :=
  targets.filter fun t => t.platform = .device

def simulators (targets : List Target) : List Target :=
  targets.filter fun t => t.platform = .simulator

end Target

structure TargetList where
  targets : List Target
  distinctNames : (targets.map Target.name).Nodup
  distinctTriples : (targets.map Target.triple).Nodup
  oneDevice : (Target.devices targets).length = 1
  someSimulator : Target.simulators targets ≠ []

namespace TargetList

def check (targets : List Target) : Except Error TargetList :=
  if names : (targets.map Target.name).Nodup then
    if triples : (targets.map Target.triple).Nodup then
      if device : (Target.devices targets).length = 1 then
        if simulator : Target.simulators targets ≠ [] then
          .ok ⟨targets, names, triples, device, simulator⟩
        else .error .noSimulator
      else .error (.deviceCount (Target.devices targets).length)
    else .error (.duplicateTargetTriples (Text.repeated (targets.map Target.triple)))
  else .error (.duplicateTargetNames (Text.repeated (targets.map Target.name)))

def defaults : TargetList where
  targets := Target.defaults
  distinctNames := by decide
  distinctTriples := by decide
  oneDevice := by decide
  someSimulator := by decide

theorem devices_ne_nil (list : TargetList) : Target.devices list.targets ≠ [] := by
  intro h
  simpa [h] using list.oneDevice

def device (list : TargetList) : Target :=
  (Target.devices list.targets).head list.devices_ne_nil

def simulators (list : TargetList) : List Target :=
  Target.simulators list.targets

end TargetList

end FrameworkForge
