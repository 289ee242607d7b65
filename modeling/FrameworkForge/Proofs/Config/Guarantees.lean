import FrameworkForge.Proofs.Config.Usual
import FrameworkForge.Proofs.Path.Resolution
import FrameworkForge.Proofs.Target.Entry

/-! What a configuration is sure to be, told from the settings alone: every part of it is the given
value, read as such a value is read, or the default. -/

namespace FrameworkForge.Config

open Checks

/-- The setting is there, with a value other than null. -/
structure Given (entries : Value.Entries) (setting : Setting) (value : Value) : Prop where
  get : Value.Entries.get? entries setting.key = some value
  ne_null : value ≠ .null

/-- The value is the given one, or the default where none is given. -/
structure Governs (entries : Value.Entries) (setting : Setting) (value : Value) : Prop where
  given : ∀ v, Given entries setting v → value = v
  absent : (∀ v, ¬ Given entries setting v) → value = setting.default

/-- The directory that the setting names from the root. To resolve it again leaves it as it is, if
every link on the way there comes to an end. -/
structure SettledBelow (host : Host) (entries : Value.Entries) (root : Path) (setting : Setting)
    (dir : Path) : Prop where
  named : ∃ value, Governs entries setting value ∧ host.resolve (root / value.plain) = .ok dir ∧
    (¬ host.Loops (root / value.plain) → host.resolve dir = .ok dir)
  absolute : dir.isAbsolute = true

/-- The given targets in the given order, or the default ones; and what makes them usable. -/
structure ListsTargets (entries : Value.Entries) (targets : List Target) : Prop where
  given : ∀ v, Given entries .targets v →
    ∃ items identity, v = .list items identity ∧ List.Forall₂ Target.Describes items targets
  absent : (∀ v, ¬ Given entries .targets v) → targets = Target.defaults
  distinctNames : (targets.map Target.name).Nodup
  distinctTriples : (targets.map Target.triple).Nodup
  oneDevice : ∃ device, targets.filter (fun t => t.platform = .device) = [device]
  someSimulator : ∃ t ∈ targets, t.platform = .simulator

/-- What a configuration is sure to be. A merged library that is absent, null or otherwise not given
is named after the crate in force. -/
structure Guarantees (host : Host) (entries : Value.Entries) (projectRoot : Path) (c : Config) :
    Prop where
  root : host.resolve projectRoot = .ok c.root
  outputDir : SettledBelow host entries c.root .outputDir c.outputDir
  bindingsDir : SettledBelow host entries c.root .bindingsDir c.bindingsDir
  targetDir : SettledBelow host entries c.root .targetDir c.targetDir
  namedLibrary : ∀ v, Given entries .mergedLibrary v → v.isGiven = true →
    v.isText = true ∧ c.mergedLibrary = c.outputDir / v.plain
  derivedLibrary : (∀ v, Given entries .mergedLibrary v → v.isGiven = false) →
    c.mergedLibrary = c.outputDir / s!"lib{c.crate.plain}_sim_combined.a"
  tools : HoldsTools host entries c.tools
  targets : ListsTargets entries c.targets.targets
  crate : Governs entries .crate c.crate
  frameworkName : Governs entries .frameworkName c.frameworkName
  moduleMapName : Governs entries .moduleMapName c.moduleMapName
  bindgenPackage : Governs entries .bindgenPackage c.bindgenPackage
  bindgenBinary : Governs entries .bindgenBinary c.bindgenBinary
  language : Governs entries .language c.language

section

variable {host : Host} {entries : Value.Entries} {setting : Setting} {value : Value} {root dir : Path}

theorem inForce_of_given (h : Given entries setting value) :
    Setting.inForce entries setting = value := by
  rw [Setting.inForce, h.get]
  split
  · next heq => cases heq
  · next heq => exact absurd (Option.some.inj heq) h.ne_null
  · next heq => exact (Option.some.inj heq).symm

theorem inForce_of_absent (h : ∀ v, ¬ Given entries setting v) :
    Setting.inForce entries setting = setting.default := by
  rw [Setting.inForce]
  split
  · rfl
  · rfl
  · next v hnull hget => exact absurd ⟨hget, hnull⟩ (h v)

theorem governs_inForce (entries : Value.Entries) (setting : Setting) :
    Governs entries setting (Setting.inForce entries setting) :=
  ⟨fun _ => inForce_of_given, inForce_of_absent⟩

theorem settledBelow_of_directoryIn (hroot : root.isAbsolute = true)
    (h : directoryIn host root (Setting.inForce entries setting) = .ok dir) :
    SettledBelow host entries root setting dir where
  named := by
    obtain ⟨text, htext, hdir⟩ := bind_eq_ok_iff.mp h
    obtain ⟨-, rfl⟩ := Value.written_eq_ok_iff.mp htext
    refine ⟨_, governs_inForce entries setting, hdir, fun hloops => ?_⟩
    exact Host.resolve_resolve (Path.isAbsolute_div hroot _) hloops hdir
  absolute := isAbsolute_of_directoryIn h

theorem targets_of_check {targets : List Target} {list : TargetList}
    (h : TargetList.check targets = .ok list) : list.targets = targets := by
  rw [TargetList.check] at h
  split at h
  · split at h
    · split at h
      · split at h
        · cases h
          rfl
        · cases h
      · cases h
    · cases h
  · cases h

theorem mapM_of_targetList {list : TargetList} (h : targetList entries = .ok list) {v : Value}
    (hv : Given entries .targets v) :
    ∃ items identity, v = .list items identity ∧ items.mapM Target.ofValue = .ok list.targets := by
  rw [targetList, inForce_of_given hv] at h
  split at h
  · exact absurd rfl hv.ne_null
  · next items identity =>
    obtain ⟨targets, hread, hcheck⟩ := bind_eq_ok_iff.mp h
    obtain rfl := targets_of_check hcheck
    exact ⟨items, identity, rfl, hread⟩
  · cases h

theorem listsTargets_of_targetList {list : TargetList} (h : targetList entries = .ok list) :
    ListsTargets entries list.targets where
  given v hv := by
    obtain ⟨items, identity, rfl, hread⟩ := mapM_of_targetList h hv
    exact ⟨items, identity, rfl,
      (mapM_eq_ok_iff.mp hread).imp fun _ _ => Target.describes_of_ofValue⟩
  absent hnone := by
    rw [targetList, inForce_of_absent hnone] at h
    cases h
    rfl
  distinctNames := list.distinctNames
  distinctTriples := list.distinctTriples
  oneDevice := List.length_eq_one_iff.mp list.oneDevice
  someSimulator := by
    obtain ⟨t, ht⟩ := List.exists_mem_of_ne_nil _ list.someSimulator
    exact ⟨t, by simpa [Target.simulators] using ht⟩

end

theorem settings_map {entries settings : Value.Entries} {identity : Option Nat}
    (h : (Value.map entries identity).settings = .ok settings) : settings = entries := by
  rw [Value.settings] at h
  split at h
  · next hnot =>
    cases h
    have hempty : entries = [] := by simpa [Value.isGiven] using hnot
    exact hempty.symm
  · exact (Except.ok.inj h).symm

theorem guarantees_of_resolved {host : Host} {entries : Value.Entries} {projectRoot : Path}
    {c : Config} (h : Resolved host entries projectRoot c) :
    Guarantees host entries projectRoot c := by
  have hroot := Host.isAbsolute_of_resolve h.root
  obtain ⟨given, hgiven, htools⟩ := h.tools
  exact {
    root := h.root
    outputDir := settledBelow_of_directoryIn hroot h.outputDir
    bindingsDir := settledBelow_of_directoryIn hroot h.bindingsDir
    targetDir := settledBelow_of_directoryIn hroot h.targetDir
    namedLibrary := by
      intro v hv hisGiven
      have hlibrary := h.mergedLibrary
      rw [inForce_of_given hv, mergedLibraryIn, if_pos hisGiven] at hlibrary
      obtain ⟨htext, -, heq⟩ := fileIn_eq_ok_iff.mp hlibrary
      exact ⟨htext, heq.symm⟩
    derivedLibrary := by
      intro hnone
      have hlibrary := h.mergedLibrary
      have hnot : ¬ (Setting.inForce entries .mergedLibrary).isGiven = true := by
        by_cases hgiven : ∃ v, Given entries .mergedLibrary v
        · obtain ⟨v, hv⟩ := hgiven
          simp [inForce_of_given hv, hnone v hv]
        · rw [inForce_of_absent fun v hv => hgiven ⟨v, hv⟩]
          simp [Setting.default, Value.isGiven]
      rw [mergedLibraryIn, if_neg hnot] at hlibrary
      obtain ⟨text, htext, hlibrary⟩ := bind_eq_ok_iff.mp hlibrary
      obtain ⟨-, rfl⟩ := Value.written_eq_ok_iff.mp htext
      rw [h.crate]
      exact (Except.ok.inj hlibrary).symm
    tools := holdsTools_of_toolbox hgiven htools
    targets := listsTargets_of_targetList h.targets
    crate := h.crate ▸ governs_inForce entries .crate
    frameworkName := h.frameworkName ▸ governs_inForce entries .frameworkName
    moduleMapName := h.moduleMapName ▸ governs_inForce entries .moduleMapName
    bindgenPackage := h.bindgenPackage ▸ governs_inForce entries .bindgenPackage
    bindgenBinary := h.bindgenBinary ▸ governs_inForce entries .bindgenBinary
    language := h.language ▸ governs_inForce entries .language }

/-- Settings that name the crate, leave the name of the merged library empty, and give one further
tool twice, under a truth value and under the text of that value. -/
def demoSettings : Value.Entries :=
  [(.text "crate", .text "demo"), (.text "merged_library", .text ""),
    (.text "tools", .map [(.text "lipo", .text "/opt/lipo"), (.bool true, .text "/opt/one"),
      (.text "True", .text "/opt/two")] none)]

def demoTools : Table String :=
  .ofList [("lipo", "/opt/lipo"), ("True", "/opt/one"), ("True", "/opt/two")]

theorem givenTools_demo : givenTools demoSettings = .ok demoTools :=
  rfl

theorem exists_toolbox_demo : ∃ box, toolbox Host.plain demoTools = .ok box := by
  have hfound (tool : Tool) : ∃ e, Executable.ofSetting Host.plain
      ((demoTools.get? tool.name).getD tool.defaultPath) = .ok e := by
    obtain ⟨e, he, -⟩ := exists_ofSetting_default Host.home_plain (by decide) tool
    cases tool with
    | lipo =>
      have habs : (Path.parse "/opt/lipo").isAbsolute = true := by decide
      exact ⟨_, ofSetting_of_isAbsolute Host.plain habs⟩
    | _ => exact ⟨e, he⟩
  choose executable hexecutable using hfound
  have hfurther : demoTools.entries.filter (fun entry => !isStandard entry.1) =
      [("True", "/opt/two")] := by
    decide
  refine ⟨⟨executable, [("True", ⟨Path.parse "/opt/two", by decide⟩)]⟩,
    toolbox_eq_ok_iff.mpr ⟨hexecutable, ?_⟩⟩
  rw [hfurther]
  rfl

def demo (tools : Toolbox) : Config :=
  { usual (Path.parse "/project") tools with
    crate := .text "demo"
    mergedLibrary := Path.parse "/project" / "buildIos" / "libdemo_sim_combined.a" }

theorem resolved_demo {tools : Toolbox} (htools : toolbox Host.plain demoTools = .ok tools) :
    Resolved Host.plain demoSettings (Path.parse "/project") (demo tools) := by
  obtain ⟨box, h, -⟩ := exists_resolved_plain (Path.parse "/project") rfl (by decide)
  exact { h with
    mergedLibrary := rfl
    tools := ⟨_, givenTools_demo, htools⟩
    crate := rfl }

end FrameworkForge.Config
