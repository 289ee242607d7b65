import FrameworkForge.Proofs.Build.Libraries
import FrameworkForge.Proofs.Config.Rearrangement
import FrameworkForge.Proofs.Target.Acceptance

/-! Settings whose targets are listed in another order. They resolve and build like the others; the
builds of the targets come in another order, and two tasks name the same targets in another
order. -/

namespace FrameworkForge

namespace Value

variable {entries : Entries} {name other : String} {v : Value}

theorem get?_insertKey_self (entries : Entries) (name : String) (v : Value) :
    Entries.get? (insertKey entries (.text name) v) name = some v := by
  have hself : (text name).sameKey (.text name) = true := sameKey_text_iff.mpr rfl
  induction entries with
  | nil => simp [insertKey, Entries.get?, hself]
  | cons entry rest ih =>
    rw [insertKey]
    split
    · next hkey => simp [Entries.get?, hkey]
    · next hkey => simpa [Entries.get?, hkey] using ih

theorem without_insertKey (entries : Entries) (name : String) (v : Value) :
    Entries.without (insertKey entries (.text name) v) name = entries.without name := by
  have hself : (text name).sameKey (.text name) = true := sameKey_text_iff.mpr rfl
  induction entries with
  | nil => simp [insertKey, Entries.without, hself]
  | cons entry rest ih =>
    rw [insertKey]
    split
    · next hkey => simp [Entries.without, hkey]
    · next hkey =>
      simp only [Entries.without, List.filter_cons] at ih ⊢
      rw [ih]

end Value

open Checks

namespace Config

def retargeted (c : Config) (list : TargetList) : Config :=
  { c with targets := list }

/-- The settings with other targets in the place of theirs. -/
def withTargets (entries : Value.Entries) (items : List Value) (identity : Option Nat) :
    Value.Entries :=
  Value.insertKey entries (.text Setting.targets.key) (.list items identity)

/-- The same settings with their targets in another order. -/
structure Reordered (entries entries' : Value.Entries) (items items' : List Value) : Prop where
  given : ∃ identity, Given entries .targets (.list items identity)
  given' : ∃ identity, Given entries' .targets (.list items' identity)
  others : entries.without Setting.targets.key = entries'.without Setting.targets.key
  perm : items.Perm items'

variable {entries entries' : Value.Entries} {items items' : List Value}

theorem Reordered.symm (h : Reordered entries entries' items items') :
    Reordered entries' entries items' items :=
  ⟨h.given', h.given, h.others.symm, h.perm.symm⟩

theorem reordered_withTargets {identity : Option Nat}
    (hget : entries.get? Setting.targets.key = some (.list items identity))
    (hperm : items.Perm items') (identity' : Option Nat) :
    Reordered entries (withTargets entries items' identity') items items' where
  given := ⟨identity, hget, nofun⟩
  given' := ⟨identity', Value.get?_insertKey_self _ _ _, nofun⟩
  others := (Value.without_insertKey _ _ _).symm
  perm := hperm

theorem Reordered.inForce_eq (h : Reordered entries entries' items items') {setting : Setting}
    (hsetting : setting ≠ .targets) :
    Setting.inForce entries' setting = Setting.inForce entries setting := by
  have hkey : setting.key ≠ Setting.targets.key := by
    cases setting <;> first | decide | exact absurd rfl hsetting
  rw [← Setting.inForce_without hkey, ← h.others, Setting.inForce_without hkey]

theorem Reordered.checkKeys_eq (h : Reordered entries entries' items items') :
    checkKeys entries' = checkKeys entries := by
  rw [← checkKeys_without entries' .targets, ← h.others, checkKeys_without]

theorem mapM_of_listed {list : TargetList} {identity : Option Nat}
    (hlist : targetList entries = .ok list)
    (hgiven : Given entries .targets (.list items identity)) :
    items.mapM Target.ofValue = .ok list.targets := by
  obtain ⟨_, _, hitems, hread⟩ := mapM_of_targetList hlist hgiven
  cases hitems
  exact hread

/-- Another order of the targets is read as another order of what the first one is read as. -/
theorem Reordered.exists_targetList (h : Reordered entries entries' items items')
    {list : TargetList} (hlist : targetList entries = .ok list) :
    ∃ list', targetList entries' = .ok list' ∧ list.targets.Perm list'.targets := by
  obtain ⟨identity, hgiven⟩ := h.given
  obtain ⟨identity', hgiven'⟩ := h.given'
  have hread := mapM_eq_ok_iff.mp (mapM_of_listed hlist hgiven)
  obtain ⟨targets, hread', hperm⟩ := List.perm_comp_forall₂ h.perm.symm hread
  have husable : Target.Usable list.targets :=
    Target.exists_check_iff.mp ⟨list, check_targets list, rfl⟩
  obtain ⟨list', hcheck, rfl⟩ := Target.exists_check_iff.mpr (husable.perm hperm.symm)
  refine ⟨list', ?_, hperm.symm⟩
  rw [targetList, inForce_of_given hgiven']
  exact bind_eq_ok_iff.mpr ⟨_, mapM_eq_ok_iff.mpr hread', hcheck⟩

/-- The order of the targets has no part in anything but the targets. -/
theorem Reordered.resolved (h : Reordered entries entries' items items') {host : Host}
    {projectRoot : Path} {c : Config} (hc : Resolved host entries projectRoot c)
    {list : TargetList} (hlist : targetList entries' = .ok list) :
    Resolved host entries' projectRoot (c.retargeted list) := by
  have hvalue (setting : Setting) (hsetting : setting ≠ .targets) :
      Setting.inForce entries' setting = Setting.inForce entries setting :=
    h.inForce_eq hsetting
  obtain ⟨given, hgiven, htools⟩ := hc.tools
  have hgiven' : givenTools entries' = .ok given := by
    rw [givenTools, hvalue .tools (by decide), ← givenTools, hgiven]
  exact {
    keys := h.checkKeys_eq.trans hc.keys
    root := hc.root
    outputDir := hvalue .outputDir (by decide) ▸ hc.outputDir
    bindingsDir := hvalue .bindingsDir (by decide) ▸ hc.bindingsDir
    targetDir := hvalue .targetDir (by decide) ▸ hc.targetDir
    mergedLibrary := by
      rw [hvalue .mergedLibrary (by decide), hvalue .crate (by decide)]
      exact hc.mergedLibrary
    tools := ⟨given, hgiven', htools⟩
    targets := hlist
    crate := hvalue .crate (by decide) ▸ hc.crate
    frameworkName := hvalue .frameworkName (by decide) ▸ hc.frameworkName
    moduleMapName := hvalue .moduleMapName (by decide) ▸ hc.moduleMapName
    bindgenPackage := hvalue .bindgenPackage (by decide) ▸ hc.bindgenPackage
    bindgenBinary := hvalue .bindgenBinary (by decide) ▸ hc.bindgenBinary
    language := hvalue .language (by decide) ▸ hc.language }

theorem Reordered.exists_resolved (h : Reordered entries entries' items items') {host : Host}
    {projectRoot : Path} {c : Config} (hc : Resolved host entries projectRoot c) :
    ∃ list, Resolved host entries' projectRoot (c.retargeted list) ∧
      c.targets.targets.Perm list.targets := by
  obtain ⟨list, hlist, hperm⟩ := h.exists_targetList hc.targets
  exact ⟨list, h.resolved hc hlist, hperm⟩

/-- Two configurations are one but for the order of their targets, which is that of the items. -/
inductive Retargets (items items' : List Value) (c : Config) : Config → Prop
  | targets {list : TargetList} (read : items.mapM Target.ofValue = .ok c.targets.targets)
      (read' : items'.mapM Target.ofValue = .ok list.targets)
      (perm : c.targets.targets.Perm list.targets) : Retargets items items' c (c.retargeted list)

theorem Reordered.retargets (h : Reordered entries entries' items items') {host : Host}
    {projectRoot : Path} {c c' : Config} (hc : Resolved host entries projectRoot c)
    (hc' : Resolved host entries' projectRoot c') : Retargets items items' c c' := by
  obtain ⟨list, hlist, hperm⟩ := h.exists_resolved hc
  have hsame : c' = c.retargeted list := hc'.unique hlist
  subst hsame
  obtain ⟨_, hgiven⟩ := h.given
  obtain ⟨_, hgiven'⟩ := h.given'
  exact .targets (mapM_of_listed hc.targets hgiven) (mapM_of_listed hc'.targets hgiven') hperm

end Config

namespace Build

open Config Recipe

variable {c : Config} {list : TargetList}

theorem device_eq_of_perm {list list' : TargetList} (h : list.targets.Perm list'.targets) :
    list.device = list'.device := by
  have hdevices : (Target.devices list.targets).Perm (Target.devices list'.targets) := h.filter _
  rw [list.devices_eq, list'.devices_eq] at hdevices
  exact List.singleton_perm_singleton.mp hdevices

theorem perm_simulatorLibraries (h : c.targets.targets.Perm list.targets) :
    (simulatorLibraries c).Perm (simulatorLibraries (c.retargeted list)) :=
  (h.filter _).map _

theorem Buildable.retargeted (h : Buildable c) (hperm : c.targets.targets.Perm list.targets) :
    Buildable (c.retargeted list) where
  writable := h.writable
  moduleMapName := h.moduleMapName
  libraries := (perm_simulatorLibraries hperm).nodup_iff.mp h.libraries

/-- The stages whose tasks go by the order of the targets. -/
def orderedStages : List String :=
  ["preflight", "release-builds", "merge-slices"]

theorem filter_stages (c : Config) :
    (stages c).filter (fun stage => stage.name ∉ orderedStages) =
      [clean c, cargoClean c, outputDir c, debugStage c, bindgen c,
        moduleMap c (c.bindingsDir / c.moduleMapName.plain),
        xcframework c (packaging [c.mergedLibrary, deviceLibrary c] c.bindingsDir
          (c.outputDir / c.framework) c.root),
        compressStage c, checksumStage c] :=
  rfl

/-- One task each, with one set of operands or the other behind the same first arguments. -/
def DifferIn (first operands operands' : List String) (tasks tasks' : List Task) : Prop :=
  ∃ t : Task, tasks = [{ t with arguments := first ++ operands }] ∧
    tasks' = [{ t with arguments := first ++ operands' }]

/-- The pipelines do the same, but build the targets in another order and name the triples and the
libraries to be merged in another order. -/
structure Reorders (c c' : Config) (p p' : Pipeline) : Prop where
  names : p'.names = p.names
  builds : (p.tasksOf "release-builds").Perm (p'.tasksOf "release-builds")
  triples : (c.targets.targets.map Target.triple).Perm (c'.targets.targets.map Target.triple)
  registered : DifferIn ["target", "add"] (c.targets.targets.map Target.triple)
    (c'.targets.targets.map Target.triple) (p.tasksOf "preflight") (p'.tasksOf "preflight")
  libraries : (simulatorLibraries c).Perm (simulatorLibraries c')
  merged : DifferIn ["-create", "-output", c.mergedLibrary.text]
    ((simulatorLibraries c).map Path.text) ((simulatorLibraries c').map Path.text)
    (p.tasksOf "merge-slices") (p'.tasksOf "merge-slices")
  others : p'.stages.filter (fun stage => stage.name ∉ orderedStages) =
    p.stages.filter fun stage => stage.name ∉ orderedStages

theorem reorders_retargeted {p p' : Pipeline} (hperm : c.targets.targets.Perm list.targets)
    (hp : pipeline c = .ok p) (hp' : pipeline (c.retargeted list) = .ok p') :
    Reorders c (c.retargeted list) p p' := by
  have hdevice : deviceLibrary (c.retargeted list) = deviceLibrary c := by
    rw [deviceLibrary, deviceLibrary, device_eq_of_perm hperm]
    rfl
  exact {
    names := by
      rw [Pipeline.names, Pipeline.names, stages_of_pipeline hp, stages_of_pipeline hp']
      rfl
    builds := by
      rw [tasksOf_releaseBuilds hp, tasksOf_releaseBuilds hp']
      exact hperm.map _
    triples := hperm.map _
    registered := ⟨registerTargets [] c.root (c.tools.executable .rustup), tasksOf_preflight hp,
      tasksOf_preflight hp'⟩
    libraries := perm_simulatorLibraries hperm
    merged := ⟨merging [] c.mergedLibrary c.root (c.tools.executable .lipo),
      tasksOf_mergeSlices hp, tasksOf_mergeSlices hp'⟩
    others := by
      rw [stages_of_pipeline hp, stages_of_pipeline hp', filter_stages, filter_stages, hdevice]
      rfl }

/-- Settings that list their targets in another order resolve when these do, and are built when
these are. -/
theorem pipeline_of_reordered (host : Host) (projectRoot : Path) {data data' : Value}
    {entries : Value.Entries} {items items' : List Value} {identity identity' : Option Nat}
    (hdata : data.settings = .ok entries)
    (hget : entries.get? "targets" = some (.list items identity)) (hperm : items.Perm items')
    (hdata' : data'.settings = .ok (withTargets entries items' identity')) :
    ((∃ c, resolve host data projectRoot = .ok c) ↔
        ∃ c', resolve host data' projectRoot = .ok c') ∧
      ∀ c c', resolve host data projectRoot = .ok c → resolve host data' projectRoot = .ok c' →
        Retargets items items' c c' ∧
          ((∃ p, pipeline c = .ok p) ↔ ∃ p', pipeline c' = .ok p') ∧
          ∀ p p', pipeline c = .ok p → pipeline c' = .ok p' → Reorders c c' p p' := by
  have hreordered := reordered_withTargets hget hperm identity'
  simp only [resolved_iff_of_settings hdata, resolved_iff_of_settings hdata']
  refine ⟨⟨?_, ?_⟩, fun c c' hc hc' => ?_⟩
  · rintro ⟨c, hc⟩
    obtain ⟨list, hlist, -⟩ := hreordered.exists_resolved hc
    exact ⟨_, hlist⟩
  · rintro ⟨c', hc'⟩
    obtain ⟨list, hlist, -⟩ := hreordered.symm.exists_resolved hc'
    exact ⟨_, hlist⟩
  · have hretargets := hreordered.retargets hc hc'
    refine ⟨hretargets, ?_⟩
    cases hretargets with
    | @targets list _ _ hperm =>
      refine ⟨?_, fun p p' hp hp' => reorders_retargeted hperm hp hp'⟩
      rw [exists_pipeline_iff, exists_pipeline_iff]
      exact ⟨fun h => h.retargeted hperm, fun h => h.retargeted hperm.symm⟩

theorem pipeline_of_reordered_reversed :
    let items := Target.defaults.map Target.entry
    let settings := targetSettings .defaults
    items.Perm items.reverse ∧
      ∃ c c' p p', resolve Host.plain (.map settings none) (Path.parse "/project") = .ok c ∧
        resolve Host.plain (.map (withTargets settings items.reverse none) none)
          (Path.parse "/project") = .ok c' ∧
        Retargets items items.reverse c c' ∧ pipeline c = .ok p ∧ pipeline c' = .ok p' ∧
        Reorders c c' p p' := by
  intro items settings
  have hperm : items.Perm items.reverse := (List.reverse_perm items).symm
  have hnames : ∀ t ∈ TargetList.defaults.targets, t.name ≠ "" ∧ t.triple ≠ "" := by decide
  obtain ⟨tools, hc⟩ := exists_resolve_targets (Path.parse "/project") rfl (by decide) hnames
  have hp := pipeline_of_buildable (buildable_usual (Path.parse "/project") tools)
  have hdata : (Value.map settings none).settings = .ok settings := rfl
  have hget : settings.get? "targets" = some (.list items none) := rfl
  have hdata' : (Value.map (withTargets settings items.reverse none) none).settings =
      .ok (withTargets settings items.reverse none) := rfl
  obtain ⟨hresolves, h⟩ :=
    pipeline_of_reordered Host.plain (Path.parse "/project") hdata hget hperm hdata'
  obtain ⟨c', hc'⟩ := hresolves.mp ⟨_, hc⟩
  obtain ⟨hretargets, hbuilds, hreorders⟩ := h _ _ hc hc'
  obtain ⟨p', hp'⟩ := hbuilds.mp ⟨_, hp⟩
  exact ⟨hperm, _, _, _, _, hc, hc', hretargets, hp, hp', hreorders _ _ hp hp'⟩

end Build

end FrameworkForge
