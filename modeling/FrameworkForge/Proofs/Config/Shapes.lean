import FrameworkForge.Proofs.Config.Faults
import FrameworkForge.Proofs.Config.Guarantees
import FrameworkForge.Yaml.Document

/-! Sections of the settings that have the wrong shape. What is no mapping is refused where one
belongs, unless it does not count as given: then it is read as if it were not there. What is no
list is always refused as the targets, unless it is null. -/

namespace FrameworkForge

namespace Value

def isMapping : Value → Bool
  | map _ _ => true
  | _ => false

def isList : Value → Bool
  | list _ _ => true
  | _ => false

theorem sameKey_text_iff {key : Value} {name : String} :
    key.sameKey (.text name) = true ↔ key = .text name := by
  constructor
  · intro h
    cases key <;> simp_all [sameKey, asInt?]
  · rintro rfl
    simp [sameKey]

namespace Entries

variable {entries : Entries} {name other : String}

theorem mem_of_get? {v : Value} (h : entries.get? name = some v) : (.text name, v) ∈ entries := by
  obtain ⟨⟨key, _⟩, hfound, rfl⟩ := Option.map_eq_some_iff.mp h
  have hkey := List.find?_some hfound
  rw [← sameKey_text_iff.mp hkey]
  exact List.mem_of_find?_eq_some hfound

def without (entries : Entries) (name : String) : Entries :=
  entries.filter fun entry => !entry.1.sameKey (.text name)

theorem get?_without_self (entries : Entries) (name : String) :
    (entries.without name).get? name = none := by
  simp [get?, without, List.find?_eq_none]

theorem get?_without (h : other ≠ name) :
    (entries.without name).get? other = entries.get? other := by
  have hkept (entry : Value × Value) :
      ((!entry.1.sameKey (.text name)) = true ∧ entry.1.sameKey (.text other) = true) ↔
        entry.1.sameKey (.text other) = true := by
    refine and_iff_right_of_imp fun hother => ?_
    rw [sameKey_text_iff.mp hother]
    simp [sameKey, h]
  simp only [get?, without, List.find?_filter, hkept, Bool.decide_eq_true]

end Entries

end Value

open Checks

namespace Target

variable {entries : Value.Entries} {v : Value}

theorem given?_without {field name : String} (h : field ≠ name) :
    given? (entries.without name) field = given? entries field := by
  rw [given?, Value.Entries.get?_without h, given?]

theorem overridesOf_without (target : Value) (entries : Value.Entries) :
    overridesOf target (entries.without "env") = .ok [] := by
  rw [overridesOf, given?, Value.Entries.get?_without_self]
  rfl

theorem overridesOf_of_not_isMapping (target : Value) (hget : entries.get? "env" = some v)
    (hv : v.isMapping = false) : overridesOf target entries =
      if v.isGiven then do throw (.overridesNotMapping (← target.written)) else .ok [] := by
  rw [overridesOf, given?, hget]
  cases hgiven : v.isGiven with
  | false => simp [Option.filter, hgiven]
  | true =>
    cases v with
    | map _ _ => cases hv
    | _ => simp [Option.filter, hgiven]

theorem ofValue_of_not_isMapping {identity : Option Nat} {t : Target}
    (hget : entries.get? "env" = some v) (hv : v.isMapping = false)
    (h : ofValue (.map (entries.without "env") identity) = .ok t) :
    ofValue (.map entries identity) =
      if v.isGiven then .error (.overridesNotMapping t.name) else .ok t := by
  have hfield (field : String) (hrequired : field ∈ requiredFields) :
      given? (entries.without "env") field = given? entries field :=
    given?_without fun heq => absurd (heq ▸ hrequired) (by decide)
  have hmissing : (requiredFields.filter fun field =>
      (given? (entries.without "env") field).isNone) =
        requiredFields.filter fun field => (given? entries field).isNone :=
    List.filter_congr fun field hrequired => by rw [hfield field hrequired]
  rw [ofValue, hmissing] at h
  rw [ofValue]
  split at h
  · obtain ⟨_, hoverrides, h⟩ := bind_eq_ok_iff.mp h
    obtain ⟨name, hname, h⟩ := bind_eq_ok_iff.mp h
    obtain ⟨triple, htriple, h⟩ := bind_eq_ok_iff.mp h
    obtain ⟨platform, hplatform, h⟩ := bind_eq_ok_iff.mp h
    rw [overridesOf_without] at hoverrides
    cases hoverrides
    simp only [hfield "name" (by decide)] at hname
    simp only [hfield "triple" (by decide)] at htriple
    simp only [hfield "platform" (by decide)] at hplatform
    obtain rfl := (build_eq_ok_iff.mp h).1
    simp only [overridesOf_of_not_isMapping _ hget hv]
    split
    · exact bind_eq_error_iff.mpr (.inl (bind_eq_error_iff.mpr (.inr ⟨_, hname, rfl⟩)))
    · refine bind_eq_ok_iff.mpr ⟨[], rfl, ?_⟩
      refine bind_eq_ok_iff.mpr ⟨_, hname, ?_⟩
      refine bind_eq_ok_iff.mpr ⟨_, htriple, ?_⟩
      exact bind_eq_ok_iff.mpr ⟨_, hplatform, h⟩
  · obtain ⟨_, _, h⟩ := bind_eq_ok_iff.mp h
    cases h

end Target

namespace Setting

theorem isKnown_of_sameKey {key : Value} {setting : Setting}
    (h : key.sameKey (.text setting.key) = true) : isKnown key = true :=
  List.any_eq_true.mpr ⟨setting, by cases setting <;> decide, h⟩

theorem inForce_without {entries : Value.Entries} {setting : Setting} {name : String}
    (h : setting.key ≠ name) :
    inForce (entries.without name) setting = inForce entries setting := by
  rw [inForce, Value.Entries.get?_without h, inForce]

theorem inForce_without_self (entries : Value.Entries) (setting : Setting) :
    inForce (entries.without setting.key) setting = setting.default := by
  rw [inForce, Value.Entries.get?_without_self]

end Setting

namespace Config

variable {host : Host} {entries : Value.Entries} {root : Path} {v : Value}

theorem checkKeys_without (entries : Value.Entries) (setting : Setting) :
    checkKeys (entries.without setting.key) = checkKeys entries := by
  have hknown (entry : Value × Value) :
      ((!Setting.isKnown entry.1) && !entry.1.sameKey (.text setting.key)) =
        !Setting.isKnown entry.1 := by
    cases hkey : entry.1.sameKey (.text setting.key) with
    | false => simp
    | true => simp [Setting.isKnown_of_sameKey hkey]
  have hkeys : unknownKeys (entries.without setting.key) = unknownKeys entries := by
    simp [unknownKeys, Value.Entries.without, List.filter_map, Function.comp_def,
      List.filter_filter, hknown]
  rw [checkKeys, hkeys, checkKeys]

/-- All of a configuration but its tools and targets, which are looked at last. -/
def frame (host : Host) (entries : Value.Entries) (projectRoot : Path) :
    Except Error (Toolbox → TargetList → Config) := do
  checkKeys entries
  let root ← host.resolve projectRoot
  let outputDir ← directoryIn host root (Setting.inForce entries .outputDir)
  let bindingsDir ← directoryIn host root (Setting.inForce entries .bindingsDir)
  let targetDir ← directoryIn host root (Setting.inForce entries .targetDir)
  let crate := Setting.inForce entries .crate
  let mergedLibrary ←
    mergedLibraryIn outputDir (Setting.inForce entries .mergedLibrary) crate
  return fun tools targets => {
    root, crate, outputDir, bindingsDir, targetDir, mergedLibrary, tools, targets
    frameworkName := Setting.inForce entries .frameworkName
    moduleMapName := Setting.inForce entries .moduleMapName
    bindgenPackage := Setting.inForce entries .bindgenPackage
    bindgenBinary := Setting.inForce entries .bindgenBinary
    language := Setting.inForce entries .language }

theorem ofEntries_eq_frame (host : Host) (entries : Value.Entries) (root : Path) :
    ofEntries host entries root = do
      let config ← frame host entries root
      let given ← givenTools entries
      let tools ← toolbox host given
      let targets ← targetList entries
      return config tools targets := by
  simp only [frame, bind_assoc, pure_bind]
  rfl

theorem frame_without {setting : Setting} (host : Host) (entries : Value.Entries) (root : Path)
    (h : setting = .tools ∨ setting = .targets) :
    frame host (entries.without setting.key) root = frame host entries root := by
  rw [frame, frame, checkKeys_without]
  rcases h with rfl | rfl
  · repeat rw [Setting.inForce_without (by decide)]
  · repeat rw [Setting.inForce_without (by decide)]

theorem resolve_map (host : Host) (entries : Value.Entries) (identity : Option Nat) (root : Path) :
    resolve host (.map entries identity) root = ofEntries host entries root := by
  cases entries <;> rfl

/-- The first reading fails: for the given reason, or for one for which the second fails as well. -/
def FailsFor {α : Type} (e : Error) (x y : Except Error α) : Prop :=
  ∃ cause, x = .error cause ∧ (cause = e ∨ y = .error cause)

namespace FailsFor

variable {α β : Type} {e : Error}

theorem here (y : Except Error α) : FailsFor e (.error e) y :=
  ⟨e, rfl, .inl rfl⟩

/-- What fails before is the same in both readings. -/
theorem bind (x : Except Error α) {f g : α → Except Error β} (h : ∀ a, FailsFor e (f a) (g a)) :
    FailsFor e (x >>= f) (x >>= g) := by
  cases x with
  | error cause => exact ⟨cause, rfl, .inr rfl⟩
  | ok a => exact h a

theorem eq_of_ok {x : Except Error α} {a : α} (h : FailsFor e x (.ok a)) : x = .error e := by
  obtain ⟨_, hx, rfl | h⟩ := h
  · exact hx
  · cases h

end FailsFor

theorem inForce_of_default_null {setting : Setting} (hdefault : setting.default = .null)
    (hget : entries.get? setting.key = some v) : Setting.inForce entries setting = v := by
  by_cases hv : v = .null
  · rw [Setting.inForce, hget, hv, hdefault]
  · exact inForce_of_given ⟨hget, hv⟩

theorem givenTools_without (entries : Value.Entries) :
    givenTools (entries.without Setting.tools.key) = .ok .empty := by
  rw [givenTools, Setting.inForce_without_self]
  rfl

theorem givenTools_of_not_isMapping (hget : entries.get? Setting.tools.key = some v)
    (hv : v.isMapping = false) :
    givenTools entries = if v.isGiven then .error .toolsNotMapping else .ok .empty := by
  rw [givenTools, inForce_of_default_null rfl hget]
  cases v with
  | map _ _ => cases hv
  | _ => cases h : Value.isGiven _ <;> rfl

theorem targetList_of_not_isList (hget : entries.get? Setting.targets.key = some v)
    (hnull : v ≠ .null) (hv : v.isList = false) : targetList entries = .error .targetsNotList := by
  rw [targetList, inForce_of_given ⟨hget, hnull⟩]
  cases v with
  | null => cases hnull rfl
  | list _ _ => cases hv
  | _ => rfl

/-- The file with the settings is there, and its document stands for the value. -/
def Documents (host : Host) (file : Option Path) (projectRoot : Path) (v : Value) : Prop :=
  ∃ content, host.content? (configFile file projectRoot) = some (.ok content) ∧
    host.reader content = .ok v

theorem settings_of_documents {file : Option Path} (h : Documents host file root v) :
    settings host file root = settingsOf (configFile file root) v := by
  obtain ⟨content, hcontent, hread⟩ := h
  cases file <;>
  · rw [configFile] at hcontent
    simp only [Option.getD_none, Option.getD_some] at hcontent
    simp [settings, configFile, hcontent, readFile, hread]

theorem load_of_documents {file : Option Path} (h : Documents host file root v)
    (hv : v.isMapping = false) : load host file root =
      if v.isGiven then .error (.documentNotMapping (configFile file root).text)
      else ofEntries host [] root := by
  rw [load, settings_of_documents h, settingsOf.eq_def]
  cases hgiven : v.isGiven with
  | false => simp [bind, Except.bind]
  | true =>
    cases v with
    | map _ _ => cases hv
    | _ => simp [bind, Except.bind]

theorem ofEntries_of_tools (host : Host) (root : Path)
    (hget : entries.get? Setting.tools.key = some v) (hv : v.isMapping = false) :
    let ran := ofEntries host entries root
    let others := ofEntries host (entries.without Setting.tools.key) root
    if v.isGiven then FailsFor .toolsNotMapping ran others else ran = others := by
  intro ran others
  have htargets : targetList (entries.without Setting.tools.key) = targetList entries := by
    rw [targetList, Setting.inForce_without (by decide), targetList]
  simp only [ran, others, ofEntries_eq_frame, frame_without host entries root (.inl rfl), htargets,
    givenTools_without, givenTools_of_not_isMapping hget hv]
  split
  · exact FailsFor.bind _ fun _ => FailsFor.here _
  · rfl

theorem ofEntries_of_targets (host : Host) (root : Path)
    (hget : entries.get? Setting.targets.key = some v) (hnull : v ≠ .null)
    (hv : v.isList = false) : FailsFor .targetsNotList (ofEntries host entries root)
      (ofEntries host (entries.without Setting.targets.key) root) := by
  have htools : givenTools (entries.without Setting.targets.key) = givenTools entries := by
    rw [givenTools, Setting.inForce_without (by decide), givenTools]
  simp only [ofEntries_eq_frame, frame_without host entries root (.inr rfl), htools,
    targetList_of_not_isList hget hnull hv]
  refine FailsFor.bind _ fun _ => FailsFor.bind _ fun _ => FailsFor.bind _ fun _ => ?_
  exact FailsFor.here _

/-- What becomes of a value where a mapping belongs and it is none. As the document and as the tools
and overrides, it is refused if it counts as given; otherwise it is read as if it were not there. -/
structure InPlaceOfMapping (host : Host) (root : Path) (v : Value) : Prop where
  document : ∀ file, Documents host file root v → load host file root =
    if v.isGiven then .error (.documentNotMapping (configFile file root).text)
    else ofEntries host [] root
  tools : ∀ (entries : Value.Entries) identity, entries.get? "tools" = some v →
    let ran := resolve host (.map entries identity) root
    let others := resolve host (.map (entries.without "tools") identity) root
    if v.isGiven then FailsFor .toolsNotMapping ran others else ran = others
  overrides : ∀ (entries : Value.Entries) identity t, entries.get? "env" = some v →
    Target.ofValue (.map (entries.without "env") identity) = .ok t →
    Target.ofValue (.map entries identity) =
      if v.isGiven then .error (.overridesNotMapping t.name) else .ok t

/-- Values of the wrong shape where a mapping belongs, and as the targets. Settings are refused for
targets that are no list, whether they count as given or not. -/
theorem refuses_shapes (host : Host) (root : Path) (v : Value) :
    (v.isMapping = false → InPlaceOfMapping host root v) ∧
      (v ≠ .null → v.isList = false → ∀ (entries : Value.Entries) identity,
        entries.get? "targets" = some v →
        FailsFor .targetsNotList (resolve host (.map entries identity) root)
          (resolve host (.map (entries.without "targets") identity) root)) := by
  simp only [resolve_map]
  refine ⟨fun hv => ⟨?_, ?_, ?_⟩, ?_⟩
  · exact fun file h => load_of_documents h hv
  · simp only [resolve_map]
    exact fun entries _ hget => ofEntries_of_tools host root hget hv
  · exact fun entries _ t hget h => Target.ofValue_of_not_isMapping hget hv h
  · exact fun hnull hv entries _ hget => ofEntries_of_targets host root hget hnull hv

/-- A project with a file for its settings, and the reader with the usual limits. -/
def holding (text : String) : Host :=
  { Host.plain with
    content? := fun p =>
      if p = Path.parse "/project/ios-build.yaml" then some (.ok (.text text)) else none
    reader := Yaml.reader .usual }

theorem documents_holding {text : String} (h : Yaml.reader .usual (.text text) = .ok v) :
    Documents (holding text) none (Path.parse "/project") v := by
  have hfile : configFile none (Path.parse "/project") = Path.parse "/project/ios-build.yaml" := by
    decide
  refine ⟨.text text, ?_, h⟩
  rw [hfile]
  simp [holding]

theorem exists_read {content : Content} {f : Value → Bool}
    (h : (Yaml.reader .usual content).toOption.any f = true) :
    ∃ v, Yaml.reader .usual content = .ok v ∧ f v = true := by
  cases hread : Yaml.reader .usual content with
  | error e => simp [hread, Except.toOption] at h
  | ok v => exact ⟨v, rfl, by simpa [hread, Except.toOption] using h⟩

theorem exists_ofEntries_holding (text : String) :
    ∃ c, ofEntries (holding text) [] (Path.parse "/project") = .ok c := by
  have hhome : (holding text).home "" = .ok (Path.parse "/home/dev") := Host.home_plain
  obtain ⟨tools, htools, -⟩ := exists_toolbox hhome (by decide)
  exact ⟨_, ofEntries_eq_ok_iff.mpr (resolved_usual rfl htools rfl (by decide))⟩

def deviceWith (v : Value) : Value.Entries :=
  [(.text "name", .text "device"), (.text "triple", .text "aarch64-apple-ios"),
    (.text "platform", .text "device"), (.text "env", v)]

theorem ofValue_deviceWith (v : Value) :
    Target.ofValue (.map ((deviceWith v).without "env") none) =
      .ok ⟨"device", "aarch64-apple-ios", .device, .empty⟩ :=
  rfl

/-- A text is refused in all four places. -/
theorem refuses_shapes_text :
    let host := holding "a\n"
    let root := Path.parse "/project"
    let v := Value.text "a"
    v.isMapping = false ∧ v ≠ .null ∧ v.isList = false ∧ Documents host none root v ∧
      load host none root = .error (.documentNotMapping "/project/ios-build.yaml") ∧
      resolve host (.map [(.text "tools", v)] none) root = .error .toolsNotMapping ∧
      Target.ofValue (.map (deviceWith v) none) = .error (.overridesNotMapping "device") ∧
      resolve host (.map [(.text "targets", v)] none) root = .error .targetsNotList := by
  intro host root v
  obtain ⟨hmapping, htargets⟩ := refuses_shapes host root v
  obtain ⟨c, hc⟩ := exists_ofEntries_holding "a\n"
  have hletter : (Yaml.reader .usual (.text "a\n")).toOption.any (Value.sameKey · v) = true := by
    decide +kernel
  obtain ⟨w, hread, hw⟩ := exists_read hletter
  obtain rfl : w = v := Value.sameKey_text_iff.mp hw
  have hdocument := documents_holding hread
  have hnull : v ≠ .null := by simp [v]
  have h := hmapping rfl
  refine ⟨rfl, hnull, rfl, hdocument, h.document none hdocument, ?_,
    h.overrides _ none _ rfl (ofValue_deviceWith v), ?_⟩
  · exact FailsFor.eq_of_ok (a := c) (hc ▸ h.tools [(.text "tools", v)] none rfl)
  · exact FailsFor.eq_of_ok (a := c) (hc ▸ htargets hnull rfl [(.text "targets", v)] none rfl)

theorem exists_read_empty_list :
    ∃ identity, Yaml.reader .usual (.text "[]\n") = .ok (.list [] identity) := by
  have hempty : (Yaml.reader .usual (.text "[]\n")).toOption.any
      (fun v => v.isList && !v.isGiven) = true := by
    decide +kernel
  obtain ⟨v, hread, hv⟩ := exists_read hempty
  cases v with
  | list items identity =>
    obtain rfl : items = [] := by simpa [Value.isList, Value.isGiven] using hv
    exact ⟨identity, hread⟩
  | _ => cases hv

/-- An empty list is no mapping, and yet the settings are read where it stands for a mapping. -/
theorem not_refused_of_empty_list :
    let host := holding "[]\n"
    let root := Path.parse "/project"
    ∃ identity, let v := Value.list [] identity
      v.isMapping = false ∧ v ≠ .null ∧ Documents host none root v ∧
      (∃ c, load host none root = .ok c) ∧
      (∃ c, resolve host (.map [(.text "tools", v)] none) root = .ok c) ∧
      ∃ t, Target.ofValue (.map (deviceWith v) none) = .ok t := by
  intro host root
  obtain ⟨identity, hread⟩ := exists_read_empty_list
  obtain ⟨c, hc⟩ := exists_ofEntries_holding "[]\n"
  have hmapping : (Value.list [] identity).isMapping = false := rfl
  have hdocument : Documents host none root (.list [] identity) := documents_holding hread
  refine ⟨identity, hmapping, by simp, hdocument, ⟨c, ?_⟩, ⟨c, ?_⟩, ?_⟩
  · rw [load_of_documents hdocument hmapping]
    exact hc
  · rw [resolve_map]
    have hget : Value.Entries.get? [(.text "tools", .list [] identity)] Setting.tools.key =
        some (.list [] identity) := rfl
    exact (ofEntries_of_tools host root hget hmapping).trans hc
  · exact ⟨_, Target.ofValue_of_not_isMapping rfl hmapping (ofValue_deviceWith _)⟩

end Config

end FrameworkForge
