import FrameworkForge.Proofs.Config.Resolved
import Mathlib.Data.List.Nodup

/-! Where the executables of a toolbox come from: each from the last entry of the settings whose key
has its name as a text, or else from a default. -/

namespace FrameworkForge

open Checks

theorem Table.get?_eq_some_iff {α : Type} {t : Table α} {name : String} {value : α} :
    t.get? name = some value ↔ (name, value) ∈ t.entries := by
  constructor
  · intro h
    obtain ⟨entry, hentry, rfl⟩ := Option.map_eq_some_iff.mp h
    have hname : entry.1 = name := by simpa using List.find?_some hentry
    exact hname ▸ List.mem_of_find?_eq_some hentry
  · intro h
    obtain ⟨entry, hentry⟩ : ∃ entry, t.entries.find? (fun entry => entry.1 = name) = some entry :=
      Option.isSome_iff_exists.mp (List.find?_isSome.mpr ⟨_, h, by simp⟩)
    have hname : entry.1 = name := by simpa using List.find?_some hentry
    have heq := List.inj_on_of_nodup_map t.distinct (List.mem_of_find?_eq_some hentry) h hname
    rw [Table.get?, hentry, heq]
    rfl

/-- The text of the value in the last entry whose key has the given text. -/
def Value.Entries.lastText? (entries : Value.Entries) (name : String) : Option String :=
  (entries.findRev? fun entry => entry.1.plain = name).map fun entry => entry.2.plain

theorem Environment.assignmentOf_eq_ok_iff {entry : Value × Value} {assignment : String × String} :
    assignmentOf entry = .ok assignment ↔
      entry.1.written = .ok assignment.1 ∧ entry.2.written = .ok assignment.2 := by
  obtain ⟨key, text⟩ := assignment
  simp only [assignmentOf, bind_eq_ok_iff]
  constructor
  · rintro ⟨_, hkey, _, hvalue, h⟩
    cases h
    exact ⟨hkey, hvalue⟩
  · rintro ⟨hkey, hvalue⟩
    exact ⟨_, hkey, _, hvalue, rfl⟩

theorem Environment.get?_of_ofEntries {entries : Value.Entries} {env : Environment}
    (h : ofEntries entries = .ok env) (name : String) :
    env.get? name = entries.lastText? name := by
  obtain ⟨assignments, hread, h⟩ := bind_eq_ok_iff.mp h
  cases h
  have htexts (entry : Value × Value) (assignment : String × String)
      (h : assignmentOf entry = .ok assignment) :
      (entry.1.plain, entry.2.plain) = assignment := by
    obtain ⟨hkey, hvalue⟩ := assignmentOf_eq_ok_iff.mp h
    rw [(Value.written_eq_ok_iff.mp hkey).2, (Value.written_eq_ok_iff.mp hvalue).2]
  rw [Table.get?_ofList, ← eq_map_of_mapM htexts hread, List.findRev?_eq_find?_reverse,
    ← List.map_reverse, List.find?_map, Option.map_map, Value.Entries.lastText?,
    List.findRev?_eq_find?_reverse]
  rfl

namespace Tool

theorem ofName?_eq_some_iff {name : String} {tool : Tool} :
    ofName? name = some tool ↔ tool.name = name := by
  constructor
  · intro h
    simpa using List.find?_some h
  · rintro rfl
    exact ofName?_name tool

end Tool

namespace Config

variable {host : Host} {given : Table String} {box : Toolbox}

theorem isStandard_iff {name : String} :
    isStandard name = true ↔ ∃ tool, Tool.ofName? name = some tool := by
  simp [isStandard, Tool.ofName?, ← Option.isSome_iff_exists, List.find?_isSome]

def furtherEntry (host : Host) (setting : String × String) :
    Except Error (String × Executable) := do
  return (setting.1, ← Executable.ofSetting host setting.2)

theorem furtherEntry_eq_ok_iff {setting : String × String} {name : String} {e : Executable} :
    furtherEntry host setting = .ok (name, e) ↔
      setting.1 = name ∧ Executable.ofSetting host setting.2 = .ok e := by
  cases h : Executable.ofSetting host setting.2 <;>
    simp [furtherEntry, h, bind, Except.bind, pure, Except.pure]

theorem toolbox_eq_ok_iff : toolbox host given = .ok box ↔
    (∀ tool, Executable.ofSetting host ((given.get? tool.name).getD tool.defaultPath) =
      .ok (box.executable tool)) ∧
    (given.entries.filter fun entry => !isStandard entry.1).mapM (furtherEntry host) =
      .ok box.further := by
  constructor
  · intro h
    obtain ⟨cargo, hcargo, h⟩ := bind_eq_ok_iff.mp h
    obtain ⟨rustup, hrustup, h⟩ := bind_eq_ok_iff.mp h
    obtain ⟨rm, hrm, h⟩ := bind_eq_ok_iff.mp h
    obtain ⟨mkdir, hmkdir, h⟩ := bind_eq_ok_iff.mp h
    obtain ⟨mv, hmv, h⟩ := bind_eq_ok_iff.mp h
    obtain ⟨lipo, hlipo, h⟩ := bind_eq_ok_iff.mp h
    obtain ⟨xcodebuild, hxcodebuild, h⟩ := bind_eq_ok_iff.mp h
    obtain ⟨zip, hzip, h⟩ := bind_eq_ok_iff.mp h
    obtain ⟨swift, hswift, h⟩ := bind_eq_ok_iff.mp h
    obtain ⟨further, hentries, h⟩ := bind_eq_ok_iff.mp h
    cases h
    refine ⟨fun tool => ?_, hentries⟩
    cases tool <;> assumption
  · rintro ⟨hfound, hentries⟩
    obtain ⟨executable, further⟩ := box
    refine bind_eq_ok_iff.mpr ⟨_, hfound .cargo, ?_⟩
    refine bind_eq_ok_iff.mpr ⟨_, hfound .rustup, ?_⟩
    refine bind_eq_ok_iff.mpr ⟨_, hfound .rm, ?_⟩
    refine bind_eq_ok_iff.mpr ⟨_, hfound .mkdir, ?_⟩
    refine bind_eq_ok_iff.mpr ⟨_, hfound .mv, ?_⟩
    refine bind_eq_ok_iff.mpr ⟨_, hfound .lipo, ?_⟩
    refine bind_eq_ok_iff.mpr ⟨_, hfound .xcodebuild, ?_⟩
    refine bind_eq_ok_iff.mpr ⟨_, hfound .zip, ?_⟩
    refine bind_eq_ok_iff.mpr ⟨_, hfound .swift, ?_⟩
    refine bind_eq_ok_iff.mpr ⟨_, hentries, ?_⟩
    have hsame (other : Tool → Executable) (h : other = executable) :
        (Except.ok ⟨other, further⟩ : Except Error Toolbox) = .ok ⟨executable, further⟩ := by
      rw [h]
    refine hsame _ (funext fun tool => ?_)
    cases tool <;> rfl

/-- The entries of the tools, where there are any. -/
def toolEntries (entries : Value.Entries) : Value.Entries :=
  match Setting.inForce entries .tools with
  | .map tools _ => tools
  | _ => []

theorem get?_of_givenTools {entries : Value.Entries} (h : givenTools entries = .ok given)
    (name : String) : given.get? name = (toolEntries entries).lastText? name := by
  rw [givenTools] at h
  rw [toolEntries]
  generalize Setting.inForce entries .tools = value at h
  split at h
  · next hgiven =>
    cases h
    split
    · next tools identity =>
      obtain rfl : tools = [] := by simpa [Value.isGiven] using hgiven
      rfl
    · rfl
  · split at h
    · exact Environment.get?_of_ofEntries h name
    · cases h

/-- What stands for the path of a tool: the text of the last entry under its name, or the default
of a tool that a build needs. -/
def toolText? (entries : Value.Entries) (name : String) : Option String :=
  ((toolEntries entries).lastText? name).or ((Tool.ofName? name).map Tool.defaultPath)

theorem toolText?_name (entries : Value.Entries) (tool : Tool) : toolText? entries tool.name =
    some (((toolEntries entries).lastText? tool.name).getD tool.defaultPath) := by
  rw [toolText?, Tool.ofName?_name]
  cases (toolEntries entries).lastText? tool.name <;> rfl

/-- The toolbox holds the tools that have a text and no others, each at the absolute path that the
text names. -/
structure HoldsTools (host : Host) (entries : Value.Entries) (box : Toolbox) : Prop where
  standard : ∀ tool : Tool, (tool.name, box.executable tool) ∈ box.entries
  mem_iff : ∀ name e, (name, e) ∈ box.entries ↔
    ∃ text, toolText? entries name = some text ∧ Executable.ofSetting host text = .ok e
  absolute : ∀ entry ∈ box.entries, entry.2.path.isAbsolute = true

theorem mem_further_iff (h : toolbox host given = .ok box) {name : String} {e : Executable} :
    (name, e) ∈ box.further ↔ ∃ text, given.get? name = some text ∧ Tool.ofName? name = none ∧
      Executable.ofSetting host text = .ok e := by
  have hother {name : String} : isStandard name = false ↔ Tool.ofName? name = none := by
    rw [← Bool.not_eq_true, isStandard_iff, ← Option.isSome_iff_exists, Option.not_isSome_iff_eq_none]
  rw [mem_iff_of_mapM (toolbox_eq_ok_iff.mp h).2]
  simp only [furtherEntry_eq_ok_iff, List.mem_filter, Table.get?_eq_some_iff, Bool.not_eq_true']
  constructor
  · rintro ⟨⟨_, text⟩, ⟨hmem, hfurther⟩, rfl, hlocated⟩
    exact ⟨text, hmem, hother.mp hfurther, hlocated⟩
  · rintro ⟨text, hmem, hfurther, hlocated⟩
    exact ⟨(name, text), ⟨hmem, hother.mpr hfurther⟩, rfl, hlocated⟩

theorem mem_entries_iff {name : String} {e : Executable} : (name, e) ∈ box.entries ↔
    (∃ tool, Tool.ofName? name = some tool ∧ box.executable tool = e) ∨ (name, e) ∈ box.further := by
  have hall (tool : Tool) : tool ∈ Tool.all := by cases tool <;> decide
  simp [Toolbox.entries, Tool.ofName?_eq_some_iff, hall]

theorem holdsTools_of_toolbox {entries : Value.Entries} (hgiven : givenTools entries = .ok given)
    (h : toolbox host given = .ok box) : HoldsTools host entries box where
  standard tool := mem_entries_iff.mpr (.inl ⟨tool, Tool.ofName?_name tool, rfl⟩)
  mem_iff name e := by
    have hlast := get?_of_givenTools hgiven name
    rw [mem_entries_iff, mem_further_iff h]
    cases hname : Tool.ofName? name with
    | some tool =>
      obtain rfl := Tool.ofName?_eq_some_iff.mp hname
      have hfound := (toolbox_eq_ok_iff.mp h).1 tool
      rw [toolText?_name, ← hlast]
      simp [hfound]
    | none => simp [toolText?, hname, hlast]
  absolute entry _ := entry.2.absolute

end Config

end FrameworkForge
