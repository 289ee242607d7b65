import FrameworkForge.Proofs.Config.Usual
import FrameworkForge.Proofs.Target.Entry

/-! Targets in the settings. A target that is written down as an entry of the settings is read back
as that target, so every usable list of targets can be configured. -/

namespace FrameworkForge

open Checks

namespace Environment

def settings (overrides : Environment) : Value.Entries :=
  overrides.entries.map fun entry => (.text entry.1, .text entry.2)

theorem ofEntries_settings (overrides : Environment) :
    ofEntries overrides.settings = .ok overrides := by
  have hread : overrides.settings.mapM assignmentOf = .ok overrides.entries :=
    mapM_map_eq_ok fun entry _ => rfl
  rw [ofEntries, hread]
  show Except.ok (Table.ofList overrides.entries) = .ok overrides
  rw [Table.ofList_entries]

end Environment

namespace Target

def settings (t : Target) : Value.Entries :=
  [(.text "name", .text t.name), (.text "triple", .text t.triple),
    (.text "platform", .text t.platform.text), (.text "env", .map t.overrides.settings none)]

/-- The entry of the settings that stands for the target. -/
def entry (t : Target) : Value :=
  .map t.settings none

theorem ofValue_entry {t : Target} (hname : t.name ≠ "") (htriple : t.triple ≠ "") :
    ofValue t.entry = .ok t := by
  have hfield {field text : String} (hget : Value.Entries.get? t.settings field = some (.text text))
      (hne : text ≠ "") : Spells t.settings field text :=
    ⟨.text text, by simp [given?, hget, Value.isGiven, hne], rfl⟩
  have hquoted : QuotedOverrides t.settings := by
    intro env henv _
    cases henv
    refine ⟨_, none, rfl, fun override hoverride => ?_⟩
    obtain ⟨_, -, rfl⟩ := List.mem_map.mp hoverride
    rfl
  have hplatform : t.platform.text ≠ "" := by
    cases t.platform <;> decide
  exact ofValue_map_eq_ok_iff.mpr ⟨hfield rfl hname, hfield rfl htriple, hfield rfl hplatform,
    hquoted, Environment.ofEntries_settings t.overrides⟩

end Target

namespace Config

/-- Settings that give the targets and nothing else. -/
def targetSettings (list : TargetList) : Value.Entries :=
  [(.text Setting.targets.key, .list (list.targets.map Target.entry) none)]

theorem check_targets (list : TargetList) : TargetList.check list.targets = .ok list := by
  rw [TargetList.check, dif_pos list.distinctNames, dif_pos list.distinctTriples,
    dif_pos list.oneDevice, dif_pos list.someSimulator]

theorem targetList_targetSettings {list : TargetList}
    (h : ∀ t ∈ list.targets, t.name ≠ "" ∧ t.triple ≠ "") :
    targetList (targetSettings list) = .ok list := by
  have hread : (list.targets.map Target.entry).mapM Target.ofValue = .ok list.targets :=
    mapM_map_eq_ok fun t ht => Target.ofValue_entry (h t ht).1 (h t ht).2
  have hgiven : Setting.inForce (targetSettings list) .targets =
      .list (list.targets.map Target.entry) none := rfl
  rw [targetList, hgiven]
  exact bind_eq_ok_iff.mpr ⟨_, hread, check_targets list⟩

def usualFor (root : Path) (tools : Toolbox) (list : TargetList) : Config :=
  { usual root tools with targets := list }

theorem resolved_usualFor {host : Host} {root : Path} {tools : Toolbox}
    (h : Resolved host [] root (usual root tools)) {list : TargetList}
    (hnames : ∀ t ∈ list.targets, t.name ≠ "" ∧ t.triple ≠ "") :
    Resolved host (targetSettings list) root (usualFor root tools list) :=
  { h with targets := targetList_targetSettings hnames }

theorem exists_resolve_targets (root : Path) (hlead : root.lead = .root)
    (hplain : root.IsPlain) {list : TargetList}
    (hnames : ∀ t ∈ list.targets, t.name ≠ "" ∧ t.triple ≠ "") :
    ∃ tools, resolve Host.plain (.map (targetSettings list) none) root =
      .ok (usualFor root tools list) := by
  obtain ⟨tools, husual, -⟩ := exists_resolved_plain root hlead hplain
  exact ⟨tools, resolve_eq_ok_iff.mpr ⟨_, rfl, resolved_usualFor husual hnames⟩⟩

end Config

end FrameworkForge
