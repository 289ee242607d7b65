import FrameworkForge.Proofs.Config.Targets
import Mathlib.Data.List.Perm.Basic

/-! Which lists of targets are accepted. The check of a list ends with that very list, or with the
first of its conditions that does not hold; the order of the targets has no part in it. -/

namespace FrameworkForge

namespace Text

/-- The texts that occur at least twice, each of them once and in order. -/
structure ListsRepeated (texts listed : List String) : Prop where
  mem_iff : ∀ s, s ∈ listed ↔ 2 ≤ texts.count s
  increasing : listed.Pairwise fun s t => s < t

theorem listsRepeated_repeated (texts : List String) : ListsRepeated texts (repeated texts) where
  mem_iff s := by
    rw [repeated, mem_sorted_eraseDups, List.mem_filter, decide_eq_true_iff]
    refine and_iff_right_of_imp fun htwice => ?_
    exact List.count_pos_iff.mp (Nat.zero_lt_of_lt htwice)
  increasing := pairwise_sorted_eraseDups _

theorem ListsRepeated.unique {texts listed others : List String} (h : ListsRepeated texts listed)
    (h' : ListsRepeated texts others) : listed = others := by
  have hnodup {listed : List String} (h : ListsRepeated texts listed) : listed.Nodup :=
    h.increasing.imp fun hlt => Std.ne_of_lt hlt
  have hperm : listed.Perm others := by
    rw [List.perm_ext_iff_of_nodup (hnodup h) (hnodup h')]
    intro s
    rw [h.mem_iff, h'.mem_iff]
  refine hperm.eq_of_pairwise (fun s t _ _ hst hts => ?_) h.increasing h'.increasing
  exact absurd (String.lt_trans hst hts) (String.lt_irrefl s)

end Text

namespace Target

open Text

def deviceCount (targets : List Target) : Nat :=
  targets.countP fun t => t.platform = .device

/-- What a build asks of its list of targets. -/
structure Usable (targets : List Target) : Prop where
  distinctNames : (targets.map name).Nodup
  distinctTriples : (targets.map triple).Nodup
  oneDevice : deviceCount targets = 1
  someSimulator : ∃ t ∈ targets, t.platform = .simulator

theorem Usable.perm {targets others : List Target} (h : Usable targets)
    (hperm : targets.Perm others) : Usable others where
  distinctNames := (hperm.map name).nodup_iff.mp h.distinctNames
  distinctTriples := (hperm.map triple).nodup_iff.mp h.distinctTriples
  oneDevice := (hperm.countP_eq _).symm.trans h.oneDevice
  someSimulator := by
    obtain ⟨t, ht, hplatform⟩ := h.someSimulator
    exact ⟨t, hperm.subset ht, hplatform⟩

/-- How the check of a list ends. A fault is named only when what is looked at before is in
order. -/
inductive Checked (targets : List Target) : Except Error TargetList → Prop
  | usable {list : TargetList} (same : list.targets = targets) (usable : Usable targets) :
      Checked targets (.ok list)
  | repeatedNames {listed : List String} (repeated : ¬ (targets.map name).Nodup)
      (lists : ListsRepeated (targets.map name) listed) :
      Checked targets (.error (.duplicateTargetNames listed))
  | repeatedTriples {listed : List String} (names : (targets.map name).Nodup)
      (repeated : ¬ (targets.map triple).Nodup)
      (lists : ListsRepeated (targets.map triple) listed) :
      Checked targets (.error (.duplicateTargetTriples listed))
  | devices (names : (targets.map name).Nodup) (triples : (targets.map triple).Nodup)
      (notOne : deviceCount targets ≠ 1) :
      Checked targets (.error (.deviceCount (deviceCount targets)))
  | noSimulator (names : (targets.map name).Nodup) (triples : (targets.map triple).Nodup)
      (oneDevice : deviceCount targets = 1) (none : ∀ t ∈ targets, t.platform ≠ .simulator) :
      Checked targets (.error .noSimulator)

theorem length_devices (targets : List Target) :
    (devices targets).length = deviceCount targets :=
  List.countP_eq_length_filter.symm

theorem simulators_ne_nil_iff {targets : List Target} :
    simulators targets ≠ [] ↔ ∃ t ∈ targets, t.platform = .simulator := by
  simp [simulators]

theorem checked_check (targets : List Target) : Checked targets (TargetList.check targets) := by
  rw [TargetList.check]
  split
  · next names =>
    split
    · next triples =>
      split
      · next device =>
        have oneDevice := (length_devices targets).symm.trans device
        split
        · next simulator =>
          exact .usable rfl ⟨names, triples, oneDevice, simulators_ne_nil_iff.mp simulator⟩
        · next simulator =>
          refine .noSimulator names triples oneDevice fun t ht hplatform => ?_
          exact simulator (simulators_ne_nil_iff.mpr ⟨t, ht, hplatform⟩)
      · next device =>
        rw [length_devices] at device ⊢
        exact .devices names triples device
    · next triples => exact .repeatedTriples names triples (listsRepeated_repeated _)
  · next names => exact .repeatedNames names (listsRepeated_repeated _)

theorem check_of_checked {targets : List Target} {result : Except Error TargetList}
    (h : Checked targets result) : TargetList.check targets = result := by
  cases h with
  | usable same usable =>
    subst same
    exact Config.check_targets _
  | repeatedNames repeated lists =>
    rw [TargetList.check, dif_neg repeated, (listsRepeated_repeated _).unique lists]
  | repeatedTriples names repeated lists =>
    rw [TargetList.check, dif_pos names, dif_neg repeated, (listsRepeated_repeated _).unique lists]
  | devices names triples notOne =>
    rw [← length_devices] at notOne ⊢
    rw [TargetList.check, dif_pos names, dif_pos triples, dif_neg notOne]
  | noSimulator names triples oneDevice none =>
    rw [← length_devices] at oneDevice
    have hnone : ¬ simulators targets ≠ [] := by
      rw [simulators_ne_nil_iff]
      rintro ⟨t, ht, hplatform⟩
      exact none t ht hplatform
    rw [TargetList.check, dif_pos names, dif_pos triples, dif_pos oneDevice, dif_neg hnone]

theorem exists_check_iff {targets : List Target} :
    (∃ list, TargetList.check targets = .ok list ∧ list.targets = targets) ↔ Usable targets := by
  constructor
  · rintro ⟨list, hcheck, -⟩
    have h := checked_check targets
    rw [hcheck] at h
    cases h with
    | usable same usable => exact usable
  · intro usable
    have hsimulator := simulators_ne_nil_iff.mpr usable.someSimulator
    have hdevice := (length_devices targets).trans usable.oneDevice
    let list : TargetList :=
      ⟨targets, usable.distinctNames, usable.distinctTriples, hdevice, hsimulator⟩
    exact ⟨list, Config.check_targets list, rfl⟩

/-- A list of targets is accepted as it stands when it is usable, and refused for its first fault
otherwise. In another order it is accepted as well. -/
theorem check_accepts_usable (targets : List Target) :
    (∀ result, TargetList.check targets = result ↔ Checked targets result) ∧
      ((∃ list, TargetList.check targets = .ok list ∧ list.targets = targets) ↔ Usable targets) ∧
      ∀ others, targets.Perm others →
        ((∃ list, TargetList.check targets = .ok list ∧ list.targets = targets) ↔
          ∃ list, TargetList.check others = .ok list ∧ list.targets = others) := by
  refine ⟨fun result => ⟨?_, check_of_checked⟩, exists_check_iff, fun others hperm => ?_⟩
  · rintro rfl
    exact checked_check targets
  · rw [exists_check_iff, exists_check_iff]
    exact ⟨fun h => h.perm hperm, fun h => h.perm hperm.symm⟩

theorem check_accepts_usable_reversed :
    let others := defaults.reverse
    defaults.Perm others ∧ Usable defaults ∧
      ∃ list, TargetList.check others = .ok list ∧ list.targets = others := by
  intro others
  have hperm : defaults.Perm others := (List.reverse_perm defaults).symm
  have hlist : ∃ list, TargetList.check defaults = .ok list ∧ list.targets = defaults :=
    ⟨.defaults, Config.check_targets .defaults, rfl⟩
  obtain ⟨-, haccepted, horder⟩ := check_accepts_usable defaults
  exact ⟨hperm, haccepted.mp hlist, (horder others hperm).mp hlist⟩

/-- A triple is repeated too, and there is no device; but the names are looked at first. -/
example : TargetList.check
    [⟨"b", "x", .simulator, .empty⟩, ⟨"a", "x", .simulator, .empty⟩,
      ⟨"b", "y", .simulator, .empty⟩, ⟨"a", "z", .simulator, .empty⟩] =
    .error (.duplicateTargetNames ["a", "b"]) := by
  cbv

end Target

end FrameworkForge
