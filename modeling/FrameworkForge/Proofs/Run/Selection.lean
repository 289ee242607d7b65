import FrameworkForge.Proofs.Checks
import FrameworkForge.Proofs.Run.FailFast

/-! Ranges of stages. A range is refused when a name is unknown or its bounds are out of order, and
otherwise is not empty. -/

namespace FrameworkForge.Pipeline

open Checks

variable {p : Pipeline} {start stop : Option String} {selected : List Stage}

/-- The position where a range starts, counted from one. -/
def firstOf (p : Pipeline) (start : Option String) : Nat :=
  (start.map p.position).getD 1

def lastOf (p : Pipeline) (stop : Option String) : Nat :=
  (stop.map p.position).getD p.stages.length

/-- The bounds of the range are names of stages, and the first does not come after the last. -/
structure InOrder (p : Pipeline) (start stop : Option String) : Prop where
  known : ∀ name, start = some name ∨ stop = some name → name ∈ p.names
  ordered : ∀ first last, start = some first → stop = some last →
    p.names.idxOf first ≤ p.names.idxOf last

theorem checkStage_eq_ok_iff {bound : Option String} :
    p.checkStage bound = .ok () ↔ ∀ name, bound = some name → name ∈ p.names := by
  cases bound with
  | none => simp [checkStage]
  | some name =>
    rw [checkStage]
    split <;> simp_all

theorem position_le_length {name : String} (h : name ∈ p.names) :
    p.position name ≤ p.stages.length := by
  have hlt := List.idxOf_lt_length_of_mem h
  rw [names, List.length_map] at hlt
  exact hlt

theorem select_eq_ok_iff : p.select start stop = .ok selected ↔
    (∀ name, start = some name ∨ stop = some name → name ∈ p.names) ∧
      p.firstOf start ≤ p.lastOf stop ∧
      (p.stages.take (p.lastOf stop)).drop (p.firstOf start - 1) = selected := by
  have hchecks : p.select start stop = .ok selected ↔ p.checkStage start = .ok () ∧
      p.checkStage stop = .ok () ∧ (if p.lastOf stop < p.firstOf start
        then .error (.reversedRange start stop)
        else .ok ((p.stages.take (p.lastOf stop)).drop (p.firstOf start - 1))) =
          (.ok selected : Except Error (List Stage)) := by
    constructor
    · intro h
      obtain ⟨_, hstart, h⟩ := bind_eq_ok_iff.mp h
      obtain ⟨_, hstop, h⟩ := bind_eq_ok_iff.mp h
      exact ⟨hstart, hstop, h⟩
    · rintro ⟨hstart, hstop, h⟩
      exact bind_eq_ok_iff.mpr ⟨(), hstart, bind_eq_ok_iff.mpr ⟨(), hstop, h⟩⟩
  rw [hchecks, checkStage_eq_ok_iff, checkStage_eq_ok_iff]
  constructor
  · rintro ⟨hstart, hstop, h⟩
    split at h
    · cases h
    · next hle =>
      refine ⟨fun name hname => hname.elim (hstart name) (hstop name), by omega, ?_⟩
      simpa using h
  · rintro ⟨hknown, hle, rfl⟩
    refine ⟨fun name h => hknown name (.inl h), fun name h => hknown name (.inr h), ?_⟩
    rw [if_neg (by omega)]

theorem firstOf_le_lastOf_iff (hne : p.stages ≠ [])
    (hknown : ∀ name, start = some name ∨ stop = some name → name ∈ p.names) :
    p.firstOf start ≤ p.lastOf stop ↔ ∀ first last, start = some first → stop = some last →
      p.names.idxOf first ≤ p.names.idxOf last := by
  have hpos : 1 ≤ p.stages.length := List.length_pos_iff.mpr hne
  cases start with
  | none =>
    cases stop with
    | none => simpa [firstOf, lastOf] using hpos
    | some last => simp [firstOf, lastOf, position]
  | some first =>
    cases stop with
    | none => simpa [firstOf, lastOf] using position_le_length (hknown first (.inl rfl))
    | some last => simp [firstOf, lastOf, position]

theorem exists_select_iff (hne : p.stages ≠ []) :
    (∃ selected, p.select start stop = .ok selected) ↔ p.InOrder start stop := by
  simp only [select_eq_ok_iff, exists_and_left, exists_eq', and_true]
  constructor
  · exact fun ⟨hknown, hle⟩ => ⟨hknown, (firstOf_le_lastOf_iff hne hknown).mp hle⟩
  · exact fun ⟨hknown, hordered⟩ => ⟨hknown, (firstOf_le_lastOf_iff hne hknown).mpr hordered⟩

theorem ne_nil_of_select (h : p.select start stop = .ok selected) : selected ≠ [] := by
  obtain ⟨hknown, hle, rfl⟩ := select_eq_ok_iff.mp h
  have hfirst : 1 ≤ p.firstOf start := by
    cases start <;> simp [firstOf, position]
  have hlast : p.lastOf stop ≤ p.stages.length := by
    cases stop with
    | none => simp [lastOf]
    | some name => exact position_le_length (hknown name (.inr rfl))
  rw [← List.length_pos_iff, List.length_drop, List.length_take]
  omega

theorem selectNamed_eq_ok_iff {wanted : List String} : p.selectNamed wanted = .ok selected ↔
    (∀ name ∈ wanted, name ∈ p.names) ∧
      p.stages.filter (fun stage => stage.name ∈ wanted) = selected := by
  have hknown : wanted.filter (fun name => name ∉ p.names) = [] ↔
      ∀ name ∈ wanted, name ∈ p.names := by
    simp
  rw [selectNamed]
  split
  · next hnil =>
    rw [Except.ok.injEq]
    exact ⟨fun h => ⟨hknown.mp hnil, h⟩, fun h => h.2⟩
  · next hne =>
    constructor
    · intro h
      cases h
    · intro h
      exact absurd (hknown.mpr h.1) hne

end FrameworkForge.Pipeline
