import FrameworkForge.Proofs.Path.Spelling
import Mathlib.Data.List.Basic

/-! What a path looks like from a directory. It is shown relative just when it lies at the directory
or below, and no two paths look alike from there. -/

namespace FrameworkForge.Path

/-- The path starts with all components of the base, behind the same slashes. The step to the parent
is a component like any other. -/
def IsWithin (p base : Path) : Prop :=
  p.lead = base.lead ∧ base.parts <+: p.parts

instance (p base : Path) : Decidable (p.IsWithin base) :=
  inferInstanceAs (Decidable (_ ∧ _))

variable {p q base rest : Path}

theorem join_here (p : Path) : p.join here = p := by
  have hrelative : here.lead = .relative := rfl
  rw [join_of_relative p hrelative]
  simp [here]

theorem relativeTo?_eq_some_iff :
    p.relativeTo? base = some rest ↔ rest.lead = .relative ∧ base.join rest = p := by
  constructor
  · intro h
    rw [relativeTo?] at h
    split at h
    · next hin =>
      cases h
      obtain ⟨hlead, more, hmore⟩ := hin
      refine ⟨rfl, ?_⟩
      rw [join_of_relative base rfl, ← hmore, List.drop_left, hmore, ← hlead]
    · cases h
  · rintro ⟨hrest, rfl⟩
    obtain ⟨lead, parts⟩ := rest
    cases hrest
    simp [relativeTo?, join_of_relative]

theorem relativeTo?_eq_none_iff : p.relativeTo? base = none ↔ ¬ p.IsWithin base := by
  rw [relativeTo?]
  split
  · next hin => exact iff_of_false (by simp) (not_not_intro hin)
  · next hout => exact iff_of_true rfl hout

theorem isWithin_iff_exists_join :
    p.IsWithin base ↔ ∃ rest : Path, rest.lead = .relative ∧ base.join rest = p := by
  simp only [← relativeTo?_eq_some_iff, ← Option.isSome_iff_exists, ← Option.ne_none_iff_isSome,
    ne_eq, relativeTo?_eq_none_iff, not_not]

theorem isWithin_join (base : Path) (hrest : rest.lead = .relative) :
    (base.join rest).IsWithin base :=
  isWithin_iff_exists_join.mpr ⟨rest, hrest, rfl⟩

theorem shownFrom_join (base : Path) (hrest : rest.lead = .relative) :
    (base.join rest).shownFrom base = rest.text := by
  rw [shownFrom, relativeTo?_eq_some_iff.mpr ⟨hrest, rfl⟩, Option.getD_some]

theorem shownFrom_of_not_isWithin (h : ¬ p.IsWithin base) : p.shownFrom base = p.text := by
  rw [shownFrom, relativeTo?_eq_none_iff.mpr h, Option.getD_none]

theorem isWithin_iff_shown_relative (hp : p.isAbsolute = true) :
    p.IsWithin base ↔ (parse (p.shownFrom base)).isAbsolute = false := by
  constructor
  · intro h
    obtain ⟨rest, hrest, rfl⟩ := isWithin_iff_exists_join.mp h
    simp [shownFrom_join base hrest, isAbsolute, hrest]
  · intro h
    by_contra hout
    simp [shownFrom_of_not_isWithin hout, hp] at h

/-- Whole components count, not letters. -/
example : ¬ (parse "/ab").IsWithin (parse "/a") := by decide

theorem shownFrom_eq_dot_iff (hp : p.isAbsolute = true) : p.shownFrom base = "." ↔ p = base := by
  constructor
  · intro h
    rw [← div_shownFrom hp base, h]
    exact join_here base
  · rintro rfl
    have hshown := shownFrom_join p (show here.lead = .relative from rfl)
    rwa [join_here] at hshown

theorem shownFrom_inj (hp : p.isAbsolute = true) (hq : q.isAbsolute = true) (base : Path)
    (h : p.shownFrom base = q.shownFrom base) : p = q := by
  rw [← div_shownFrom hp base, h, div_shownFrom hq base]

/-- Nothing of a path is lost when it is shown from a directory: read there, the text is the path
again. It is relative for what lies within the directory, a dot for the directory alone, and the
text of the path itself for all else. -/
theorem shownFrom_respells {p q : Path} (hp : p.isAbsolute = true) (hq : q.isAbsolute = true)
    (base : Path) :
    base / p.shownFrom base = p ∧
      ((parse (p.shownFrom base)).isAbsolute = false ↔ p.IsWithin base) ∧
      (p.shownFrom base = "." ↔ p = base) ∧
      (¬ p.IsWithin base → p.shownFrom base = p.text) ∧
      (p.shownFrom base = q.shownFrom base → p = q) :=
  ⟨div_shownFrom hp base, (isWithin_iff_shown_relative hp).symm, shownFrom_eq_dot_iff hp,
    shownFrom_of_not_isWithin, shownFrom_inj hp hq base⟩

/-- A base with two slashes in front and a step to the parent. The second path differs from the
first in its slashes alone. -/
theorem shownFrom_respells_doubled :
    let base := parse "//srv/../app"
    let p := parse "//srv/../app/buildIos"
    let q := parse "/srv/../app/buildIos"
    p.isAbsolute = true ∧ q.isAbsolute = true ∧ p.IsWithin base ∧ ¬ q.IsWithin base ∧
      base / p.shownFrom base = p ∧ (parse (p.shownFrom base)).isAbsolute = false ∧
      p.shownFrom base ≠ "." ∧ q.shownFrom base = q.text ∧
      p.shownFrom base ≠ q.shownFrom base := by
  intro base p q
  have hp : p.isAbsolute = true := by decide
  have hq : q.isAbsolute = true := by decide
  have hin : p.IsWithin base := by decide
  have hout : ¬ q.IsWithin base := by decide
  have hbase : p ≠ base := by decide
  have hne : p ≠ q := by decide
  obtain ⟨hread, hrelative, hdot, -, hinj⟩ := shownFrom_respells hp hq base
  obtain ⟨-, -, -, hown, -⟩ := shownFrom_respells hq hp base
  exact ⟨hp, hq, hin, hout, hread, hrelative.mpr hin, mt hdot.mp hbase, hown hout, mt hinj hne⟩

end FrameworkForge.Path
