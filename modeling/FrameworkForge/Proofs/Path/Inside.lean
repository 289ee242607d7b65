import FrameworkForge.Target
import FrameworkForge.Proofs.Path.Spelling
import Mathlib.Data.List.Basic

/-! Paths that lie inside of a directory, and the names that lead there. -/

namespace FrameworkForge

namespace Text

variable {α : Type} [DecidableEq α]

theorem splitAt_of_not_mem {separator : α} {cs : List α} (h : separator ∉ cs) :
    splitAt separator cs = [cs] := by
  induction cs with
  | nil => rfl
  | cons c cs ih =>
    simp only [List.mem_cons, not_or] at h
    simp [splitAt, Ne.symm h.1, ih h.2]

/-- What is written behind a text without a separator belongs to its last piece. -/
theorem exists_splitAt_append (separator : α) (cs : List α) :
    ∃ pieces last, separator ∉ last ∧ ∀ suffix, separator ∉ suffix →
      splitAt separator (cs ++ suffix) = pieces ++ [last ++ suffix] := by
  induction cs with
  | nil => exact ⟨[], [], by simp, fun suffix h => splitAt_of_not_mem h⟩
  | cons c cs ih =>
    obtain ⟨pieces, last, hlast, ih⟩ := ih
    by_cases hc : c = separator
    · refine ⟨[] :: pieces, last, hlast, fun suffix h => ?_⟩
      simp [splitAt, hc, ih suffix h]
    · cases pieces with
      | nil =>
        refine ⟨[], c :: last, by simp [Ne.symm hc, hlast], fun suffix h => ?_⟩
        simp [splitAt, hc, ih suffix h]
      | cons piece pieces =>
        refine ⟨(c :: piece) :: pieces, last, hlast, fun suffix h => ?_⟩
        simp [splitAt, hc, ih suffix h]

end Text

namespace Path

/-- The path goes on behind all of the directory, and never back up there. -/
def IsStrictlyInside (p dir : Path) : Prop :=
  ∃ rest, rest ≠ [] ∧ Component.parent ∉ rest ∧ p = ⟨dir.lead, dir.parts ++ rest⟩

theorem isStrictlyInside_iff {p dir : Path} : p.IsStrictlyInside dir ↔
    p.lead = dir.lead ∧ dir.parts <+: p.parts ∧ p.parts.drop dir.parts.length ≠ [] ∧
      Component.parent ∉ p.parts.drop dir.parts.length := by
  obtain ⟨lead, parts⟩ := p
  constructor
  · rintro ⟨rest, hne, hparent, heq⟩
    cases heq
    simpa using ⟨hne, hparent⟩
  · rintro ⟨rfl, ⟨rest, rfl⟩, hne, hparent⟩
    simp only [List.drop_left] at hne hparent
    exact ⟨rest, hne, hparent, rfl⟩

instance (p dir : Path) : Decidable (p.IsStrictlyInside dir) :=
  decidable_of_iff _ isStrictlyInside_iff.symm

/-- The name leads from the directory to a place strictly inside of it. A relative name has to go
on and must not go up; an absolute one has to name such a place itself. -/
def StaysIn (dir : Path) (name : String) : Prop :=
  if (parse name).isAbsolute then (parse name).IsStrictlyInside dir
  else (parse name).parts ≠ [] ∧ Component.parent ∉ (parse name).parts

instance (dir : Path) (name : String) : Decidable (dir.StaysIn name) :=
  inferInstanceAs (Decidable (ite _ _ _))

theorem isStrictlyInside_div_iff {dir : Path} {name : String} :
    (dir / name).IsStrictlyInside dir ↔ dir.StaysIn name := by
  rw [StaysIn, div_eq_join, join]
  split
  · rfl
  · constructor
    · rintro ⟨rest, hne, hparent, heq⟩
      obtain rfl : (parse name).parts = rest := List.append_cancel_left (congrArg Path.parts heq)
      exact ⟨hne, hparent⟩
    · rintro ⟨hne, hparent⟩
      exact ⟨_, hne, hparent, rfl⟩

/-- Whether a path lies inside does not depend on its last component, as long as that one does not
go up. -/
theorem isStrictlyInside_concat_iff {dir : Path} {lead : Lead} {front : List Component}
    {c : Component} (hc : c ≠ .parent) : IsStrictlyInside ⟨lead, front ++ [c]⟩ dir ↔
      lead = dir.lead ∧ ∃ rest, Component.parent ∉ rest ∧ front = dir.parts ++ rest := by
  constructor
  · rintro ⟨rest, hne, hparent, heq⟩
    obtain ⟨rest, last, rfl⟩ := (List.eq_nil_or_concat' rest).resolve_left hne
    have hparts : front ++ [c] = (dir.parts ++ rest) ++ [last] := by
      simpa using congrArg Path.parts heq
    obtain ⟨hfront, -⟩ := List.append_inj' hparts rfl
    refine ⟨congrArg Path.lead heq, rest, ?_, hfront⟩
    exact fun hmem => hparent (List.mem_append_left _ hmem)
  · rintro ⟨rfl, rest, hparent, rfl⟩
    refine ⟨rest ++ [c], by simp, ?_, by simp⟩
    simpa [hparent] using Ne.symm hc

theorem leadOf_append {suffix : List Char} (hne : suffix ≠ []) (hslash : '/' ∉ suffix)
    (cs : List Char) : leadOf (cs ++ suffix) = leadOf (cs ++ ['.']) := by
  obtain ⟨c, suffix, rfl⟩ := List.exists_cons_of_ne_nil hne
  simp only [List.mem_cons, not_or] at hslash
  rcases cs with _ | ⟨x, _ | ⟨y, _ | ⟨z, cs⟩⟩⟩
  · simp [leadOf, Ne.symm hslash.1]
  · by_cases hx : x = '/' <;> simp [leadOf, hx, Ne.symm hslash.1]
  · by_cases hx : x = '/' <;> by_cases hy : y = '/' <;> simp [leadOf, hx, hy, Ne.symm hslash.1]
  · by_cases hx : x = '/' <;> by_cases hy : y = '/' <;> by_cases hz : z = '/' <;>
      simp [leadOf, hx, hy, hz]

end Path

end FrameworkForge
