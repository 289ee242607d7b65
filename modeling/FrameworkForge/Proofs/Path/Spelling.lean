import FrameworkForge.Path

/-! The text of a path names that path, and a path shown from a directory is found again by
someone who reads it there. -/

namespace FrameworkForge

namespace Text

variable {α : Type} [DecidableEq α]

theorem splitAt_eq_splitOn (separator : α) (cs : List α) :
    splitAt separator cs = cs.splitOn separator := by
  induction cs with
  | nil => simp [splitAt]
  | cons c cs ih =>
    rw [splitAt, List.splitOn_cons_eq_if_modifyHead]
    by_cases hc : c = separator
    · simp [hc, ih]
    · have hne := List.splitOn_ne_nil separator cs
      cases hs : cs.splitOn separator with
      | nil => exact absurd hs hne
      | cons piece pieces => simp [hc, ih, hs]

end Text

namespace Component

theorem ofString?_name (c : Component) : ofString? c.name = some c := by
  simp [ofString?, c.valid]

theorem slash_not_mem (c : Component) : '/' ∉ c.name.toList :=
  c.valid.2.2

theorem toList_ne_nil (c : Component) : c.name.toList ≠ [] := by
  simpa using c.valid.1

end Component

namespace Path

theorem filterMap_ofString? (parts : List Component) :
    (parts.map fun c => c.name.toList).filterMap
      (fun piece => Component.ofString? (String.ofList piece)) = parts := by
  induction parts with
  | nil => rfl
  | cons c parts ih => simp [Component.ofString?_name, ih]

/-- Empty pieces leave no component, so slashes in front do not matter. -/
theorem componentsOf_slash (cs : List Char) : componentsOf ('/' :: cs) = componentsOf cs := by
  simp [componentsOf, Text.splitAt, Component.ofString?, IsComponent]

theorem componentsOf_intercalate (parts : List Component) :
    componentsOf (['/'].intercalate (parts.map fun c => c.name.toList)) = parts := by
  cases parts with
  | nil => rfl
  | cons c parts =>
    have hslash : ∀ name ∈ (c :: parts).map fun c => c.name.toList, '/' ∉ name := by
      simpa using ⟨c.slash_not_mem, fun d _ => d.slash_not_mem⟩
    have hsplit := List.splitOn_intercalate '/' hslash (by simp)
    rw [componentsOf, Text.splitAt_eq_splitOn, hsplit, filterMap_ofString?]

/-- What follows the lead of a text neither adds a slash to the lead nor takes one away. -/
theorem leadOf_names (parts : List Component) (lead : Lead)
    (h : lead = .relative → parts ≠ []) :
    leadOf ((leadText lead).toList ++ ['/'].intercalate (parts.map fun c => c.name.toList)) =
      lead := by
  cases parts with
  | nil => cases lead <;> simp_all [leadOf, leadText]
  | cons c parts =>
    obtain ⟨first, more, hname⟩ := List.exists_cons_of_ne_nil c.toList_ne_nil
    have hslash : first ≠ '/' := by
      rintro rfl
      exact c.slash_not_mem (by simp [hname])
    obtain ⟨rest, hrest⟩ : ∃ rest,
        ['/'].intercalate ((c :: parts).map fun c => c.name.toList) = first :: rest := by
      cases parts with
      | nil => exact ⟨more, by simp [hname]⟩
      | cons d parts => exact ⟨_, by simp [hname]; rfl⟩
    rw [hrest]
    cases lead <;> simp [leadOf, leadText, hslash]

@[simp]
theorem parse_text (p : Path) : parse p.text = p := by
  obtain ⟨lead, parts⟩ := p
  by_cases h : lead = .relative ∧ parts = []
  · obtain ⟨rfl, rfl⟩ := h
    decide
  · have hlead := leadOf_names parts lead fun hl hp => h ⟨hl, hp⟩
    have htext : (text ⟨lead, parts⟩).toList = (leadText lead).toList ++
        ['/'].intercalate (parts.map fun c => c.name.toList) := by
      simp [text, h, Function.comp_def]
    have hparts : componentsOf ((leadText lead).toList ++
        ['/'].intercalate (parts.map fun c => c.name.toList)) = parts := by
      cases lead <;> simp [leadText, componentsOf_slash, componentsOf_intercalate]
    simp [parse, htext, hlead, hparts]

theorem div_eq_join (p : Path) (s : String) : p / s = p.join (parse s) :=
  rfl

theorem join_of_isAbsolute (p : Path) {q : Path} (h : q.isAbsolute = true) : p.join q = q := by
  simp [join, h]

theorem isAbsolute_join {p : Path} (h : p.isAbsolute = true) (q : Path) :
    (p.join q).isAbsolute = true := by
  by_cases hq : q.isAbsolute = true
  · simp [join, hq]
  · rw [join, if_neg hq]
    exact h

theorem isAbsolute_div {p : Path} (h : p.isAbsolute = true) (s : String) :
    (p / s).isAbsolute = true :=
  isAbsolute_join h (parse s)

theorem join_of_relative (p : Path) {q : Path} (h : q.lead = .relative) :
    p.join q = ⟨p.lead, p.parts ++ q.parts⟩ := by
  simp [join, isAbsolute, h]

theorem join_left_cancel {p q r : Path} (hq : q.lead = .relative) (hr : r.lead = .relative)
    (h : p.join q = p.join r) : q = r := by
  obtain ⟨lead, parts⟩ := q
  obtain ⟨lead', parts'⟩ := r
  simp_all [join_of_relative]

theorem join_right_cancel {p q r : Path} (hr : r.lead = .relative) (h : p.join r = q.join r) :
    p = q := by
  obtain ⟨lead, parts⟩ := p
  obtain ⟨lead', parts'⟩ := q
  simpa [join_of_relative _ hr] using h

theorem div_text (base : Path) {p : Path} (h : p.isAbsolute = true) : base / p.text = p := by
  rw [div_eq_join, parse_text, join_of_isAbsolute base h]

/-- A path shown from a directory and read there is the same path, whether it lies inside the
directory or not. -/
theorem div_shownFrom {p : Path} (h : p.isAbsolute = true) (base : Path) :
    base / p.shownFrom base = p := by
  rw [div_eq_join, shownFrom, parse_text]
  by_cases hin : p.lead = base.lead ∧ base.parts <+: p.parts
  · obtain ⟨hlead, rest, hrest⟩ := hin
    obtain ⟨lead, parts⟩ := p
    simp only at hlead hrest
    simp [relativeTo?, join, isAbsolute, hlead, ← hrest]
  · simp [relativeTo?, hin, join_of_isAbsolute base h]

end Path

end FrameworkForge
