import FrameworkForge.Proofs.Path.Shown

/-! Paths in another base. What lies within a base moves along with it: names are read from there as
before, and the base sees its own paths as before. -/

namespace FrameworkForge.Path

/-- A name that does not begin with a slash leads on from wherever it is read. -/
def LeadsOn (name : String) : Prop :=
  name.toList.head? ≠ some '/'

instance (name : String) : Decidable (LeadsOn name) :=
  inferInstanceAs (Decidable (_ ≠ _))

/-- The path with the other base in the place of its own. What is not within the base stays. -/
def moved (p base base' : Path) : Path :=
  match p.relativeTo? base with
  | some rest => base'.join rest
  | none => p

/-- The text of the path that a text names, moved. -/
def movedText (base base' : Path) (text : String) : String :=
  ((parse text).moved base base').text

theorem movedText_text (base base' p : Path) :
    movedText base base' p.text = (p.moved base base').text := by
  rw [movedText, parse_text]

theorem leadOf_eq_relative_iff {cs : List Char} :
    leadOf cs = .relative ↔ cs.head? ≠ some '/' := by
  rw [leadOf.eq_def]
  split
  · simp
  · simp
  · simp
  · next hslash => cases cs <;> simp_all

theorem leadsOn_iff {name : String} : LeadsOn name ↔ (parse name).lead = .relative :=
  leadOf_eq_relative_iff.symm

theorem LeadsOn.append {name suffix : String} (hname : LeadsOn name) (hsuffix : LeadsOn suffix) :
    LeadsOn (name ++ suffix) := by
  rw [LeadsOn, String.toList_append, List.head?_append]
  cases hfirst : name.toList.head? with
  | none => exact hsuffix
  | some c => rwa [LeadsOn, hfirst] at hname

theorem join_assoc (p q r : Path) : (p.join q).join r = p.join (q.join r) := by
  by_cases hr : r.isAbsolute = true
  · simp [join_of_isAbsolute _ hr]
  · have hlead : r.lead = .relative := by simpa [isAbsolute] using hr
    by_cases hq : q.isAbsolute = true
    · rw [join_of_isAbsolute p hq, join_of_isAbsolute p (isAbsolute_join hq r)]
    · have hlead' : q.lead = .relative := by simpa [isAbsolute] using hq
      simp [join, isAbsolute, hlead, hlead']

variable {p q base base' rest : Path} {name : String}

theorem lead_join_of_relative (hp : p.lead = .relative) (hq : q.lead = .relative) :
    (p.join q).lead = .relative := by
  rw [join_of_relative p hq, hp]

theorem isWithin_self (p : Path) : p.IsWithin p :=
  ⟨rfl, List.prefix_rfl⟩

theorem IsWithin.div (h : p.IsWithin base) (hname : LeadsOn name) : (p / name).IsWithin base := by
  obtain ⟨rest, hrest, rfl⟩ := isWithin_iff_exists_join.mp h
  rw [div_eq_join, join_assoc]
  exact isWithin_join base (lead_join_of_relative hrest (leadsOn_iff.mp hname))

theorem moved_join (base base' : Path) (hrest : rest.lead = .relative) :
    (base.join rest).moved base base' = base'.join rest := by
  rw [moved, relativeTo?_eq_some_iff.mpr ⟨hrest, rfl⟩]

theorem moved_base (base base' : Path) : base.moved base base' = base' := by
  have hmoved := moved_join base base' (show here.lead = .relative from rfl)
  rwa [join_here, join_here] at hmoved

theorem moved_div (h : p.IsWithin base) (hname : LeadsOn name) :
    (p / name).moved base base' = p.moved base base' / name := by
  obtain ⟨rest, hrest, rfl⟩ := isWithin_iff_exists_join.mp h
  have hlead := lead_join_of_relative hrest (leadsOn_iff.mp hname)
  rw [div_eq_join, div_eq_join, join_assoc, moved_join base base' hlead,
    moved_join base base' hrest, join_assoc]

theorem moved_inj (hp : p.IsWithin base) (hq : q.IsWithin base)
    (h : p.moved base base' = q.moved base base') : p = q := by
  obtain ⟨rest, hrest, rfl⟩ := isWithin_iff_exists_join.mp hp
  obtain ⟨rest', hrest', rfl⟩ := isWithin_iff_exists_join.mp hq
  rw [moved_join base base' hrest, moved_join base base' hrest'] at h
  rw [join_left_cancel hrest hrest' h]

theorem shownFrom_moved (h : p.IsWithin base) :
    (p.moved base base').shownFrom base' = p.shownFrom base := by
  obtain ⟨rest, hrest, rfl⟩ := isWithin_iff_exists_join.mp h
  rw [moved_join base base' hrest, shownFrom_join base hrest, shownFrom_join base' hrest]

end FrameworkForge.Path
