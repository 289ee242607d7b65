import FrameworkForge.Host
import FrameworkForge.Proofs.Path.Spelling

/-! Resolving a path once is enough. A walk comes to a place from which no link and no step to the
parent leads away, and a walk to such a place goes straight there. -/

namespace FrameworkForge

namespace Path

/-- Nothing leads away on the way to the place, neither a link nor a step to the parent, and every
name of it can be looked at. -/
structure IsDirect (links : List Link) (place : Path) : Prop where
  parent : Component.parent ∉ place.parts
  null : ∀ c ∈ place.parts, c.hasNull = false
  link : ∀ base c, base ++ [c] <+: place.parts → ∀ link ∈ links,
    link.name ≠ ⟨place.lead, base ++ [c]⟩

namespace IsDirect

variable {links : List Link} {base place : Path}

theorem root (links : List Link) : IsDirect links .root where
  parent := List.not_mem_nil
  null c h := absurd h List.not_mem_nil
  link base c h := by simp [Path.root] at h

theorem of_prefix (h : IsDirect links place) {parts : List Component}
    (hparts : parts <+: place.parts) : IsDirect links ⟨place.lead, parts⟩ where
  parent hmem := h.parent (hparts.subset hmem)
  null c hmem := h.null c (hparts.subset hmem)
  link _ _ hbegins := h.link _ _ (hbegins.trans hparts)

theorem child (h : IsDirect links base) {c : Component} (hc : c ≠ .parent)
    (hnull : c.hasNull = false) (hlink : ∀ link ∈ links, link.name ≠ base.child c) :
    IsDirect links (base.child c) where
  parent hmem := by
    rcases List.mem_append.mp hmem with hmem | hmem
    · exact h.parent hmem
    · exact hc (List.mem_singleton.mp hmem).symm
  null d hmem := by
    rcases List.mem_append.mp hmem with hmem | hmem
    · exact h.null d hmem
    · rwa [List.mem_singleton.mp hmem]
  link base' c' hbegins := by
    rcases List.prefix_concat_iff.mp hbegins with heq | hbegins
    · rw [heq]
      exact hlink
    · exact h.link base' c' hbegins

theorem up (h : IsDirect links base) (hlead : base.lead = .root) : IsDirect links base.up := by
  rw [Path.up, if_neg (by simp [hlead])]
  exact h.of_prefix base.parts.dropLast_prefix

end IsDirect

theorem lead_up {p : Path} : p.up.lead = p.lead := by
  rw [up]
  split <;> rfl

/-- A walk that starts at the root stays below it, whatever the links, and comes to a direct place
if it comes to one at all. -/
theorem isDirect_of_walk {links : List Link} {trail : List Path} {base place : Path}
    {parts : List Component} (h : walk links trail base parts = .reached place)
    (hlead : base.lead = .root) (hbase : IsDirect links base) :
    place.lead = .root ∧ IsDirect links place := by
  fun_induction walk links trail base parts generalizing place with
  | case1 trail base =>
    cases h
    exact ⟨hlead, hbase⟩
  | case2 trail base cs ih => exact ih h (lead_up.trans hlead) (hbase.up hlead)
  | case3 trail base c cs hc hnull => cases h
  | case4 trail base c cs hc hnull hnone ih =>
    refine ih h hlead (hbase.child hc (by simpa using hnull) fun link hlink heq => ?_)
    simpa [heq] using List.find?_eq_none.mp hnone link hlink
  | case5 trail base c cs hc hnull link hfound hmem => cases h
  | case6 trail base c cs hc hnull link hfound hnew start reached htarget ihtarget =>
    rename_i ih
    have hstart : start.lead = .root ∧ IsDirect links start := by
      simp only [start]
      split
      · exact ⟨rfl, IsDirect.root links⟩
      · exact ⟨hlead, hbase⟩
    obtain ⟨hreached, hdirect⟩ := ihtarget htarget hstart.1 hstart.2
    exact ih h hreached hdirect
  | case7 => cases h
  | case8 => cases h

theorem walk_of_isDirect {links : List Link} (trail : List Path) {base : Path}
    {parts : List Component} (h : IsDirect links ⟨base.lead, base.parts ++ parts⟩) :
    walk links trail base parts = .reached ⟨base.lead, base.parts ++ parts⟩ := by
  induction parts generalizing base with
  | nil => simp [walk]
  | cons c parts ih =>
    have hc : c ≠ .parent := fun heq => h.parent (by simp [heq])
    have hnull : ¬ c.hasNull = true := by simp [h.null c (by simp)]
    have hnone : links.find? (fun link => link.name = base.child c) = none := by
      rw [List.find?_eq_none]
      intro link hlink
      have hne : link.name ≠ base.child c := h.link base.parts c ⟨parts, by simp⟩ link hlink
      simpa using hne
    have hsplit : base.parts ++ c :: parts = (base.child c).parts ++ parts := by simp [child]
    rw [hsplit] at h ⊢
    rw [walk, if_neg hc, if_neg hnull]
    split
    · exact ih h
    · next link hlink => simp [hnone] at hlink

/-- Without links a walk is refused for a null character, or comes to a place. -/
theorem walk_no_links (trail : List Path) (base : Path) (parts : List Component) :
    walk [] trail base parts = .refused ∨ (∃ place, walk [] trail base parts = .reached place) ∧
      ∀ c ∈ parts, c ≠ .parent → c.hasNull = false := by
  induction parts generalizing base with
  | nil => exact .inr ⟨⟨base, by simp [walk]⟩, by simp⟩
  | cons c parts ih =>
    by_cases hc : c = .parent
    · simpa [walk, hc] using ih base.up
    · cases hnull : c.hasNull with
      | true => exact .inl (by simp [walk, hc, hnull])
      | false => simpa [walk, hc, hnull] using ih (base.child c)

/-- All names of the path can be looked at, and none is the step to the parent. -/
def IsPlain (p : Path) : Prop :=
  ∀ c ∈ p.parts, c ≠ .parent ∧ c.hasNull = false

instance (p : Path) : Decidable p.IsPlain :=
  inferInstanceAs (Decidable (∀ c ∈ p.parts, c ≠ .parent ∧ c.hasNull = false))

theorem IsPlain.join {p q : Path} (hp : p.IsPlain) (hq : q.IsPlain) : (p.join q).IsPlain := by
  rw [Path.join]
  split
  · exact hq
  · exact fun c hc => (List.mem_append.mp hc).elim (hp c) (hq c)

theorem IsPlain.parent_not_mem {p : Path} (h : p.IsPlain) : Component.parent ∉ p.parts :=
  fun hmem => (h _ hmem).1 rfl

theorem IsPlain.isDirect {p : Path} (h : p.IsPlain) {links : List Link} (hlinks : links = []) :
    IsDirect links p where
  parent := h.parent_not_mem
  null c hc := (h c hc).2
  link _ _ _ link hlink := by simp [hlinks] at hlink

theorem fold_of_parent_not_mem (base : List Component) {parts : List Component}
    (h : Component.parent ∉ parts) : fold base parts = base ++ parts := by
  induction parts generalizing base with
  | nil => simp [fold]
  | cons c parts ih =>
    simp only [List.mem_cons, not_or] at h
    rw [fold, if_neg (Ne.symm h.1), ih _ h.2]
    simp

end Path

namespace Host

variable {host : Host} {p q : Path}

theorem isAbsolute_start (host : Host) : host.start.isAbsolute = true :=
  Path.isAbsolute_join rfl _

theorem isAbsolute_absolute (host : Host) (p : Path) : (host.absolute p).isAbsolute = true :=
  Path.isAbsolute_join host.isAbsolute_start p

theorem absolute_of_root (hlead : p.lead = .root) (hparent : Component.parent ∉ p.parts) :
    host.absolute p = p := by
  have habs : p.isAbsolute = true := by simp [Path.isAbsolute, hlead]
  rw [absolute, Path.join_of_isAbsolute _ habs, Path.fold_of_parent_not_mem [] hparent]
  rfl

/-- The walk that resolves a path. -/
def walk (host : Host) (p : Path) : Walk :=
  Path.walk host.links [] (if p.isAbsolute then .root else .here) p.parts

/-- A link without an end is met on the way. -/
def Loops (host : Host) (p : Path) : Prop :=
  ∃ place rest, host.walk p = .endless place rest

theorem pastEndless_eq_ok_iff {place : Path} {rest : List Component} :
    host.pastEndless place rest = .ok q ↔ host.absolute ⟨place.lead, place.parts ++ rest⟩ = q ∧
      q.parts.any Component.hasNull = false ∧ host.isEndless q = false := by
  generalize hplace : host.absolute ⟨place.lead, place.parts ++ rest⟩ = folded
  rw [pastEndless, hplace]
  constructor
  · intro h
    split at h
    · cases h
    · next hnull =>
      split at h
      · cases h
      · next hendless =>
        cases h
        exact ⟨rfl, by simpa using hnull, by simpa using hendless⟩
  · rintro ⟨rfl, hnull, hendless⟩
    simp [hnull, hendless]

theorem resolve_eq_ok_iff : host.resolve p = .ok q ↔
    (∃ place, host.walk p = .reached place ∧ host.absolute place = q) ∨
      ∃ place rest, host.walk p = .endless place rest ∧ host.pastEndless place rest = .ok q := by
  rw [resolve, ← walk]
  cases host.walk p with
  | reached place => simp
  | endless place rest => simp [and_assoc]
  | refused => simp

theorem isAbsolute_of_resolve (h : host.resolve p = .ok q) : q.isAbsolute = true := by
  rcases resolve_eq_ok_iff.mp h with ⟨place, -, rfl⟩ | ⟨place, rest, -, h⟩
  · exact host.isAbsolute_absolute place
  · obtain ⟨rfl, -⟩ := pastEndless_eq_ok_iff.mp h
    exact host.isAbsolute_absolute _

theorem isDirect_of_resolve (habs : p.isAbsolute = true) (hloops : ¬ host.Loops p)
    (h : host.resolve p = .ok q) : q.lead = .root ∧ Path.IsDirect host.links q := by
  rcases resolve_eq_ok_iff.mp h with ⟨place, hwalk, rfl⟩ | ⟨place, rest, hwalk, -⟩
  · rw [walk, if_pos habs] at hwalk
    obtain ⟨hlead, hdirect⟩ := Path.isDirect_of_walk hwalk rfl (Path.IsDirect.root _)
    rw [absolute_of_root hlead hdirect.parent]
    exact ⟨hlead, hdirect⟩
  · exact absurd ⟨place, rest, hwalk⟩ hloops

theorem walk_of_isDirect (hlead : p.lead = .root) (h : Path.IsDirect host.links p) :
    host.walk p = .reached p := by
  obtain ⟨lead, parts⟩ := p
  cases hlead
  have hwalk : Path.walk host.links [] .root parts = .reached ⟨.root, parts⟩ :=
    Path.walk_of_isDirect [] h
  exact hwalk

theorem resolve_of_isDirect (hlead : p.lead = .root) (h : Path.IsDirect host.links p) :
    host.resolve p = .ok p :=
  resolve_eq_ok_iff.mpr (.inl ⟨p, walk_of_isDirect hlead h, absolute_of_root hlead h.parent⟩)

theorem resolve_self (hlinks : host.links = []) (hlead : p.lead = .root) (hplain : p.IsPlain) :
    host.resolve p = .ok p :=
  resolve_of_isDirect hlead (hplain.isDirect hlinks)

/-- Without links a path that does not lead up is where it says, if it can be looked at. -/
theorem resolve_eq_ok_iff_self (hlinks : host.links = []) (hlead : p.lead = .root)
    (hparent : Component.parent ∉ p.parts) : host.resolve p = .ok q ↔ p.IsPlain ∧ q = p := by
  constructor
  · intro h
    have hplain : p.IsPlain := by
      rcases Path.walk_no_links [] (if p.isAbsolute then .root else .here) p.parts with
        hrefused | ⟨-, hnull⟩
      · rw [resolve, hlinks, hrefused] at h
        cases h
      · intro c hc
        have hne : c ≠ .parent := fun heq => hparent (heq ▸ hc)
        exact ⟨hne, hnull c hc hne⟩
    exact ⟨hplain, Except.ok.inj (h.symm.trans (resolve_self hlinks hlead hplain))⟩
  · rintro ⟨hplain, rfl⟩
    exact resolve_self hlinks hlead hplain

theorem resolve_resolve (habs : p.isAbsolute = true) (hloops : ¬ host.Loops p)
    (h : host.resolve p = .ok q) : host.resolve q = .ok q := by
  obtain ⟨hlead, hdirect⟩ := isDirect_of_resolve habs hloops h
  exact resolve_of_isDirect hlead hdirect

end Host

end FrameworkForge
