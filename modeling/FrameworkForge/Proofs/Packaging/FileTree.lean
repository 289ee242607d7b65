import FrameworkForge.Path
import Mathlib.Data.List.Induction

/-! Trees of directories and files. Whatever is in a tree has a directory above it, and a tree
changes by having one of its branches replaced. -/

namespace FrameworkForge

/-- Where something is in a file tree, by the names on the way to it. -/
abbrev Place := List Component

inductive Node where
  | directory
  | file (bytes : List UInt8)
  deriving DecidableEq

structure FileTree where
  node : Place → Option Node
  closed : ∀ p name, node (p ++ [name]) ≠ none → node p = some .directory

namespace FileTree

variable {f g sub : FileTree} {p q : Place}

theorem ext (h : ∀ p, f.node p = g.node p) : f = g := by
  obtain ⟨node, _⟩ := f
  obtain ⟨node', _⟩ := g
  obtain rfl : node = node' := funext h
  rfl

theorem node_append_of_none (h : f.node p = none) (rest : Place) : f.node (p ++ rest) = none := by
  induction rest using List.reverseRecOn with
  | nil => simpa using h
  | append_singleton rest name ih =>
    by_contra hne
    have hdirectory := f.closed (p ++ rest) name (by simpa using hne)
    rw [ih] at hdirectory
    cases hdirectory

def empty : FileTree where
  node _ := none
  closed _ _ h := absurd rfl h

def bare : FileTree where
  node p := if p = [] then some .directory else none
  closed p name h := by simp at h

def single (bytes : List UInt8) : FileTree where
  node p := if p = [] then some (.file bytes) else none
  closed p name h := by simp at h

def below (f : FileTree) (p : Place) : FileTree where
  node q := f.node (p ++ q)
  closed q name h := f.closed (p ++ q) name (by simpa using h)

def content? (f : FileTree) (p : Place) : Option (List UInt8) :=
  match f.node p with
  | some (.file bytes) => some bytes
  | _ => none

theorem node_eq_of_below_eq (h : f.below p = g.below p) : f.node p = g.node p := by
  have hnode : f.node (p ++ []) = g.node (p ++ []) := congrArg (fun t => t.node []) h
  simpa using hnode

theorem content?_eq_of_below_eq (h : f.below p = g.below p) : f.content? p = g.content? p := by
  rw [content?, content?, node_eq_of_below_eq h]

theorem node_of_content? {bytes : List UInt8} (h : f.content? p = some bytes) :
    f.node p = some (.file bytes) := by
  rw [content?] at h
  split at h <;> simp_all

theorem node_append_of_content? {bytes : List UInt8} (h : f.content? p = some bytes)
    {rest : Place} (hrest : rest ≠ []) : f.node (p ++ rest) = none := by
  induction rest using List.reverseRecOn with
  | nil => exact absurd rfl hrest
  | append_singleton rest name ih =>
    by_contra hne
    have hdirectory := f.closed (p ++ rest) name (by simpa using hne)
    by_cases hnil : rest = []
    · simp [hnil, node_of_content? h] at hdirectory
    · simp [ih hnil] at hdirectory

theorem below_of_content? {bytes : List UInt8} (h : f.content? p = some bytes) :
    f.below p = single bytes := by
  refine ext fun rest => ?_
  by_cases hrest : rest = []
  · simp [below, single, hrest, node_of_content? h]
  · simp [below, single, hrest, node_append_of_content? h]

/-- A branch that is not empty needs a directory to stand in. -/
def Fits (f : FileTree) (p : Place) (sub : FileTree) : Prop :=
  p = [] ∨ sub.node [] = none ∨ f.node p.dropLast = some .directory

instance (f : FileTree) (p : Place) (sub : FileTree) : Decidable (f.Fits p sub) :=
  inferInstanceAs (Decidable (_ ∨ _ ∨ _))

def replaced (f : FileTree) (p : Place) (sub : FileTree) (q : Place) : Option Node :=
  if p <+: q then sub.node (q.drop p.length) else f.node q

theorem closed_replaced (h : f.Fits p sub) (q : Place) (name : Component)
    (hne : f.replaced p sub (q ++ [name]) ≠ none) :
    f.replaced p sub q = some .directory := by
  rw [replaced] at hne ⊢
  by_cases hq : p <+: q
  · obtain ⟨rest, rfl⟩ := hq
    have hlonger : p <+: p ++ rest ++ [name] := ⟨rest ++ [name], by simp⟩
    rw [if_pos hlonger] at hne
    rw [if_pos (List.prefix_append p rest)]
    simp only [List.append_assoc, List.drop_left] at hne ⊢
    exact sub.closed rest name hne
  · rw [if_neg hq]
    by_cases hchild : p <+: q ++ [name]
    · have hp : p = q ++ [name] := (List.prefix_concat_iff.mp hchild).resolve_right hq
      rw [if_pos hchild, hp, List.drop_length] at hne
      rcases h with h | h | h
      · simp [hp] at h
      · exact absurd h hne
      · simpa [hp] using h
    · rw [if_neg hchild] at hne
      exact f.closed q name hne

/-- The tree with another branch at a place, if the branch fits there. -/
def graft (f : FileTree) (p : Place) (sub : FileTree) : FileTree :=
  if h : f.Fits p sub then ⟨f.replaced p sub, closed_replaced h⟩ else f

theorem node_graft (h : f.Fits p sub) (q : Place) :
    (f.graft p sub).node q = if p <+: q then sub.node (q.drop p.length) else f.node q := by
  rw [graft, dif_pos h]
  rfl

theorem node_graft_self (h : f.Fits p sub) : (f.graft p sub).node p = sub.node [] := by
  simp [node_graft h]

theorem node_graft_outside (h : f.Fits p sub) (hq : ¬ p <+: q) :
    (f.graft p sub).node q = f.node q := by
  rw [node_graft h, if_neg hq]

theorem content?_graft_single {bytes : List UInt8} (h : f.Fits p (single bytes)) :
    (f.graft p (single bytes)).content? p = some bytes := by
  rw [content?, node_graft_self h]
  rfl

theorem below_graft_self (h : f.Fits p sub) : (f.graft p sub).below p = sub := by
  refine ext fun q => ?_
  simp [below, node_graft h]

theorem fits_of_directory (h : f.node p.dropLast = some .directory) : f.Fits p sub :=
  .inr (.inr h)

def erase (f : FileTree) (p : Place) : FileTree :=
  f.graft p empty

theorem fits_empty (f : FileTree) (p : Place) : f.Fits p empty :=
  .inr (.inl rfl)

theorem node_erase (f : FileTree) (p q : Place) :
    (f.erase p).node q = if p <+: q then none else f.node q :=
  node_graft (f.fits_empty p) q

theorem erase_of_none (h : f.node p = none) : f.erase p = f := by
  refine ext fun q => ?_
  rw [node_erase]
  split
  · next hq =>
    obtain ⟨rest, rfl⟩ := hq
    exact (node_append_of_none h rest).symm
  · rfl

def clear (f : FileTree) (places : List Place) : FileTree :=
  places.foldl erase f

theorem node_clear (f : FileTree) (places : List Place) (q : Place) :
    (f.clear places).node q = if ∃ p ∈ places, p <+: q then none else f.node q := by
  induction places generalizing f with
  | nil => simp [clear]
  | cons p places ih =>
    change ((f.erase p).clear places).node q = _
    rw [ih, node_erase]
    by_cases hp : p <+: q
    · simp [hp]
    · simp [hp]

def withDirectory (f : FileTree) (p : Place) : FileTree :=
  if f.node p = none then f.graft p bare else f

theorem node_withDirectory (h : f.node p.dropLast = some .directory) (q : Place) :
    (f.withDirectory p).node q = if q = p ∧ f.node p = none then some .directory else f.node q := by
  rw [withDirectory]
  by_cases hp : f.node p = none
  · rw [if_pos hp, node_graft (fits_of_directory h)]
    by_cases hq : p <+: q
    · obtain ⟨rest, rfl⟩ := hq
      by_cases hrest : rest = []
      · simp [hrest, hp, bare]
      · simp [hrest, bare, node_append_of_none hp]
    · have hne : q ≠ p := by
        rintro rfl
        exact hq (List.prefix_refl q)
      simp [hq, hne]
  · simp [hp]

/-- The tree of the given files, of which none lies inside another. -/
def ofFiles (files : List (Place × List UInt8))
    (hapart : ∀ a ∈ files, ∀ b ∈ files, a.1 <+: b.1 → a.1 = b.1) : FileTree where
  node p :=
    match files.find? fun file => file.1 = p with
    | some file => some (.file file.2)
    | none => if ∃ file ∈ files, p <+: file.1 then some .directory else none
  closed p name h := by
    have hinside : ∃ file ∈ files, p ++ [name] <+: file.1 := by
      split at h
      · next file hfile =>
        have heq := List.find?_some hfile
        exact ⟨file, List.mem_of_find?_eq_some hfile, by simp_all⟩
      · simpa using h
    obtain ⟨file, hfile, hbegins⟩ := hinside
    have habove := (List.prefix_append p [name]).trans hbegins
    split
    · next other hother =>
      obtain rfl : other.1 = p := by simpa using List.find?_some hother
      have heq := hapart other (List.mem_of_find?_eq_some hother) file hfile habove
      rw [← heq] at hbegins
      have hle := hbegins.length_le
      simp only [List.length_append, List.length_singleton] at hle
      omega
    · rw [if_pos ⟨file, hfile, habove⟩]

end FileTree

end FrameworkForge
