import FrameworkForge.Path

/-!
Symbolic links and the walk that follows them. A walk goes on component by component and looks at
every name that it makes; the step to the parent undoes the last component physically reached. A
link that is met again while it is followed has no end, and the walk stops there.
-/

namespace FrameworkForge

/-- A link by a name under which it is found; the same link has relative names as well, from the
current directory. A relative target starts at the directory that holds the link. -/
structure Link where
  name : Path
  target : Path

/-- How a walk ends. Where it meets a link without an end it stops at the link, with the components
that were to follow; a name with a null character in it is refused. -/
inductive Walk where
  | reached (place : Path)
  | endless (place : Path) (rest : List Component)
  | refused

namespace Component

def hasNull (c : Component) : Bool :=
  Char.ofNat 0 ∈ c.name.toList

end Component

namespace Path

def child (p : Path) (c : Component) : Path :=
  ⟨p.lead, p.parts ++ [c]⟩

/-- The step to the parent. It stays at the root, and leads out of a relative path. -/
def up (p : Path) : Path :=
  if p.lead = .relative ∧ (p.parts = [] ∨ p.parts.getLast? = some .parent) then p.child .parent
  else ⟨p.lead, p.parts.dropLast⟩

/-- A link that is followed is one more on the trail. -/
theorem length_filter_not_mem_lt {links : List Link} {trail : List Path} {link : Link}
    (hlink : link ∈ links) (htrail : link.name ∉ trail) :
    (links.filter fun other => other.name ∉ link.name :: trail).length <
      (links.filter fun other => other.name ∉ trail).length := by
  have hfilter : (links.filter fun other => other.name ∉ link.name :: trail) =
      (links.filter fun other => other.name ∉ trail).filter fun other => other.name ≠ link.name := by
    simp [List.filter_filter]
  rw [hfilter]
  exact List.length_filter_lt_length_iff_exists.mpr
    ⟨link, List.mem_filter.mpr ⟨hlink, by simpa using htrail⟩, by simp⟩

/-- The walk from `base` along the components, while the links of the trail are followed. -/
def walk (links : List Link) (trail : List Path) (base : Path) : List Component → Walk
  | [] => .reached base
  | c :: cs =>
    if c = .parent then walk links trail base.up cs
    else if c.hasNull then .refused
    else match _hfound : links.find? fun link => link.name = base.child c with
      | none => walk links trail (base.child c) cs
      | some link =>
        if _hnew : link.name ∈ trail then .endless link.name cs
        else
          let start := if link.target.isAbsolute then root else base
          match walk links (link.name :: trail) start link.target.parts with
          | .reached place => walk links trail place cs
          | .endless place rest => .endless place (rest ++ cs)
          | .refused => .refused
termination_by components =>
  ((links.filter fun link => link.name ∉ trail).length, components.length)
decreasing_by
  · exact Prod.Lex.right _ (Nat.lt_succ_self _)
  · exact Prod.Lex.right _ (Nat.lt_succ_self _)
  · exact Prod.Lex.left _ _ (length_filter_not_mem_lt (List.mem_of_find?_eq_some _hfound) _hnew)
  · exact Prod.Lex.right _ (Nat.lt_succ_self _)

def fold (base : List Component) : List Component → List Component
  | [] => base
  | c :: cs => if c = .parent then fold base.dropLast cs else fold (base ++ [c]) cs

end Path

end FrameworkForge
