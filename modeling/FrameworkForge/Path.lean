import FrameworkForge.Text.Letter

/-!
Paths of a hierarchical file system, read without looking at it. A path is a lead, which says
where it starts, and a list of components; empty components and single dots are not kept, and
the step to the parent is a component like any other.
-/

namespace FrameworkForge

def IsComponent (s : String) : Prop :=
  s ≠ "" ∧ s ≠ "." ∧ '/' ∉ s.toList

instance (s : String) : Decidable (IsComponent s) :=
  inferInstanceAs (Decidable (_ ∧ _ ∧ _))

structure Component where
  name : String
  valid : IsComponent name
  deriving DecidableEq

namespace Component

def ofString? (s : String) : Option Component :=
  if h : IsComponent s then some ⟨s, h⟩ else none

def parent : Component :=
  ⟨"..", by decide⟩

end Component

/-- Where a path starts. Exactly two leading slashes are told apart from one; three or more are
one. -/
inductive Lead where
  | relative
  | root
  | doubleRoot
  deriving DecidableEq

structure Path where
  lead : Lead
  parts : List Component
  deriving DecidableEq

namespace Path

def leadOf : List Char → Lead
  | '/' :: '/' :: '/' :: _ => .root
  | '/' :: '/' :: _ => .doubleRoot
  | '/' :: _ => .root
  | _ => .relative

def componentsOf (cs : List Char) : List Component :=
  (Text.splitAt '/' cs).filterMap fun piece => Component.ofString? (String.ofList piece)

def parse (s : String) : Path :=
  ⟨leadOf s.toList, componentsOf s.toList⟩

def leadText : Lead → String
  | .relative => ""
  | .root => "/"
  | .doubleRoot => "//"

def text (p : Path) : String :=
  if p.lead = .relative ∧ p.parts = [] then "."
  else leadText p.lead ++ "/".intercalate (p.parts.map Component.name)

instance : ToString Path :=
  ⟨text⟩

def here : Path :=
  ⟨.relative, []⟩

def root : Path :=
  ⟨.root, []⟩

def isAbsolute (p : Path) : Bool :=
  p.lead ≠ .relative

/-- The place that `q` names for someone who stands at `p`. -/
def join (p q : Path) : Path :=
  if q.isAbsolute then q else ⟨p.lead, p.parts ++ q.parts⟩

instance : HDiv Path String Path :=
  ⟨fun p s => p.join (parse s)⟩

/-- The way from `base` to `p`, when `p` starts with all of `base`. -/
def relativeTo? (p base : Path) : Option Path :=
  if p.lead = base.lead ∧ base.parts <+: p.parts then
    some ⟨.relative, p.parts.drop base.parts.length⟩
  else none

/-- A path as shown to someone who works at `base`: relative when it lies inside. -/
def shownFrom (p base : Path) : String :=
  ((p.relativeTo? base).getD p).text

end Path

end FrameworkForge
