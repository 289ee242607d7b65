import FrameworkForge.Yaml.Fault
import FrameworkForge.Yaml.Tag

/-!
The nodes of a document. A node is known by its number, so that it can stand in several places, and
inside of itself as well.
-/

namespace FrameworkForge.Yaml

open Text (Letter)

inductive Node where
  | scalar (tag : Tag) (text : List Letter)
  | sequence (tag : Tag) (items : List Nat)
  | mapping (tag : Tag) (entries : List (Nat × Nat))

namespace Node

def empty : Node :=
  .scalar .null []

def tag : Node → Tag
  | scalar tag _ => tag
  | sequence tag _ => tag
  | mapping tag _ => tag

def withTag (tag : Tag) : Node → Node
  | scalar _ text => scalar tag text
  | sequence _ items => sequence tag items
  | mapping _ entries => mapping tag entries

def isScalar : Node → Bool
  | scalar _ _ => true
  | _ => false

def entries : Node → List (Nat × Nat)
  | mapping _ entries => entries
  | _ => []

def withEntries (entries : List (Nat × Nat)) : Node → Node
  | mapping tag _ => mapping tag entries
  | node => node

end Node

abbrev Graph := Array Node

namespace Graph

def node (g : Graph) (id : Nat) : Node :=
  g[id]?.getD .empty

def tag (g : Graph) (id : Nat) : Tag :=
  (g.node id).tag

def entries (g : Graph) (id : Nat) : List (Nat × Nat) :=
  (g.node id).entries

def setEntries (g : Graph) (id : Nat) (entries : List (Nat × Nat)) : Graph :=
  g.setIfInBounds id ((g.node id).withEntries entries)

/-- The text of a scalar. A mapping stands for the text of its entry for the default. -/
def text (g : Graph) : Nat → Nat → Except Fault (List Letter)
  | 0, _ => .error .endlessText
  | fuel + 1, id =>
    match g.node id with
    | .scalar _ text => .ok text
    | .sequence _ _ => .error .malformed
    | .mapping _ entries =>
      match entries.find? fun entry => g.tag entry.1 = .default with
      | some entry => text g fuel entry.2
      | none => .error .malformed

/-- The text that a node has or stands for. A way from node to node that comes to no text passes
more nodes than there are. -/
def textOf (g : Graph) (id : Nat) : Except Fault (List Letter) :=
  g.text (g.size + 1) id

end Graph

end FrameworkForge.Yaml
