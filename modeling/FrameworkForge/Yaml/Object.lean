import FrameworkForge.Value.Placement
import FrameworkForge.Yaml.Merge
import FrameworkForge.Yaml.Scalar

/-!
What the nodes of a document stand for. Scalars are read when they are met; collections wait, and
are filled in the order in which they were met. The first fault in this order counts.
-/

namespace FrameworkForge.Yaml

/-- A scalar, or a collection whose members are given by the numbers of their nodes. Keys are
scalars. -/
inductive Object where
  | scalar (value : Value)
  | list (items : List Nat)
  | pairs (items : List (Nat × Nat))
  | set (keys : List Value)
  | map (entries : List (Value × Nat))

namespace Object

/-- The value of an object, if all its members have one. A collection has the identity of its
node. -/
def value? (values : Nat → Option Value) (id : Nat) : Object → Option Value
  | scalar value => some value
  | list items => return .list (← items.mapM values) (some id)
  | pairs items => do
    let pairs ← items.mapM fun item => do
      return Value.pair (← values item.1) (← values item.2)
    return .list pairs (some id)
  | set keys => some (.set (Value.setOrder keys))
  | map entries => do
    let entries ← entries.mapM fun entry => do
      return (entry.1, ← values entry.2)
    return .map entries (some id)

end Object

structure Construction where
  graph : Graph
  /-- The objects by the numbers of their nodes, as far as they were met. -/
  objects : Array (Option Object)
  /-- Collections that are not filled yet, the latest first. -/
  waiting : List Nat := []
  mergeFuel : Nat

abbrev Construct := StateT Construction (Except Fault)

namespace Construct

def malformed {α : Type} : Construct α :=
  throw .malformed

def node (id : Nat) : Construct Node :=
  return (← get).graph.node id

def put (id : Nat) (object : Object) : Construct Unit :=
  modify fun c => { c with objects := c.objects.setIfInBounds id (some object) }

def isCollection : Tag → Bool
  | .sequence | .mapping | .set | .orderedMap | .pairs => true
  | _ => false

def identityOf (id : Nat) : Nat :=
  id + 1

def readScalar (id : Nat) (node : Node) : Construct Value := do
  match Scalar.reader? (identityOf id) node.tag with
  | none => malformed
  | some read => do
    let text ← liftM ((← get).graph.textOf id)
    if node.tag = .timestamp && !node.isScalar then throw .timestampNotScalar
    liftM (read text)

/-- The object of a node. A collection is empty at first. -/
def object (id : Nat) : Construct Object := do
  match (← get).objects[id]?.join with
  | some object => return object
  | none => do
    let node ← node id
    if isCollection node.tag then
      put id (.list [])
      modify fun c => { c with waiting := id :: c.waiting }
      return .list []
    else
      let object := Object.scalar (← readScalar id node)
      put id object
      return object

def key (id : Nat) : Construct Value := do
  match ← object id with
  | .scalar value => return value
  | _ => malformed

def entries (id : Nat) : Construct (List (Value × Nat)) := do
  let c ← get
  let (_, graph) ← liftM ((Merge.resolve c.mergeFuel id).run c.graph)
  set { c with graph }
  (graph.entries id).foldlM (fun entries entry => do
    let key ← key entry.1
    let _ ← object entry.2
    return Value.insertKey entries key entry.2) []

/-- A pair is a mapping of one entry. -/
def pair (id : Nat) : Construct (Nat × Nat) := do
  match ← node id with
  | .mapping _ [entry] => do
    let _ ← object entry.1
    let _ ← object entry.2
    return entry
  | _ => malformed

def contents (id : Nat) : Construct Object := do
  match ← node id with
  | .sequence .sequence items => do
    items.forM fun item => do
      let _ ← object item
    return .list items
  | .sequence .orderedMap items | .sequence .pairs items => return .pairs (← items.mapM pair)
  | .mapping .mapping _ => return .map (← entries id)
  | .mapping .set _ => return .set ((← entries id).map Prod.fst)
  | _ => malformed

/-- Fills the collections that wait, and then those that were met in them. -/
def fill : Nat → Construct Unit
  | 0 => return
  | fuel + 1 => do
    match (← get).waiting with
    | [] => return
    | waiting => do
      modify fun c => { c with waiting := [] }
      waiting.reverse.forM fun id => do
        put id (← contents id)
      fill fuel

end Construct

namespace Graph

def objects (g : Graph) (root : Nat) : Except Fault (Array (Option Object)) := do
  let start : Construction :=
    { graph := g, objects := Array.replicate g.size none, mergeFuel := Merge.fuelFor g }
  let construct : Construct Unit := do
    let _ ← Construct.object root
    Construct.fill (g.size + 1)
  let ((), construction) ← construct.run start
  return construction.objects

end Graph

end FrameworkForge.Yaml
