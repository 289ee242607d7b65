import FrameworkForge.Yaml.Object

/-!
From objects to values. Objects that lead to no circle have their values after those of their
members; the others are unfolded as deep as any use of them can look.
-/

namespace FrameworkForge.Yaml

abbrev Values := Array (Option Value)

namespace Values

def get (values : Values) (id : Nat) : Option Value :=
  values[id]?.join

def settle (objects : Array (Option Object)) (values : Values) (id : Nat) : Values :=
  match values.get id, objects[id]?.join with
  | none, some object => values.setIfInBounds id (object.value? values.get id)
  | _, _ => values

def open? (objects : Array (Option Object)) (values : Values) : List Nat :=
  (List.range objects.size).filter fun id =>
    (objects[id]?.join).isSome && (values.get id).isNone

/-- Settles what can be settled, as long as that is anything. Members mostly come behind what they
are members of. -/
def settleAll (objects : Array (Option Object)) : Nat → Values → Values
  | 0, values => values
  | fuel + 1, values =>
    let ids := open? objects values
    let values := ids.reverse.foldl (settle objects) values
    if (open? objects values).length = ids.length then values
    else settleAll objects fuel values

def deepen (objects : Array (Option Object)) (ids : List Nat) (values : Values) : Values :=
  ids.foldl (fun deeper id =>
    deeper.setIfInBounds id ((objects[id]?.join).bind (·.value? values.get id))) values

def deepenBy (objects : Array (Option Object)) (ids : List Nat) : Nat → Values → Values
  | 0, values => values
  | n + 1, values => deepenBy objects ids n (deepen objects ids values)

/-- A text of a value comes to each object on a way once, and stops where it meets one again. A use
of a value can begin deeper than the value itself, by as much as `margin`. -/
def ofObjects (margin : Nat) (objects : Array (Option Object)) : Values :=
  let values := settleAll objects (objects.size + 1) (Array.replicate objects.size none)
  let circular := open? objects values
  let start := circular.foldl (fun values id => values.setIfInBounds id (some .null)) values
  deepenBy objects circular (circular.length + margin) start

end Values

namespace Graph

def value (g : Graph) (margin root : Nat) : Except Fault Value := do
  let objects ← g.objects root
  return ((Values.ofObjects margin objects).get root).getD .null

end Graph

end FrameworkForge.Yaml
