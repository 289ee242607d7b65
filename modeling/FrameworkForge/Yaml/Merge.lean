import FrameworkForge.Yaml.Node

/-!
Entries that a mapping takes over from others. The entries of the others come in front of its own,
so that its own win, and those of the first of several come last.
-/

namespace FrameworkForge.Yaml

abbrev Merge := StateT Graph (Except Fault)

namespace Merge

def malformed {α : Type} : Merge α :=
  throw .malformed

def split? (g : Graph) : List (Nat × Nat) → Option (Nat × List (Nat × Nat))
  | [] => none
  | (key, value) :: entries =>
    if g.tag key = .merge then some (value, entries)
    else (split? g entries).map fun (merged, others) => (merged, (key, value) :: others)

/-- A key of the default type is a text from now on. -/
def retag (g : Graph) (key : Nat) : Graph :=
  if g.tag key = .default then g.setIfInBounds key ((g.node key).withTag .text) else g

mutual

/-- Puts the entries that a mapping takes over in their place. Entries for a merge go away before
they are followed, so that a mapping may take over its own entries. -/
def resolve : Nat → Nat → Merge Unit
  | 0, _ => malformed
  | fuel + 1, id => do
    let taken ← takeOver fuel id
    let own := (← get).entries id
    modify fun g => (own.foldl (fun g entry => retag g entry.1) g).setEntries id (taken ++ own)

def takeOver : Nat → Nat → Merge (List (Nat × Nat))
  | 0, _ => malformed
  | fuel + 1, id => do
    let g ← get
    match split? g (g.entries id) with
    | none => return []
    | some (merged, others) => do
      set (g.setEntries id others)
      let taken ← entriesOf fuel merged
      return taken ++ (← takeOver fuel id)

def entriesOf : Nat → Nat → Merge (List (Nat × Nat))
  | 0, _ => malformed
  | fuel + 1, id => do
    match (← get).node id with
    | .scalar _ _ => malformed
    | .mapping _ _ => do
      resolve fuel id
      return (← get).entries id
    | .sequence _ items => do
      let lists ← items.mapM fun item => do
        match (← get).node item with
        | .mapping _ _ => do
          resolve fuel item
          return (← get).entries item
        | _ => malformed
      return lists.reverse.flatten

end

/-- More steps than one after the other can be taken: each entry for a merge counts three times,
for itself and for what it leads to. -/
def fuelFor (g : Graph) : Nat :=
  3 * (g.toList.map fun node => node.entries.length).foldl (· + ·) 0 + 3

end Merge

end FrameworkForge.Yaml
