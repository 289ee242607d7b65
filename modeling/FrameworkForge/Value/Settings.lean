import FrameworkForge.Table
import FrameworkForge.Value

/-!
Reading a value as settings. A mapping is its entries; a list of pairs stands for the mapping of
these pairs; nothing given stands for no settings. Entries are read as variables by their texts.
-/

namespace FrameworkForge

namespace Value

def items? : Value → Option (List Value)
  | text s => some (s.toList.map fun c => .text (String.singleton c))
  | brokenText letters => some (letters.map fun letter => ofLetters [letter])
  | bytes bs => some (bs.map fun b => .int b.toNat)
  | list items _ => some items
  | pair first second => some [first, second]
  | set items => some items
  | map entries _ => some (entries.map Prod.fst)
  | _ => none

def entryOf (index : Nat) (item : Value) : Except Error (Value × Value) :=
  match item.items? with
  | none => .error .settingsNotMapping
  | some [key, value] =>
    if key.canBeKey then .ok (key, value) else .error .settingsNotMapping
  | some items => .error (.settingsPairLength index items.length)

def settings (data : Value) : Except Error Entries :=
  if !data.isGiven then .ok []
  else match data with
    | .map entries _ => .ok entries
    | data =>
      match data.items? with
      | none => .error .settingsNotMapping
      | some items => do
        let pairs ← items.zipIdx.mapM fun (item, index) => entryOf index item
        return Entries.ofList pairs

end Value

namespace Environment

def assignmentOf (entry : Value × Value) : Except Error (String × String) := do
  return (← entry.1.written, ← entry.2.written)

/-- The variables of a mapping. Of entries whose names have one text the last one counts. -/
def ofEntries (entries : Value.Entries) : Except Error Environment := do
  return .ofList (← entries.mapM assignmentOf)

end Environment

end FrameworkForge
