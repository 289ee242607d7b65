import FrameworkForge.Host
import FrameworkForge.Yaml.Lexer
import FrameworkForge.Yaml.Unfold

/-!
Documents: from the tokens of a text to its nodes, and to the value of its root. A text holds one
document at most, and stands for null if it holds none.
-/

namespace FrameworkForge.Yaml

open Text (Letter)

structure Document where
  tokens : TokenStream
  /-- The nodes that were met, those among them that are still being read. -/
  graph : Graph := #[]
  /-- Names of nodes. -/
  anchors : List (String × Nat) := []
  depth : Nat := 0
  greatestDepth : Nat
  handles : List (String × String) := []

abbrev Parse := StateT Document (Except Fault)

namespace Parse

def malformed {α : Type} : Parse α :=
  throw .malformed

def check (b : Bool) : Parse Unit :=
  if b then return else malformed

def peek : Parse Token := do
  let stream := (← get).tokens
  match stream.tokens with
  | t :: _ => return t
  | [] => throw (stream.fault.getD .malformed)

def skip : Parse Unit :=
  modify fun d => { d with tokens.tokens := d.tokens.tokens.drop 1 }

def accept (t : Token) : Parse Bool := do
  if (← peek) = t then
    skip
    return true
  else return false

def expect (t : Token) : Parse Unit := do
  check (← accept t)

def follows (ts : List Token) : Parse Bool :=
  return (← peek) ∈ ts

def standardHandles : List (String × String) :=
  [("!", "!"), ("!!", Tag.standard)]

def directives (hasVersion : Bool) (handles : List (String × String)) :
    Nat → Parse (List (String × String))
  | 0 => return handles
  | fuel + 1 => do
    match ← peek with
    | .directive (.version major _) => do
      skip
      check (!hasVersion && major = 1)
      directives true handles fuel
    | .directive (.handle handle target) => do
      skip
      check ((handles.lookup handle).isNone)
      directives hasVersion (handles ++ [(handle, target)]) fuel
    | .directive .other => do
      skip
      directives hasVersion handles fuel
    | _ => return handles

structure Properties where
  anchor : Option String := none
  tag : Option String := none

def expanded (handle : Option String) (suffix : String) : Parse String := do
  match handle with
  | none => return suffix
  | some handle =>
    match (← get).handles.lookup handle with
    | some target => return target ++ suffix
    | none => malformed

def anchor? : Parse (Option String) := do
  match ← peek with
  | .anchor name => do
    skip
    return some name
  | _ => return none

def tag? : Parse (Option (Option String × String)) := do
  match ← peek with
  | .tag handle suffix => do
    skip
    return some (handle, suffix)
  | _ => return none

def properties : Parse Properties := do
  let before ← anchor?
  let tag ← tag?
  let anchor ← if before.isNone && tag.isSome then anchor? else pure before
  match tag with
  | none => return { anchor }
  | some (handle, suffix) => do
    let tag ← expanded handle suffix
    return { anchor, tag }

/-- An exclamation mark alone is a tag that says nothing. -/
def nonSpecific : String := "!"

def collectionTag (tag : Option String) (usual : Tag) : Tag :=
  match tag with
  | none => usual
  | some uri => if uri = nonSpecific then usual else Tag.ofUri uri

def scalarTag (tag : Option String) (plain : Bool) (text : List Letter) : Tag :=
  let chars := text.map Letter.toChar
  match tag with
  | none => if plain then Tag.ofPlain chars else .text
  | some uri => if uri = nonSpecific then Tag.ofPlain chars else Tag.ofUri uri

/-- Adds a node, and gives it its name. No name is given twice. -/
def add (anchor : Option String) (node : Node) : Parse Nat := do
  let id := (← get).graph.size
  match anchor with
  | none => pure ()
  | some name => do
    check (((← get).anchors.lookup name).isNone)
    modify fun d => { d with anchors := (name, id) :: d.anchors }
  modify fun d => { d with graph := d.graph.push node }
  return id

def addEmpty : Parse Nat :=
  add none .empty

def fill (id : Nat) (node : Node) : Parse Unit :=
  modify fun d => { d with graph := d.graph.setIfInBounds id node }

def inside {α : Type} (read : Parse α) : Parse α := do
  let depth := (← get).depth
  if (← get).greatestDepth ≤ depth then throw .nestedTooDeep
  modify fun d => { d with depth := depth + 1 }
  let a ← read
  modify fun d => { d with depth }
  return a

/-- Adds a sequence before its items are read, since they can refer to it. -/
def sequence (anchor : Option String) (tag : Tag) (items : Parse (List Nat)) : Parse Nat := do
  let id ← add anchor .empty
  fill id (.sequence tag (← inside items))
  return id

/-- Adds a mapping before its entries are read, since they can refer to it. -/
def mapping (anchor : Option String) (tag : Tag) (entries : Parse (List (Nat × Nat))) :
    Parse Nat := do
  let id ← add anchor .empty
  fill id (.mapping tag (← inside entries))
  return id

def reference (name : String) : Parse Nat := do
  match (← get).anchors.lookup name with
  | some id => return id
  | none => malformed

/-- Where a node stands: inside brackets, in a block, or in a block as a part of an entry, where
its items may start at the column of the entry. -/
inductive Place where
  | flow
  | block
  | entry
  deriving DecidableEq

inductive Start where
  | scalar (text : List Letter) (plain : Bool)
  | flowSequence
  | flowMapping
  | blockSequence
  | blockMapping
  | items
  | nothing

def startOf (place : Place) : Token → Start
  | .blockItem => if place = .entry then .items else .nothing
  | .scalar text plain => .scalar text plain
  | .flowSequence => .flowSequence
  | .flowMapping => .flowMapping
  | .blockSequence => if place = .flow then .nothing else .blockSequence
  | .blockMapping => if place = .flow then .nothing else .blockMapping
  | _ => .nothing

/-- The tokens that can follow an empty part of an entry. -/
def entryStops : List Token :=
  [.key, .value, .blockEnd]

mutual

/-- A node; behind properties it can be empty. -/
def node (place : Place) : Nat → Parse Nat
  | 0 => malformed
  | fuel + 1 => do
    match ← peek with
    | .reference name => do
      skip
      reference name
    | _ => do
      let properties ← properties
      let sequence := sequence properties.anchor (collectionTag properties.tag .sequence)
      let mapping := mapping properties.anchor (collectionTag properties.tag .mapping)
      let scalar (text : List Letter) (plain : Bool) : Parse Nat :=
        add properties.anchor (.scalar (scalarTag properties.tag plain text) text)
      match startOf place (← peek) with
      | .items => sequence (blockItems [.key, .value, .blockEnd, .blockItem] fuel [])
      | .scalar text plain => do
        skip
        scalar text plain
      | .flowSequence => do
        skip
        sequence (flowItems fuel [])
      | .flowMapping => do
        skip
        mapping (flowEntries fuel [])
      | .blockSequence => do
        skip
        sequence do
          let items ← blockItems [.blockItem, .blockEnd] fuel []
          expect .blockEnd
          return items
      | .blockMapping => do
        skip
        mapping do
          let entries ← blockEntries fuel []
          expect .blockEnd
          return entries
      | .nothing => do
        check (properties.anchor.isSome || properties.tag.isSome)
        scalar [] true

/-- A node, or an empty one in front of the given tokens. -/
def nodeOrEmpty (place : Place) (stops : List Token) : Nat → Parse Nat
  | 0 => malformed
  | fuel + 1 => do
    if ← follows stops then addEmpty else node place fuel

/-- The items of a block, as far as they go, behind those given in reverse; an item is empty in
front of the given tokens. -/
def blockItems (stops : List Token) : Nat → List Nat → Parse (List Nat)
  | 0, _ => malformed
  | fuel + 1, before => do
    if ← accept .blockItem then
      let item ← nodeOrEmpty .block stops fuel
      blockItems stops fuel (item :: before)
    else return before.reverse

def entryValue (place : Place) (stops : List Token) : Nat → Parse Nat
  | 0 => malformed
  | fuel + 1 => do
    if ← accept .value then nodeOrEmpty place stops fuel else addEmpty

/-- The entries of a block, as far as they go, behind those given in reverse. -/
def blockEntries : Nat → List (Nat × Nat) → Parse (List (Nat × Nat))
  | 0, _ => malformed
  | fuel + 1, before => do
    if ← accept .key then
      let key ← nodeOrEmpty .entry entryStops fuel
      let value ← entryValue .entry entryStops fuel
      blockEntries fuel ((key, value) :: before)
    else return before.reverse

/-- Items up to the closing bracket, with commas between them, behind those given in reverse. A
key starts a mapping of one entry. -/
def flowItems : Nat → List Nat → Parse (List Nat)
  | 0, _ => malformed
  | fuel + 1, before => do
    if ← accept .flowSequenceEnd then return before.reverse
    if !before.isEmpty then expect .flowItem
    if ← accept .key then
      let item ← mapping none .mapping do
        let key ← nodeOrEmpty .flow [.value, .flowItem, .flowSequenceEnd] fuel
        let value ← entryValue .flow [.flowItem, .flowSequenceEnd] fuel
        return [(key, value)]
      flowItems fuel (item :: before)
    else if ← accept .flowSequenceEnd then return before.reverse
    else do
      let item ← node .flow fuel
      flowItems fuel (item :: before)

/-- Entries up to the closing bracket, with commas between them, behind those given in reverse. A
node that is not marked as a key is one without a value. -/
def flowEntries : Nat → List (Nat × Nat) → Parse (List (Nat × Nat))
  | 0, _ => malformed
  | fuel + 1, before => do
    if ← accept .flowMappingEnd then return before.reverse
    if !before.isEmpty then expect .flowItem
    if ← accept .key then
      let key ← nodeOrEmpty .flow [.value, .flowItem, .flowMappingEnd] fuel
      let value ← entryValue .flow [.flowItem, .flowMappingEnd] fuel
      flowEntries fuel ((key, value) :: before)
    else if ← accept .flowMappingEnd then return before.reverse
    else do
      let key ← node .flow fuel
      let value ← addEmpty
      flowEntries fuel ((key, value) :: before)

end

def implicitRoot (fuel : Nat) : Parse Nat := do
  modify fun d => { d with handles := standardHandles }
  node .block fuel

/-- The root of a document behind directives and a mark. It can be empty. -/
def explicitRoot (fuel : Nat) : Parse Nat := do
  let handles ← directives false [] fuel
  modify fun d => { d with handles := handles ++ standardHandles }
  expect .documentStart
  match ← peek with
  | .directive _ | .documentStart | .documentEnd | .finish => addEmpty
  | _ => node .block fuel

def skipEnds : Nat → Parse Unit
  | 0 => return
  | fuel + 1 => do
    if ← accept .documentEnd then skipEnds fuel

/-- The root of the only document of a text, if there is one. Directives of a second one are read
before it is refused. -/
def document (fuel : Nat) : Parse (Option Nat) := do
  let root ←
    match ← peek with
    | .finish => return none
    | .directive _ | .documentStart => explicitRoot fuel
    | _ => implicitRoot fuel
  skipEnds fuel
  if ← accept .finish then return some root
  let _ ← directives false [] fuel
  malformed

end Parse

/-- How deep collections may be nested, and how much deeper than itself a value that holds itself is
unfolded. -/
structure Limits where
  depth : Nat
  margin : Nat

namespace Limits

/-- A stack of a thousand frames has room for so many collections inside of each other, of which
each takes two. No use of settings looks deeper than from the settings over the targets and a target
to its variables, and the texts of these. -/
def usual : Limits :=
  ⟨488, 8⟩

end Limits

/-- The nodes of the document in a text, and its root. Every node takes a token at least, or stands
in front of one. -/
def graph (limits : Limits) (source : Source) : Except Fault (Graph × Option Nat) := do
  let tokens := TokenStream.ofSource source
  let (root, document) ← (Parse.document (4 * tokens.tokens.length + 4)).run
    { tokens, greatestDepth := limits.depth }
  return (document.graph, root)

/-- The value of a text. A stop at the start is met before anything is read. -/
def readSource (limits : Limits) (source : Source) : Except Fault Value := do
  match source.stop with
  | some ⟨0, fault⟩ => throw fault
  | _ =>
    let (graph, root) ← graph limits source
    match root with
    | some root => graph.value limits.margin root
    | none => return .null

def sourceOf : Content → Source
  | .text s => .ofText s
  | .bytes bs => .ofBytes bs

def reader (limits : Limits) : Reader := fun content =>
  (readSource limits (sourceOf content)).mapError Fault.report

end FrameworkForge.Yaml
