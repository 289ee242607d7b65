import FrameworkForge.Text.Chunk
import FrameworkForge.Yaml.Fault

/-!
Texts of documents as they are read. Characters are requested ahead of the reader, two requests at
the start, and then one whenever the reader comes to the end of what is there; a request that
fails stops the reader.
-/

namespace FrameworkForge.Yaml

/-- An error that is met by whoever reads the character at the offset. -/
structure Stop where
  offset : Nat
  fault : Fault

namespace Stop

def first (s t : Option Stop) : Option Stop :=
  match s, t with
  | some s, some t => if t.offset < s.offset then some t else some s
  | s, t => s.or t

end Stop

structure Source where
  text : List Char
  stop : Option Stop := none

/-- Characters that a document can hold: controls are not among them, line ends and the tab
apart. -/
def isAllowed (c : Char) : Bool :=
  let n := c.toNat
  n = 0x9 || n = 0xa || n = 0xd || (0x20 ≤ n && n ≤ 0x7e) || n = 0x85 ||
    (0xa0 ≤ n && n ≤ 0xd7ff) || (0xe000 ≤ n && n ≤ 0xfffd) || 0x10000 ≤ n

namespace Source

/-- Where the request starts that brings the character of the given index. -/
def requestOffset (index : Nat) : Nat :=
  if index < 2 * Text.requestSize then 0 else index / Text.requestSize * Text.requestSize

def refusal? (text : List Char) : Option Stop :=
  (text.findIdx? (!isAllowed ·)).map fun index => ⟨requestOffset index, .malformed⟩

def ofText (s : String) : Source :=
  let text := Text.unifyNewlines s.toList
  ⟨text, refusal? text⟩

/-- A request decodes its characters before it looks at them. -/
def ofBytes (bytes : List UInt8) : Source :=
  let (chunked, fault?) := Text.Chunked.ofBytes bytes
  let text := chunked.chars.reverse
  let undecoded := fault?.map fun fault =>
    ⟨requestOffset chunked.count, .encoding fault⟩
  ⟨text, Stop.first undecoded (refusal? text)⟩

end Source

end FrameworkForge.Yaml
