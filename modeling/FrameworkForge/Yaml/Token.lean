import FrameworkForge.Yaml.Fault

/-!
Tokens of a document: the marks of its structure, whether written or implied by indentation, and
the scalars with their properties.
-/

namespace FrameworkForge.Yaml

inductive Directive where
  | version (major minor : Int)
  | handle (handle target : String)
  | other
  deriving DecidableEq, Repr

inductive Token where
  | directive (d : Directive)
  | documentStart
  | documentEnd
  | blockSequence
  | blockMapping
  | blockEnd
  | flowSequence
  | flowSequenceEnd
  | flowMapping
  | flowMappingEnd
  | blockItem
  | flowItem
  | key
  | value
  | reference (name : String)
  | anchor (name : String)
  | tag (handle : Option String) (suffix : String)
  | scalar (text : List Text.Letter) (plain : Bool)
  | finish
  deriving DecidableEq, Repr

/-- The tokens of a text up to its end, or up to the first fault that a reader of the tokens would
meet. -/
structure TokenStream where
  tokens : List Token
  fault : Option Fault := none

end FrameworkForge.Yaml
