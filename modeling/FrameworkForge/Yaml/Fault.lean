import FrameworkForge.Calendar
import FrameworkForge.Error
import FrameworkForge.Number.Integer
import FrameworkForge.Text.Utf8

/-!
What stops the reading of a document: bytes that are no text, a text that is no document, and
scalars that are not of the type that they claim to have. Whole numbers are read with the faults
that a text gives which is none.
-/

namespace FrameworkForge.Yaml

open Text (Letter)

inductive Fault where
  | encoding (fault : Text.Utf8Fault)
  | malformed
  | calendar (fault : CalendarFault)
  | integerText (base : Nat) (shown : String)
  | integerTooLong (digits : Nat)
  | floatText (shown : String)
  | numberEmpty
  | numberTooLarge
  | booleanText
  | timestampText
  | timestampNotScalar
  | endlessText
  | nestedTooDeep
  | characterNumber
  | characterNumberTooLarge

namespace Fault

def kind : Fault → FaultKind
  | encoding _ => .encoding
  | malformed => .document
  | calendar _ | integerText _ _ | integerTooLong _ | floatText _ | characterNumber => .value
  | numberEmpty => .index
  | numberTooLarge | characterNumberTooLarge => .range
  | booleanText => .key
  | timestampText => .member
  | timestampNotScalar => .type
  | endlessText | nestedTooDeep => .depth

/-- All malformed documents have one text, since this reader does not say where they are. -/
def message : Fault → String
  | encoding fault => fault.message
  | malformed => "<yaml error>"
  | calendar fault => fault.message
  | integerText base shown =>
    s!"invalid literal for int() with base {base}: {shown}"
  | integerTooLong digits =>
    "Exceeds the limit (4300 digits) for integer string conversion: value has " ++
      s!"{digits} digits; use sys.set_int_max_str_digits() to increase the limit"
  | floatText shown => s!"could not convert string to float: {shown}"
  | numberEmpty => "a number has no digits"
  | numberTooLarge => "a number is too large"
  | booleanText => "a boolean is neither yes nor no"
  | timestampText => "a timestamp is not in one of the known forms"
  | timestampNotScalar => "a timestamp is not a scalar"
  | endlessText => "a mapping stands for the text of itself"
  | nestedTooDeep => "collections are nested too deep"
  | characterNumber => "chr() arg not in range(0x110000)"
  | characterNumberTooLarge => "a character number is too large"

def report (fault : Fault) : ReaderFault :=
  ⟨fault.kind, fault.message⟩

end Fault

def shownLength : Nat := 200

def readInteger (base : Nat) (letters : List Letter) : Except Fault Int :=
  match Number.readInteger base (letters.map Letter.toChar) with
  | .ok i => .ok i
  | .error (.tooLong digits) => .error (.integerTooLong digits)
  | .error .notANumber =>
    let shown := (Text.quotedLetters letters).take shownLength
    .error (.integerText base (String.ofList shown))

end FrameworkForge.Yaml
