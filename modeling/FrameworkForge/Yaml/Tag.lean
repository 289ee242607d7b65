import FrameworkForge.Text.Letter
import FrameworkForge.Yaml.Timestamp

/-!
Tags say of what type a node is. Standard types have names of their own; the type of a scalar
without quotes is read off its text.
-/

namespace FrameworkForge.Yaml

inductive Tag where
  | null
  | bool
  | int
  | float
  | binary
  | timestamp
  | text
  | orderedMap
  | pairs
  | set
  | sequence
  | mapping
  | merge
  | default
  | unknown
  deriving DecidableEq, Repr

namespace Tag

def standard : String := "tag:yaml.org,2002:"

def standardNames : List (String × Tag) := [
  ("null", null), ("bool", bool), ("int", int), ("float", float), ("binary", binary),
  ("timestamp", timestamp), ("str", text), ("omap", orderedMap), ("pairs", pairs), ("set", set),
  ("seq", sequence), ("map", mapping), ("merge", merge), ("value", default)]

def ofUri (uri : String) : Tag :=
  ((standardNames.find? fun entry => standard ++ entry.1 = uri).map Prod.snd).getD unknown

def isNumeral (c : Char) : Bool :=
  c.isDigit || c = '_'

def dropSign : List Char → List Char
  | c :: cs => if c = '+' ∨ c = '-' then cs else c :: cs
  | [] => []

def startsWith (p : Char → Bool) (cs : List Char) : Bool :=
  cs.head?.any p

def isExponent : List Char → Bool
  | [] => true
  | e :: sign :: digits =>
    (e = 'e' || e = 'E') && (sign = '+' || sign = '-') && !digits.isEmpty &&
      digits.all Char.isDigit
  | _ => false

def isSixtieth : List Char → Bool
  | [d] => d.isDigit
  | [t, d] => '0' ≤ t && t ≤ '5' && d.isDigit
  | _ => false

/-- Parts to base sixty after the first, of which there is one at least. -/
def areSixtieths (parts : List (List Char)) : Bool :=
  !parts.isEmpty && parts.all isSixtieth

/-- A point that follows digits, or is followed by a digit. -/
def isPointed (cs : List Char) : Bool :=
  let unsigned := dropSign cs
  (startsWith Char.isDigit unsigned &&
    match unsigned.dropWhile isNumeral with
    | '.' :: rest => isExponent (rest.dropWhile isNumeral)
    | _ => false) ||
  match cs with
  | '.' :: rest => startsWith Char.isDigit rest && isExponent (rest.dropWhile isNumeral)
  | _ => false

def isPointedSexagesimal (cs : List Char) : Bool :=
  let unsigned := dropSign cs
  match Text.splitAt ':' (unsigned.takeWhile (· ≠ '.')), unsigned.dropWhile (· ≠ '.') with
  | first :: parts, _ :: fraction =>
    startsWith Char.isDigit first && first.all isNumeral && areSixtieths parts &&
      fraction.all isNumeral
  | _, _ => false

def isFloat (cs : List Char) : Bool :=
  isPointed cs || isPointedSexagesimal cs ||
    String.ofList (dropSign cs) ∈ [".inf", ".Inf", ".INF"] ||
    String.ofList cs ∈ [".nan", ".NaN", ".NAN"]

def isBased (mark : List Char) (p : Char → Bool) (cs : List Char) : Bool :=
  let digits := cs.drop mark.length
  mark.isPrefixOf cs && !digits.isEmpty && digits.all fun c => p c || c = '_'

def isDecimal (cs : List Char) : Bool :=
  cs = ['0'] || startsWith (fun c => '1' ≤ c && c ≤ '9') cs && cs.all isNumeral

def isSexagesimal (cs : List Char) : Bool :=
  match Text.splitAt ':' cs with
  | first :: parts =>
    startsWith (fun c => '1' ≤ c && c ≤ '9') first && first.all isNumeral && areSixtieths parts
  | [] => false

def isInt (cs : List Char) : Bool :=
  let unsigned := dropSign cs
  isBased ['0', 'b'] (fun c => c = '0' || c = '1') unsigned ||
    isBased ['0'] (fun c => '0' ≤ c && c ≤ '7') unsigned ||
    isBased ['0', 'x'] Text.isHexDigit unsigned || isDecimal unsigned || isSexagesimal unsigned

def boolWords : List String :=
  ["yes", "Yes", "YES", "no", "No", "NO", "true", "True", "TRUE", "false", "False", "FALSE",
    "on", "On", "ON", "off", "Off", "OFF"]

def nullWords : List String :=
  ["", "~", "null", "Null", "NULL"]

/-- A day alone has two digits for the month and for the day. -/
def isTimestamp (cs : List Char) : Bool :=
  match Timestamp.read? cs with
  | some t => t.clock.isSome || cs.length = 10
  | none => false

def reservedWords : List String :=
  ["!", "&", "*"]

/-- The last of several characters does not count if it is a line feed. -/
def dropFinalBreak (cs : List Char) : List Char :=
  if 1 < cs.length ∧ cs.getLast? = some '\n' then cs.dropLast else cs

def ofPlain (text : List Char) : Tag :=
  let cs := dropFinalBreak text
  let word := String.ofList cs
  if word ∈ boolWords then bool
  else if isFloat cs then float
  else if isInt cs then int
  else if word = "<<" then merge
  else if word ∈ nullWords then null
  else if isTimestamp cs then timestamp
  else if word = "=" then default
  else if word ∈ reservedWords then unknown
  else Tag.text

end Tag

end FrameworkForge.Yaml
