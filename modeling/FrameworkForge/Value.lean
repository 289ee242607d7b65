import FrameworkForge.Calendar
import FrameworkForge.Error
import FrameworkForge.Number.Decimal
import FrameworkForge.Number.Integer
import FrameworkForge.Text.Quoted

/-!
Values of a configuration document: scalars of several kinds, lists, pairs, sets, and mappings
whose entries keep their order. Every value has a plain text and a quoted one, unless a number in
it is too long to be written. A text that holds halves of pairs of code units has a quoted text
only.
-/

namespace FrameworkForge

/-- Collections of a document have an identity, by which one is known that holds itself. Numbers
have one as well, since what is not a number equals nothing but itself. -/
inductive Value where
  | null
  | bool (b : Bool)
  | int (i : Int)
  | float (x : Number.Binary64) (identity : Option Nat)
  | text (s : String)
  | brokenText (letters : List Text.Letter)
  | bytes (bs : List UInt8)
  | date (d : Date)
  | moment (m : Moment)
  | list (items : List Value) (identity : Option Nat)
  | pair (first second : Value)
  | set (items : List Value)
  | map (entries : List (Value × Value)) (identity : Option Nat)

instance : Inhabited Value :=
  ⟨.null⟩

namespace Value

def ofLetters (letters : List Text.Letter) : Value :=
  match Text.Letter.string? letters with
  | some s => text s
  | none => brokenText letters

/-- A value counts as given unless it is null, false, a zero or empty. -/
def isGiven : Value → Bool
  | null => false
  | bool b => b
  | int i => i ≠ 0
  | float x _ => !x.isZero
  | text s => s ≠ ""
  | bytes bs => !bs.isEmpty
  | list items _ => !items.isEmpty
  | set items => !items.isEmpty
  | map entries _ => !entries.isEmpty
  | brokenText _ | date _ | moment _ | pair _ _ => true

def boolText : Bool → String
  | true => "True"
  | false => "False"

def escapeByte (quote : Char) (b : UInt8) : List Char :=
  let c := Char.ofNat b.toNat
  if c = quote ∨ c = Text.backslash then [Text.backslash, c]
  else if c = '\t' then [Text.backslash, 't']
  else if c = '\n' then [Text.backslash, 'n']
  else if c = '\r' then [Text.backslash, 'r']
  else if 0x20 ≤ b.toNat ∧ b.toNat < 0x7f then [c]
  else Text.backslash :: 'x' :: Text.hexDigits 2 b.toNat

def bytesText (bs : List UInt8) : String :=
  let quote := Text.quoteFor (bs.map fun b => Char.ofNat b.toNat)
  String.ofList ('b' :: quote :: bs.flatMap (escapeByte quote) ++ [quote])

def inBraces (texts : List String) : String :=
  "\x7b" ++ ", ".intercalate texts ++ "\x7d"

def isOpen (opened : List Nat) (identity : Option Nat) : Bool :=
  identity.any (· ∈ opened)

mutual

/-- The quoted text of a value inside of collections. One of these is not written out again. -/
def quotedWithin (opened : List Nat) : Value → String
  | null => "None"
  | bool b => boolText b
  | int i => toString i
  | float x _ => x.text
  | text s => Text.quoted s
  | brokenText letters => String.ofList (Text.quotedLetters letters)
  | bytes bs => bytesText bs
  | date d => d.quoted
  | moment m => m.quoted
  | list items identity =>
    if isOpen opened identity then "[...]"
    else "[" ++ ", ".intercalate (quotedItems (identity.toList ++ opened) items) ++ "]"
  | pair first second =>
    "(" ++ quotedWithin opened first ++ ", " ++ quotedWithin opened second ++ ")"
  | set items => if items.isEmpty then "set()" else inBraces (quotedItems opened items)
  | map entries identity =>
    if isOpen opened identity then inBraces ["..."]
    else inBraces (quotedEntries (identity.toList ++ opened) entries)

def quotedItems (opened : List Nat) : List Value → List String
  | [] => []
  | item :: items => quotedWithin opened item :: quotedItems opened items

def quotedEntries (opened : List Nat) : List (Value × Value) → List String
  | [] => []
  | (key, value) :: entries =>
    (quotedWithin opened key ++ ": " ++ quotedWithin opened value) :: quotedEntries opened entries

end

def quoted (v : Value) : String :=
  v.quotedWithin []

/-- The text of a value as it stands in a name, a path or an argument, where it has one: a text is
itself, and values inside a collection are quoted. -/
def plain : Value → String
  | text s => s
  | date d => d.text
  | moment m => m.text
  | value => value.quoted

instance : ToString Value :=
  ⟨plain⟩

mutual

/-- Whether no number is too long for the text of a value inside of collections. -/
def isWritableWithin (opened : List Nat) : Value → Bool
  | int i => Number.isWritable i
  | list items identity =>
    isOpen opened identity || areWritable (identity.toList ++ opened) items
  | pair first second => isWritableWithin opened first && isWritableWithin opened second
  | set items => areWritable opened items
  | map entries identity =>
    isOpen opened identity || areEntriesWritable (identity.toList ++ opened) entries
  | _ => true

def areWritable (opened : List Nat) : List Value → Bool
  | [] => true
  | item :: items => isWritableWithin opened item && areWritable opened items

def areEntriesWritable (opened : List Nat) : List (Value × Value) → Bool
  | [] => true
  | (key, value) :: entries =>
    isWritableWithin opened key && isWritableWithin opened value &&
      areEntriesWritable opened entries

end

def isQuotable (v : Value) : Bool :=
  v.isWritableWithin []

/-- Whether a value has a plain text. A text with halves has none that a name, a path or an argument
could hold. -/
def isWritable : Value → Bool
  | brokenText _ => false
  | v => v.isQuotable

/-- The error of a value that has no plain text. -/
def unwritable : Value → Error
  | brokenText _ => .halfText
  | _ => .integerNotWritable

def checkWritable (v : Value) : Except Error Unit :=
  if v.isWritable then .ok () else .error v.unwritable

def written (v : Value) : Except Error String := do
  v.checkWritable
  return v.plain

def shown (v : Value) : Except Error String :=
  if v.isQuotable then .ok v.quoted else .error .integerNotWritable

def isText : Value → Bool
  | text _ | brokenText _ => true
  | _ => false

def asInt? : Value → Option Int
  | bool b => some (if b then 1 else 0)
  | int i => some i
  | float x _ => x.toInt?
  | _ => none

/-- Whether two values are one key. Numbers of every kind are one key when they are equal, and
moments when they are one point in time. -/
def sameKey : Value → Value → Bool
  | null, null => true
  | text s, text t => s = t
  | brokenText s, brokenText t => s = t
  | bytes bs, bytes cs => bs = cs
  | date d, date e => d = e
  | moment m, moment n => m.sameTime n
  | pair a b, pair c d => sameKey a c && sameKey b d
  | float x i, float y j => x.sameNumber y || (x = .notANumber && i.isSome && i = j)
  | x, y =>
    match x.asInt?, y.asInt? with
    | some i, some j => i = j
    | _, _ => false

def canBeKey : Value → Bool
  | list _ _ | set _ | map _ _ => false
  | pair first second => first.canBeKey && second.canBeKey
  | _ => true

/-- A key that is already there keeps its place and its spelling, and takes what is new. -/
def insertKey {α : Type} (entries : List (Value × α)) (key : Value) (a : α) :
    List (Value × α) :=
  match entries with
  | [] => [(key, a)]
  | (k, b) :: rest =>
    if k.sameKey key then (k, a) :: rest else (k, b) :: insertKey rest key a

abbrev Entries := List (Value × Value)

namespace Entries

def ofList (pairs : List (Value × Value)) : Entries :=
  pairs.foldl (fun entries entry => insertKey entries entry.1 entry.2) []

def get? (entries : Entries) (name : String) : Option Value :=
  (entries.find? fun entry => entry.1.sameKey (.text name)).map Prod.snd

end Entries

end Value

end FrameworkForge
