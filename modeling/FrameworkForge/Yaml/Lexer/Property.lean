import FrameworkForge.Text.Digit
import FrameworkForge.Yaml.Token
import FrameworkForge.Yaml.Cursor

/-!
What is written in front of a node: names of anchors, references to them, and tags.
-/

namespace FrameworkForge.Yaml.Property

def isNameChar (c : Char) : Bool :=
  c.isAlphanum || c = '-' || c = '_'

def endsName (c : Char) : Bool :=
  isSeparator c || c ∈ ['?', ':', ',', ']', '\x7d', '%', '@', Char.ofNat 0x60]

def name : Scan String := do
  Scan.skip 1
  let name ← Scan.takeWhile isNameChar
  Scan.check (!name.isEmpty && endsOr endsName (← Scan.rest))
  return String.ofList name

/-- Characters of a tag. A percent sign stands for a byte that two digits give. -/
def isTagChar (c : Char) : Bool :=
  c.isAlphanum || c = Text.apostrophe ||
    c ∈ ['-', ';', '/', '?', ':', '@', '&', '=', '+', '$', ',', '_', '.', '!', '~', '*', '(', ')',
      '[', ']', '%']

def escapedBytes : Nat → Scan (List UInt8)
  | 0 => return []
  | fuel + 1 => do
    if goesOn (· = '%') (← Scan.rest) then
      Scan.skip 1
      let digits := (← Scan.rest).take 2
      Scan.look (min (digits.takeWhile Text.isHexDigit).length 1)
      Scan.check (digits.length = 2 && digits.all Text.isHexDigit)
      Scan.skip 2
      let byte := UInt8.ofNat ((Text.readDigits? 16 digits).getD 0)
      return byte :: (← escapedBytes fuel)
    else return []

/-- Reads bytes given by digits, as the characters that they encode. -/
def escapedText : Scan (List Char) := do
  match Text.decodeUtf8 (← escapedBytes (← Scan.fuel)) with
  | .ok text => return text
  | .error _ => Scan.malformed

def tagText : Nat → Scan (List Char)
  | 0 => return []
  | fuel + 1 => do
    let plain ← Scan.takeWhile fun c => isTagChar c && c ≠ '%'
    if goesOn (· = '%') (← Scan.rest) then
      let text ← escapedText
      return plain ++ text ++ (← tagText fuel)
    else return plain

def uri : Scan String := do
  Scan.check (goesOn isTagChar (← Scan.rest))
  return String.ofList (← tagText (← Scan.fuel))

/-- The short name of a kind of tags: an exclamation mark, or a word between two of them. -/
def handle : Scan String := do
  Scan.check (goesOn (· = '!') (← Scan.rest))
  Scan.skip 1
  if goesOn (· = ' ') (← Scan.rest) then return "!"
  else
    let word ← Scan.takeWhile isNameChar
    Scan.check (goesOn (· = '!') (← Scan.rest))
    Scan.skip 1
    return String.ofList ('!' :: word ++ ['!'])

/-- Whether a second exclamation mark comes before the end of the word. -/
def hasHandle : Scan Bool := do
  let word := ((← Scan.rest).drop 1).takeWhile (!isSpaceOrBreak ·)
  Scan.look (1 + (word.takeWhile (· ≠ '!')).length)
  return '!' ∈ word

/-- A tag is given between angle brackets in full, by a mark alone, or by a handle and the rest. -/
def tag : Scan Token := do
  Scan.look 1
  let behind := (← Scan.rest).drop 1
  let token ←
    if goesOn (· = '<') behind then do
      Scan.skip 2
      let suffix ← uri
      Scan.check (goesOn (· = '>') (← Scan.rest))
      Scan.skip 1
      pure (Token.tag none suffix)
    else if endsOr isSeparator behind then do
      Scan.skip 1
      pure (Token.tag none "!")
    else if ← hasHandle then do
      let handle ← handle
      pure (Token.tag (some handle) (← uri))
    else do
      Scan.skip 1
      pure (Token.tag (some "!") (← uri))
  Scan.check (endsOr isSpaceOrBreak (← Scan.rest))
  return token

end FrameworkForge.Yaml.Property
