import FrameworkForge.Yaml.Fault

/-!
A place in the text of a document and the characters that follow it. Lines and columns are counted
along, since indentation gives a document its structure.
-/

namespace FrameworkForge.Yaml

def nextLine : Char := Char.ofNat 0x85

def lineSeparator : Char := Char.ofNat 0x2028

def paragraphSeparator : Char := Char.ofNat 0x2029

def byteOrderMark : Char := Char.ofNat 0xfeff

def isBreak (c : Char) : Bool :=
  c = '\n' || c = nextLine || c = lineSeparator || c = paragraphSeparator

def isSpaceOrTab (c : Char) : Bool :=
  c = ' ' || c = '\t'

def isSpaceOrBreak (c : Char) : Bool :=
  c = ' ' || isBreak c

def isSeparator (c : Char) : Bool :=
  isSpaceOrTab c || isBreak c

/-- A line end as it counts in a scalar: the two separators stay, others are line feeds. -/
def breakText (c : Char) : List Char :=
  if c = lineSeparator ∨ c = paragraphSeparator then [c] else ['\n']

/-- Whether the text is over or goes on with a character of the class. -/
def endsOr (p : Char → Bool) (rest : List Char) : Bool :=
  rest.head?.all p

def goesOn (p : Char → Bool) (rest : List Char) : Bool :=
  rest.head?.any p

def documentStartMark : List Char :=
  ['-', '-', '-']

def documentEndMark : List Char :=
  ['.', '.', '.']

structure Cursor where
  rest : List Char
  size : Nat
  index : Nat := 0
  line : Nat := 0
  column : Nat := 0
  reach : Nat := 1

namespace Cursor

def ofText (text : List Char) : Cursor :=
  { rest := text, size := text.length }

def look (n : Nat) (c : Cursor) : Cursor :=
  { c with reach := max c.reach (c.index + n + 1) }

/-- Moves on by a character, and looks at the one that is next then. A byte order mark takes no
column. -/
def advance (c : Cursor) : Cursor :=
  match c.rest with
  | [] => c
  | x :: rest =>
    let next := { c with rest, index := c.index + 1, reach := max c.reach (c.index + 2) }
    if isBreak x then { next with line := c.line + 1, column := 0 }
    else if x = byteOrderMark then next
    else { next with column := c.column + 1 }

def advanceBy : Nat → Cursor → Cursor
  | 0, c => c
  | n + 1, c => advanceBy n c.advance

end Cursor

/-- Reading from a cursor, which may find the text malformed. The cursor stays where that was
found. -/
abbrev Scan := ExceptT Fault (StateM Cursor)

namespace Scan

def malformed {α : Type} : Scan α :=
  throw .malformed

def check (b : Bool) : Scan Unit :=
  if b then return else malformed

def rest : Scan (List Char) :=
  return (← get).rest

/-- More steps than anything that reads the text can take. -/
def fuel : Scan Nat :=
  return (← get).size + 1

def look (n : Nat) : Scan Unit :=
  modify (Cursor.look n)

def skip (n : Nat) : Scan Unit :=
  modify (Cursor.advanceBy n)

def takeWhile (p : Char → Bool) : Scan (List Char) := do
  let taken := (← rest).takeWhile p
  skip taken.length
  return taken

def skipWhile (p : Char → Bool) : Scan Unit := do
  let _ ← takeWhile p

def lineBreak : Scan (List Char) := do
  match ← rest with
  | c :: _ => if isBreak c then do skip 1; return breakText c else return []
  | [] => return []

/-- Reads to the end of the line, where nothing but a comment may stand. -/
def restOfLine : Scan Unit := do
  skipWhile (· = ' ')
  if goesOn (· = '#') (← rest) then skipWhile (!isBreak ·)
  check (endsOr isBreak (← rest))
  let _ ← lineBreak

/-- Whether one of the marks of three characters stands here, and nothing right behind it. -/
def isAtMark (marks : List (List Char)) : Scan Bool := do
  look 2
  if (← rest).take 3 ∈ marks then
    look 3
    return endsOr isSeparator ((← rest).drop 3)
  else return false

def isAtDocumentMark : Scan Bool :=
  isAtMark [documentStartMark, documentEndMark]

end Scan

end FrameworkForge.Yaml
