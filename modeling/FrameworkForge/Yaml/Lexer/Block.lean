import FrameworkForge.Yaml.Cursor

/-!
Scalars set as indented lines. A literal scalar keeps its line ends, a folded one joins lines; the
header says what becomes of the line ends after the last line.
-/

namespace FrameworkForge.Yaml.Block

/-- What becomes of the final line ends: the first one stays, or none, or all. -/
inductive Chomping where
  | clip
  | strip
  | keep
  deriving DecidableEq, Repr

structure Header where
  chomping : Chomping := .clip
  increment : Option Nat := none

def chomping? (c : Char) : Option Chomping :=
  if c = '+' then some .keep
  else if c = '-' then some .strip
  else none

def increment? (c : Char) : Option Nat :=
  if '1' ≤ c ∧ c ≤ '9' then some (c.toNat - 0x30) else none

/-- The two indications of a header can come in either order. -/
def headerOf : List Char → Header × Nat
  | [] => ({}, 0)
  | c :: cs =>
    match chomping? c, increment? c with
    | some chomping, _ =>
      let increment := cs.head?.bind increment?
      (⟨chomping, increment⟩, if increment.isSome then 2 else 1)
    | none, some n =>
      match cs.head?.bind chomping? with
      | some chomping => (⟨chomping, some n⟩, 2)
      | none => (⟨.clip, some n⟩, 1)
    | none, none => ({}, 0)

def header : Scan Header := do
  let (header, count) := headerOf (← Scan.rest)
  Scan.skip count
  Scan.check (endsOr isSpaceOrBreak (← Scan.rest))
  Scan.restOfLine
  return header

/-- The empty lines in front of the first line: the text of their ends, their greatest width, and
the count of all characters. -/
def leading (column : Nat) : List Char → List Char × Nat × Nat
  | [] => ([], 0, 0)
  | c :: cs =>
    if c = ' ' then
      let (text, width, count) := leading (column + 1) cs
      (text, max width (column + 1), count + 1)
    else if isBreak c then
      let (text, width, count) := leading 0 cs
      (breakText c ++ text, width, count + 1)
    else ([], 0, 0)

/-- The empty lines in front of the next line, which starts at `indent`. -/
def breaks (indent column : Nat) : List Char → List Char × Nat
  | [] => ([], 0)
  | c :: cs =>
    if c = ' ' ∧ column < indent then
      let (text, count) := breaks indent (column + 1) cs
      (text, count + 1)
    else if isBreak c then
      let (text, count) := breaks indent 0 cs
      (breakText c ++ text, count + 1)
    else ([], 0)

def emptyLines (indent : Nat) : Scan (List Char) := do
  let cursor ← get
  let (text, count) := breaks indent cursor.column cursor.rest
  Scan.skip count
  return text

/-- What a block comes to: its lines with what joins them, the end of the last line, and the ends
of the empty lines after it. -/
structure Lines where
  text : List Char
  final : List Char
  trailing : List Char

/-- What joins a line to the next one. Folding takes a line feed away, unless a line at either
side starts with a blank. -/
def joint (fold : Bool) (line next : List Char) (ending between : List Char) : List Char :=
  if fold && ending = ['\n'] && !goesOn isSpaceOrTab line && !goesOn isSpaceOrTab next then
    if between = [] then [' '] else []
  else ending

def atLine (indent : Nat) (c : Cursor) : Bool :=
  c.column = indent && !c.rest.isEmpty

def lines (fold : Bool) (indent : Nat) : Nat → List Char → Scan Lines
  | 0, before => return ⟨[], [], before⟩
  | fuel + 1, before => do
    if !atLine indent (← get) then return ⟨[], [], before⟩
    let line ← Scan.takeWhile (!isBreak ·)
    let ending ← Scan.lineBreak
    let between ← emptyLines indent
    let cursor ← get
    if atLine indent cursor then
      let later ← lines fold indent fuel between
      let text := before ++ line ++ joint fold line cursor.rest ending between ++ later.text
      return { later with text }
    else return ⟨before ++ line, ending, between⟩

def chomped (chomping : Chomping) (lines : Lines) : List Char :=
  match chomping with
  | .strip => lines.text
  | .clip => lines.text ++ lines.final
  | .keep => lines.text ++ lines.final ++ lines.trailing

/-- A scalar from its indicator on, inside a block whose contents have to start at `least`. -/
def scalar (fold : Bool) (least : Nat) : Scan (List Char) := do
  Scan.skip 1
  let header ← header
  let least := max least 1
  let (indent, before) ←
    match header.increment with
    | some n => do
      let indent := least + n - 1
      pure (indent, ← emptyLines indent)
    | none => do
      let cursor ← get
      let (text, width, count) := leading cursor.column cursor.rest
      Scan.skip count
      pure (max least width, text)
  let lines ← lines fold indent (← Scan.fuel) before
  return chomped header.chomping lines

end FrameworkForge.Yaml.Block
