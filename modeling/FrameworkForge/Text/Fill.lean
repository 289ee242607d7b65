import FrameworkForge.Text.Letter

/-!
Filling lines with words: a word goes on the line as long as the line does not grow too wide.
-/

namespace FrameworkForge.Text

/-- A piece of text that stays on one line; a joined one follows the piece before it without a
blank. -/
structure Piece where
  text : String
  joined : Bool := false
  deriving DecidableEq, Repr

/-- The parts of a word, which can be parted behind a hyphen between letters. `before` is what was
read of the part so far. -/
def hyphenParts (before : List Char) : List Char → List (List Char)
  | [] => [before]
  | c :: cs =>
    if c = '-' && before.getLast?.any Char.isAlpha && cs.head?.any Char.isAlpha then
      (before ++ [c]) :: hyphenParts [] cs
    else hyphenParts (before ++ [c]) cs

def pieces (text : String) : List Piece :=
  (splitAt ' ' text.toList).flatMap fun word =>
    match hyphenParts [] word with
    | [] => []
    | first :: later =>
      ⟨String.ofList first, false⟩ :: later.map fun part => ⟨String.ofList part, true⟩

/-- Lines of at most `width` characters where the pieces allow it, from a line that is begun;
further lines start with `indent`. -/
def fill (width : Nat) (indent line : String) : List Piece → List String
  | [] => [line]
  | piece :: later =>
    let longer := line ++ (if piece.joined then "" else " ") ++ piece.text
    if longer.length ≤ width then fill width indent longer later
    else line :: fill width indent (indent ++ piece.text) later

def paragraph (width : Nat) (text : String) : List String :=
  match pieces text with
  | [] => []
  | first :: later => fill width "" first.text later

end FrameworkForge.Text
