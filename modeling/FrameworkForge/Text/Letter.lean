/-!
Letters of a text that is given by numbers: characters, and halves of pairs of code units, which
are no characters on their own. Texts are cut at a letter.
-/

namespace FrameworkForge.Text

def splitAt {α : Type} [DecidableEq α] (separator : α) : List α → List (List α)
  | [] => [[]]
  | c :: cs =>
    if c = separator then [] :: splitAt separator cs
    else match splitAt separator cs with
      | [] => [[c]]
      | piece :: pieces => (c :: piece) :: pieces

inductive Letter where
  | char (c : Char)
  | half (number : Nat)
  deriving DecidableEq, Repr

namespace Letter

/-- The letter of a number up to the greatest one of a character. -/
def ofNumber (number : Nat) : Letter :=
  if 0xd800 ≤ number ∧ number ≤ 0xdfff then .half number else .char (Char.ofNat number)

/-- What stands for a half where a character has to stand. -/
def replacement : Char := Char.ofNat 0xfffd

def toChar : Letter → Char
  | char c => c
  | half _ => replacement

def char? : Letter → Option Char
  | char c => some c
  | half _ => none

def string? (letters : List Letter) : Option String :=
  (letters.mapM char?).map String.ofList

def ofString (s : String) : List Letter :=
  s.toList.map char

end Letter

end FrameworkForge.Text
