import FrameworkForge.Text.Letter
import FrameworkForge.Text.Printable

/-!
Quoted texts: a text between quotes on one line, with an escape for the backslash, for the
closing quote and for every character without a visible form.
-/

namespace FrameworkForge.Text

def apostrophe : Char := Char.ofNat 0x27

def quotationMark : Char := Char.ofNat 0x22

def backslash : Char := Char.ofNat 0x5c

def hexDigit (n : Nat) : Char :=
  if n < 10 then Char.ofNat (0x30 + n) else Char.ofNat (0x57 + n)

def hexDigits : Nat → Nat → List Char
  | 0, _ => []
  | width + 1, n => hexDigits width (n / 16) ++ [hexDigit (n % 16)]

/-- An escape by number has two, four or eight digits, whichever is the first to fit. -/
def escapeByNumber (c : Char) : List Char :=
  if c.toNat < 0x100 then backslash :: 'x' :: hexDigits 2 c.toNat
  else if c.toNat < 0x10000 then backslash :: 'u' :: hexDigits 4 c.toNat
  else backslash :: 'U' :: hexDigits 8 c.toNat

def escapeChar (quote c : Char) : List Char :=
  if c = quote ∨ c = backslash then [backslash, c]
  else if c = '\t' then [backslash, 't']
  else if c = '\n' then [backslash, 'n']
  else if c = '\r' then [backslash, 'r']
  else if isPrintable c then [c]
  else escapeByNumber c

/-- A text is set between apostrophes, unless it holds apostrophes and no quotation mark. -/
def quoteFor (cs : List Char) : Char :=
  if apostrophe ∈ cs ∧ quotationMark ∉ cs then quotationMark else apostrophe

def quotedChars (cs : List Char) : List Char :=
  quoteFor cs :: cs.flatMap (escapeChar (quoteFor cs)) ++ [quoteFor cs]

def quoted (s : String) : String :=
  String.ofList (quotedChars s.toList)

def escapeLetter (quote : Char) : Letter → List Char
  | .char c => escapeChar quote c
  | .half n => backslash :: 'u' :: hexDigits 4 n

def quotedLetters (letters : List Letter) : List Char :=
  let quote := quoteFor (letters.filterMap Letter.char?)
  quote :: letters.flatMap (escapeLetter quote) ++ [quote]

def quotedList (texts : List String) : String :=
  "[" ++ ", ".intercalate (texts.map quoted) ++ "]"

end FrameworkForge.Text
