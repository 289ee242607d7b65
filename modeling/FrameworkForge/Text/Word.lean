import FrameworkForge.Text.Quoted

/-!
Words of a command line as a shell reads them. A word is left as it is when all of its characters
are plain to the shell, and set between apostrophes otherwise.
-/

namespace FrameworkForge.Text

/-- Characters that have no meaning of their own to a shell, wherever they stand in a word. -/
def isPlainInWord (c : Char) : Bool :=
  c.isAlphanum || c ∈ ['_', '@', '%', '+', '=', ':', ',', '.', '/', '-']

/-- Inside apostrophes only the apostrophe needs care: it closes the quotation, stands between
quotation marks, and opens the quotation again. -/
def wordChar (c : Char) : List Char :=
  if c = apostrophe then [apostrophe, quotationMark, apostrophe, quotationMark, apostrophe]
  else [c]

def wordChars (cs : List Char) : List Char :=
  if cs ≠ [] ∧ cs.all isPlainInWord then cs
  else apostrophe :: cs.flatMap wordChar ++ [apostrophe]

def word (s : String) : String :=
  String.ofList (wordChars s.toList)

def words (ws : List String) : String :=
  " ".intercalate (ws.map word)

end FrameworkForge.Text
