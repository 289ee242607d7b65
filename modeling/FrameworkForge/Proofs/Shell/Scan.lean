import FrameworkForge.Text.Word

/-! How a shell cuts a line into words. Blanks part the words, apostrophes and quotation marks keep
what stands between them, and neighbouring pieces are one word. -/

namespace FrameworkForge.Shell

open Text (apostrophe quotationMark isPlainInWord wordChar wordChars)

/-- A piece of a word: a character that stands bare, or all that stands between two quotes. -/
inductive Piece where
  | bare (c : Char)
  | quoted (cs : List Char)
  deriving DecidableEq

namespace Piece

def chars : Piece → List Char
  | bare c => [c]
  | quoted cs => cs

end Piece

def spelling (pieces : List Piece) : List Char :=
  pieces.flatMap Piece.chars

inductive Token where
  | word (pieces : List Piece)
  | opening
  | closing
  | andThen
  deriving DecidableEq

/-- Where a scan stands: outside of quotes, with the word that has begun if there is one; inside of
quotes, with the pieces before them and what they hold so far; or behind a single ampersand. -/
inductive State where
  | plain (begun : Option (List Piece))
  | apostrophes (pieces : List Piece) (held : List Char)
  | marks (pieces : List Piece) (held : List Char)
  | ampersand

def blanks : List Char := [' ', '\t']

/-- Characters that a shell may take for something else than themselves when they stand bare. Only
a part of what they can do is read here, and a line in which one does anything else is refused. -/
def special : List Char :=
  blanks ++ [apostrophe, quotationMark] ++ "()&|;<>$`\\*?[#~\n".toList

/-- Characters that keep a meaning of their own between quotation marks. -/
def expanding : List Char := "$`\\".toList

def ended (begun : Option (List Piece)) : List Token :=
  begun.toList.map .word

def step : State → Char → Option (List Token × State)
  | .plain begun, c =>
    if c ∈ blanks then some (ended begun, .plain none)
    else if c = apostrophe then some ([], .apostrophes (begun.getD []) [])
    else if c = quotationMark then some ([], .marks (begun.getD []) [])
    else if c = '(' then some (ended begun ++ [.opening], .plain none)
    else if c = ')' then some (ended begun ++ [.closing], .plain none)
    else if c = '&' then some (ended begun, .ampersand)
    else if c ∈ special then none
    else some ([], .plain (some (begun.getD [] ++ [.bare c])))
  | .apostrophes pieces held, c =>
    if c = apostrophe then some ([], .plain (some (pieces ++ [.quoted held])))
    else some ([], .apostrophes pieces (held ++ [c]))
  | .marks pieces held, c =>
    if c = quotationMark then some ([], .plain (some (pieces ++ [.quoted held])))
    else if c ∈ expanding then none
    else some ([], .marks pieces (held ++ [c]))
  | .ampersand, c => if c = '&' then some ([.andThen], .plain none) else none

def finish : State → Option (List Token)
  | .plain begun => some (ended begun)
  | _ => none

def scan : State → List Char → Option (List Token)
  | state, [] => finish state
  | state, c :: cs => (step state c).bind fun out => (scan out.2 cs).map (out.1 ++ ·)

theorem scan_cons {state : State} {c : Char} (tokens : List Token) (next : State)
    (h : step state c = some (tokens, next)) (cs : List Char) :
    scan state (c :: cs) = (scan next cs).map (tokens ++ ·) := by
  rw [scan, h, Option.bind_some]

theorem scan_cons_silent {state : State} {c : Char} (next : State)
    (h : step state c = some ([], next)) (cs : List Char) :
    scan state (c :: cs) = scan next cs := by
  rw [scan_cons [] next h]
  exact Option.map_id'

section

variable (begun : Option (List Piece)) (rest : List Char)

theorem scan_bare {c : Char} (h : c ∉ special) :
    scan (.plain begun) (c :: rest) = scan (.plain (some (begun.getD [] ++ [.bare c]))) rest := by
  have hne : ∀ x ∈ special, c ≠ x := fun x hx hcx => h (hcx ▸ hx)
  have hblank : c ∉ blanks := fun hc => h (by simp [special, hc])
  apply scan_cons_silent
  simp only [step, if_neg hblank, if_neg h, if_neg (hne apostrophe (by decide)),
    if_neg (hne quotationMark (by decide)), if_neg (hne '(' (by decide)),
    if_neg (hne ')' (by decide)), if_neg (hne '&' (by decide))]

theorem scan_bares {cs : List Char} (hne : cs ≠ []) (h : ∀ c ∈ cs, c ∉ special) :
    scan (.plain begun) (cs ++ rest) =
      scan (.plain (some (begun.getD [] ++ cs.map .bare))) rest := by
  induction cs generalizing begun with
  | nil => exact absurd rfl hne
  | cons c cs ih =>
    obtain ⟨hc, hcs⟩ := List.forall_mem_cons.mp h
    rw [List.cons_append, scan_bare _ _ hc]
    cases cs with
    | nil => rfl
    | cons d cs =>
      rw [ih _ (by simp) hcs]
      simp

theorem scan_apostrophe :
    scan (.plain begun) (apostrophe :: rest) = scan (.apostrophes (begun.getD []) []) rest :=
  scan_cons_silent _ rfl rest

theorem scan_marked_apostrophe :
    scan (.plain begun) (quotationMark :: apostrophe :: quotationMark :: rest) =
      scan (.plain (some (begun.getD [] ++ [.quoted [apostrophe]]))) rest := by
  rw [scan_cons_silent (.marks (begun.getD []) []) rfl,
    scan_cons_silent (.marks (begun.getD []) [apostrophe]) rfl]
  exact scan_cons_silent _ rfl rest

theorem scan_held (pieces : List Piece) (held : List Char) {c : Char} (hc : c ≠ apostrophe) :
    scan (.apostrophes pieces held) (c :: rest) = scan (.apostrophes pieces (held ++ [c])) rest :=
  scan_cons_silent _ (by rw [step, if_neg hc]) rest

theorem scan_held_apostrophe (pieces : List Piece) (held : List Char) :
    scan (.apostrophes pieces held) (apostrophe :: rest) =
      scan (.plain (some (pieces ++ [.quoted held]))) rest :=
  scan_cons_silent _ rfl rest

end

theorem not_special_of_isPlainInWord {c : Char} (h : isPlainInWord c = true) : c ∉ special := by
  have hspecial : special.all (fun x => !isPlainInWord x) = true := by decide
  intro hc
  simpa [h] using List.all_eq_true.mp hspecial c hc

/-- The pieces of a text between apostrophes, behind what is held of it. An apostrophe of the text
itself closes the quotes, stands between two quotation marks, and opens the quotes again. -/
def heldPieces (held : List Char) : List Char → List Piece
  | [] => [.quoted held]
  | c :: cs =>
    if c = apostrophe then .quoted held :: .quoted [apostrophe] :: heldPieces [] cs
    else heldPieces (held ++ [c]) cs

theorem spelling_heldPieces (held cs : List Char) : spelling (heldPieces held cs) = held ++ cs := by
  induction cs generalizing held with
  | nil => simp [heldPieces, spelling, Piece.chars]
  | cons c cs ih =>
    by_cases hc : c = apostrophe
    · have hrest : (heldPieces [] cs).flatMap Piece.chars = cs := ih []
      simp [heldPieces, hc, spelling, Piece.chars, hrest]
    · simp [heldPieces, hc, ih]

theorem scan_heldPieces (pieces : List Piece) (held cs rest : List Char) :
    scan (.apostrophes pieces held) (cs.flatMap wordChar ++ apostrophe :: rest) =
      scan (.plain (some (pieces ++ heldPieces held cs))) rest := by
  induction cs generalizing pieces held with
  | nil => exact scan_held_apostrophe rest pieces held
  | cons c cs ih =>
    by_cases hc : c = apostrophe
    · simp only [List.flatMap_cons, wordChar, heldPieces, if_pos hc, List.cons_append,
        List.nil_append]
      rw [scan_held_apostrophe, scan_marked_apostrophe, scan_apostrophe, ih]
      simp
    · simp only [List.flatMap_cons, wordChar, heldPieces, if_neg hc, List.cons_append,
        List.nil_append]
      rw [scan_held _ _ _ hc, ih]

def wordPieces (cs : List Char) : List Piece :=
  if cs ≠ [] ∧ cs.all isPlainInWord then cs.map .bare else heldPieces [] cs

theorem spelling_map_bare (cs : List Char) : spelling (cs.map .bare) = cs := by
  simp [spelling, List.flatMap_map, Piece.chars]

theorem spelling_wordPieces (cs : List Char) : spelling (wordPieces cs) = cs := by
  rw [wordPieces]
  split
  · exact spelling_map_bare cs
  · exact spelling_heldPieces [] cs

/-- A written word is read as its pieces, behind whatever has begun before it. -/
theorem scan_wordChars (begun : Option (List Piece)) (cs rest : List Char) :
    scan (.plain begun) (wordChars cs ++ rest) =
      scan (.plain (some (begun.getD [] ++ wordPieces cs))) rest := by
  rw [wordChars, wordPieces]
  split
  · next hplain =>
    refine scan_bares begun rest hplain.1 fun c hc => ?_
    exact not_special_of_isPlainInWord (List.all_eq_true.mp hplain.2 c hc)
  · simp only [List.cons_append, List.append_assoc, List.nil_append]
    rw [scan_apostrophe, scan_heldPieces]

end FrameworkForge.Shell
