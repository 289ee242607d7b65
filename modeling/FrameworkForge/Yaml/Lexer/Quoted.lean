import FrameworkForge.Text.Digit
import FrameworkForge.Yaml.Cursor

/-!
Scalars between quotes. Between apostrophes an apostrophe is written twice and all else stands for
itself; between quotation marks there are escapes. Line ends are folded in both.
-/

namespace FrameworkForge.Yaml.Quoted

open Text (Letter apostrophe quotationMark backslash)

def escapes : List (Char × Char) := [
  ('0', Char.ofNat 0x0), ('a', Char.ofNat 0x7), ('b', Char.ofNat 0x8), ('t', '\t'), ('\t', '\t'),
  ('n', '\n'), ('v', Char.ofNat 0xb), ('f', Char.ofNat 0xc), ('r', '\r'), ('e', Char.ofNat 0x1b),
  (' ', ' '), (quotationMark, quotationMark), (backslash, backslash), ('/', '/'),
  ('N', nextLine), ('_', Char.ofNat 0xa0), ('L', lineSeparator), ('P', paragraphSeparator)]

def escapeWidth? (c : Char) : Option Nat :=
  if c = 'x' then some 2
  else if c = 'u' then some 4
  else if c = 'U' then some 8
  else none

def greatestCharacter : Nat := 0x10ffff

def greatestNumber : Nat := 0x7fffffff

def letterOf (number : Nat) : Except Fault Letter :=
  if greatestNumber < number then .error .characterNumberTooLarge
  else if greatestCharacter < number then .error .characterNumber
  else .ok (.ofNumber number)

def escapeByNumber (width : Nat) : Scan (List Letter) := do
  let digits := (← Scan.rest).take width
  Scan.look (min (digits.takeWhile Text.isHexDigit).length (width - 1))
  Scan.check (digits.length = width && digits.all Text.isHexDigit)
  match Text.readDigits? 16 digits with
  | some number => do
    let letter ← liftM (letterOf number)
    Scan.skip width
    return [letter]
  | none => Scan.malformed

/-- The line ends in front of the next word, with blanks between them. A line that separates
documents cannot be part of a scalar. -/
def breaks : Nat → Scan (List Char)
  | 0 => return []
  | fuel + 1 => do
    Scan.check (!(← Scan.isAtDocumentMark))
    Scan.skipWhile isSpaceOrTab
    if goesOn isBreak (← Scan.rest) then
      let text ← Scan.lineBreak
      return text ++ (← breaks fuel)
    else return []

def folded (first more : List Char) : List Char :=
  if first ≠ ['\n'] then first ++ more
  else if more = [] then [' ']
  else more

def escape : Scan (List Letter) := do
  match ← Scan.rest with
  | [] => Scan.malformed
  | c :: _ =>
    match escapes.lookup c, escapeWidth? c with
    | some d, _ => do
      Scan.skip 1
      return [.char d]
    | none, some width => do
      Scan.skip 1
      escapeByNumber width
    | none, none => do
      Scan.check (isBreak c)
      Scan.skip 1
      return (← breaks (← Scan.fuel)).map .char

/-- Blanks between words, which do not count next to a line end. -/
def gap : Scan (List Char) := do
  let blank ← Scan.takeWhile isSpaceOrTab
  let rest ← Scan.rest
  Scan.check (!rest.isEmpty)
  if goesOn isBreak rest then
    let first ← Scan.lineBreak
    return folded first (← breaks (← Scan.fuel))
  else return blank

/-- Reads up to the closing quote and over it. The letters before are given in reverse. -/
def body (double : Bool) : Nat → List Letter → Scan (List Letter)
  | 0, _ => Scan.malformed
  | fuel + 1, before => do
    match ← Scan.rest with
    | [] => Scan.malformed
    | c :: cs =>
      if double && c = quotationMark then do
        Scan.skip 1
        return before.reverse
      else if !double && c = apostrophe then do
        Scan.skip 1
        if goesOn (· = apostrophe) cs then
          Scan.skip 1
          body double fuel (.char apostrophe :: before)
        else return before.reverse
      else if isSeparator c then do
        let text ← gap
        body double fuel (text.reverse.map .char ++ before)
      else if double && c = backslash then do
        Scan.skip 1
        let letters ← escape
        body double fuel (letters.reverse ++ before)
      else do
        Scan.skip 1
        body double fuel (.char c :: before)

def scalar (double : Bool) : Scan (List Letter) := do
  Scan.skip 1
  body double (← Scan.fuel) []

end FrameworkForge.Yaml.Quoted
