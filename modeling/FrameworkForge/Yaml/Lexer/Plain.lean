import FrameworkForge.Yaml.Cursor

/-!
Scalars without quotes. Such a scalar can go on over several lines; the line ends between its
words are folded.
-/

namespace FrameworkForge.Yaml.Plain

def flowStops : List Char :=
  [',', '?', '[', ']', '\x7b', '\x7d']

/-- Characters before which a colon inside brackets marks a value. -/
def flowValueStops : List Char :=
  [',', '[', ']', '\x7b', '\x7d']

def stops (inFlow : Bool) : List Char → Bool
  | [] => true
  | c :: cs =>
    isSeparator c || (inFlow && c ∈ flowStops) ||
      (c = ':' && endsOr (fun d => isSeparator d || (inFlow && d ∈ flowValueStops)) cs)

def word (inFlow : Bool) : List Char → List Char
  | [] => []
  | c :: cs => if stops inFlow (c :: cs) then [] else c :: word inFlow cs

inductive Gap where
  | none
  | blank (text : List Char)
  | lines (text : List Char)
  | documentMark

namespace Gap

def hasBreak : Gap → Bool
  | lines _ | documentMark => true
  | _ => false

/-- The text that stands for the gap, if the scalar can go on behind it. -/
def text? : Gap → Option (List Char)
  | blank text | lines text => some text
  | none | documentMark => Option.none

end Gap

/-- The line ends in front of the next word, with spaces between them, and whether a line that
separates documents comes first. -/
def breaks : Nat → Scan (List Char × Bool)
  | 0 => return ([], false)
  | fuel + 1 => do
    Scan.skipWhile (· = ' ')
    if goesOn isBreak (← Scan.rest) then
      let text ← Scan.lineBreak
      if ← Scan.isAtDocumentMark then return (text, true)
      let (more, mark) ← breaks fuel
      return (text ++ more, mark)
    else return ([], false)

/-- A single line feed becomes a space; of several, the first is dropped. -/
def folded (first more : List Char) : List Char :=
  if first ≠ ['\n'] then first ++ more
  else if more = [] then [' ']
  else more

def gap : Scan Gap := do
  let blank ← Scan.takeWhile (· = ' ')
  if goesOn isBreak (← Scan.rest) then
    let first ← Scan.lineBreak
    if ← Scan.isAtDocumentMark then return .documentMark
    let (more, mark) ← breaks (← Scan.fuel)
    return if mark then .documentMark else .lines (folded first more)
  else return if blank = [] then .none else .blank blank

/-- The words from here on behind those given in reverse, and the last gap. Outside of brackets a
line with less than `indent` columns of indentation is not part of the scalar. -/
def words (inFlow : Bool) (indent : Nat) : Nat → List Char → Gap → Scan (List Char × Gap)
  | 0, before, last => return (before.reverse, last)
  | fuel + 1, before, last => do
    match last.text? with
    | none => return (before.reverse, last)
    | some text =>
      let cursor ← get
      if goesOn (· = '#') cursor.rest then return (before.reverse, last)
      if !inFlow && last.hasBreak && cursor.column < indent then return (before.reverse, last)
      let here := word inFlow cursor.rest
      if goesOn (· = ':') (cursor.rest.drop here.length) then Scan.look (here.length + 1)
      if here = [] then return (before.reverse, last)
      Scan.skip here.length
      words inFlow indent fuel (here.reverse ++ (text.reverse ++ before)) (← gap)

def scalar (inFlow : Bool) (indent : Nat) : Scan (List Char × Bool) := do
  let (text, last) ← words inFlow indent (← Scan.fuel) [] (.blank [])
  return (text, last.hasBreak)

end FrameworkForge.Yaml.Plain
