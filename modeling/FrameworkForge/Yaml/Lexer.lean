import FrameworkForge.Yaml.Lexer.Block
import FrameworkForge.Yaml.Lexer.Directive
import FrameworkForge.Yaml.Lexer.Plain
import FrameworkForge.Yaml.Lexer.Quoted
import FrameworkForge.Yaml.Source

/-!
From the characters of a text to its tokens. Indentation opens and closes blocks. A key need not be
marked: its mark goes in front of a token that was read before, once a colon shows that it was a
key.
-/

namespace FrameworkForge.Yaml

/-- A token that turns out to be a key if a colon follows on its line. -/
structure Candidate where
  /-- How many tokens come before it. -/
  place : Nat
  /-- Whether it has to be a key, since it stands where only keys can. -/
  required : Bool
  level : Nat
  index : Nat
  line : Nat
  column : Nat

structure Lexer where
  cursor : Cursor
  tokens : List Token := []
  count : Nat := 0
  level : Nat := 0
  blocks : List Nat := []
  keyAllowed : Bool := true
  candidates : List Candidate := []

/-- Reading of tokens; what was read before a fault is kept. -/
abbrev Lex := ExceptT Fault (StateM Lexer)

namespace Lex

def malformed {α : Type} : Lex α :=
  throw .malformed

def check (b : Bool) : Lex Unit :=
  if b then return else malformed

def scan {α : Type} (s : Scan α) : Lex α := do
  let lexer ← get
  let (result, cursor) := s.run.run lexer.cursor
  set { lexer with cursor }
  liftM result

def emit (t : Token) : Lex Unit :=
  modify fun l => { l with tokens := t :: l.tokens, count := l.count + 1 }

/-- Puts a token in front of those that come from the given place on. -/
def insert (place : Nat) (t : Token) : Lex Unit :=
  modify fun l =>
    { l with tokens := l.tokens.insertIdx (l.count - place) t, count := l.count + 1 }

def allowKey (keyAllowed : Bool) : Lex Unit :=
  modify fun l => { l with keyAllowed }

def mark (length : Nat) (t : Token) : Lex Unit := do
  scan (Scan.skip length)
  emit t

def inFlow : Lex Bool :=
  return (← get).level ≠ 0

def closeBlocks (column : Option Nat) : Lex Unit := do
  if !(← inFlow) then
    let (closed, open') := (← get).blocks.span fun block => column.all (· < block)
    closed.forM fun _ => emit .blockEnd
    modify fun l => { l with blocks := open' }

/-- Opens a block at a column to the right of the open ones, with its token in the given place.
Within an open block at this column nothing changes. -/
def openBlock (column place : Nat) (t : Token) : Lex Unit := do
  if (← get).blocks.head?.all (· < column) then
    insert place t
    modify fun l => { l with blocks := column :: l.blocks }

def contentColumn : Lex Nat :=
  return (((← get).blocks.head?).map (· + 1)).getD 0

def keyLength : Nat := 1024

def isStale (cursor : Cursor) (c : Candidate) : Bool :=
  c.line ≠ cursor.line || keyLength < cursor.index - c.index

/-- Gives candidates up. One that had to be a key is a fault. -/
def dropCandidates (p : Candidate → Bool) : Lex Unit := do
  let lexer ← get
  check (!(lexer.candidates.any fun c => p c && c.required))
  set { lexer with candidates := lexer.candidates.filter (!p ·) }

def dropStale : Lex Unit := do
  let cursor := (← get).cursor
  dropCandidates (isStale cursor)

def dropCandidate : Lex Unit := do
  let level := (← get).level
  dropCandidates (·.level = level)

def saveCandidate : Lex Unit := do
  if (← get).keyAllowed then
    dropCandidate
    let lexer ← get
    let cursor := lexer.cursor
    let required := lexer.level = 0 && lexer.blocks.head? = some cursor.column
    let candidate : Candidate :=
      ⟨lexer.count, required, lexer.level, cursor.index, cursor.line, cursor.column⟩
    set { lexer with candidates := candidate :: lexer.candidates }

/-- Skips spaces, comments and line ends. A new line outside of brackets can start with a key. -/
def skipToToken : Nat → Lex Unit
  | 0 => return
  | fuel + 1 => do
    scan (Scan.skipWhile (· = ' '))
    if goesOn (· = '#') (← get).cursor.rest then scan (Scan.skipWhile (!isBreak ·))
    if goesOn isBreak (← get).cursor.rest then
      scan (Scan.skip 1)
      if (← get).level = 0 then allowKey true
      skipToToken fuel

def documentMark (t : Token) : Lex Unit := do
  closeBlocks none
  dropCandidate
  allowKey false
  mark 3 t

def directive : Lex Unit := do
  closeBlocks none
  dropCandidate
  allowKey false
  emit (.directive (← scan Directive.read))

def flowStart (t : Token) : Lex Unit := do
  saveCandidate
  modify fun l => { l with level := l.level + 1 }
  allowKey true
  mark 1 t

def flowFinish (t : Token) : Lex Unit := do
  dropCandidate
  match (← get).level with
  | 0 => malformed
  | level + 1 => do
    modify fun l => { l with level }
    allowKey false
    mark 1 t

def flowItem : Lex Unit := do
  allowKey true
  dropCandidate
  mark 1 .flowItem

/-- Opens a block for a written mark outside of brackets, where it has to be allowed. -/
def blockFor (t : Token) : Lex Unit := do
  if !(← inFlow) then
    let lexer ← get
    check lexer.keyAllowed
    openBlock lexer.cursor.column lexer.count t

def blockItem : Lex Unit := do
  blockFor .blockSequence
  allowKey true
  dropCandidate
  mark 1 .blockItem

def key : Lex Unit := do
  blockFor .blockMapping
  allowKey (!(← inFlow))
  dropCandidate
  mark 1 .key

/-- A colon makes the candidate a key. Without one, the key is empty. -/
def value : Lex Unit := do
  let lexer ← get
  match lexer.candidates.find? (·.level = lexer.level) with
  | some c => do
    insert c.place .key
    modify fun l => { l with candidates := l.candidates.filter (·.level ≠ lexer.level) }
    if !(← inFlow) then openBlock c.column c.place .blockMapping
    allowKey false
  | none => do
    blockFor .blockMapping
    allowKey (!(← inFlow))
    dropCandidate
  mark 1 .value

def possibleKey (read : Scan Token) : Lex Unit := do
  saveCandidate
  allowKey false
  emit (← scan read)

def plainScalar : Lex Unit := do
  saveCandidate
  let (text, hasBreak) ← scan (Plain.scalar (← inFlow) (← contentColumn))
  allowKey hasBreak
  emit (.scalar (text.map .char) true)

def blockScalar (fold : Bool) : Lex Unit := do
  allowKey true
  dropCandidate
  let text ← scan (Block.scalar fold (← contentColumn))
  emit (.scalar (text.map .char) false)

def finish : Lex Unit := do
  closeBlocks none
  dropCandidate
  modify fun l => { l with candidates := [] }
  emit .finish

def indicators : List Char :=
  ['-', '?', ':', ',', '[', ']', '\x7b', '\x7d', '#', '&', '*', '!', '|', '>', Text.apostrophe,
    Text.quotationMark, '%', '@', Char.ofNat 0x60]

def startsPlain (flow : Bool) (c : Char) (rest : List Char) : Bool :=
  !(isSeparator c || c ∈ indicators) ||
    (!endsOr isSeparator rest && (c = '-' || (!flow && (c = '?' || c = ':'))))

def isAmbiguous (flow : Bool) (c : Char) : Bool :=
  c ∈ ['-', '%', '@', Char.ofNat 0x60, '\t'] || c ∈ (if flow then ['|', '>'] else ['?', ':'])

/-- Reads one token and the marks that it implies; says whether the text is over. -/
def next (fuel : Nat) : Lex Bool := do
  dropStale
  skipToToken fuel
  dropStale
  let cursor := (← get).cursor
  closeBlocks (some cursor.column)
  let flow ← inFlow
  match cursor.rest with
  | [] => do
    finish
    return true
  | c :: rest => do
    let atLineStart := cursor.column = 0
    let alone := endsOr isSeparator rest
    let isStart ← if atLineStart && c = '-' then scan (Scan.isAtMark [documentStartMark])
      else pure false
    let isEnd ← if atLineStart && c = '.' then scan (Scan.isAtMark [documentEndMark])
      else pure false
    if isAmbiguous flow c then scan (Scan.look 1)
    if atLineStart && c = '%' then directive
    else if isStart then documentMark .documentStart
    else if isEnd then documentMark .documentEnd
    else if c = '[' then flowStart .flowSequence
    else if c = '\x7b' then flowStart .flowMapping
    else if c = ']' then flowFinish .flowSequenceEnd
    else if c = '\x7d' then flowFinish .flowMappingEnd
    else if c = ',' then flowItem
    else if c = '-' && alone then blockItem
    else if c = '?' && (flow || alone) then key
    else if c = ':' && (flow || alone) then value
    else if c = '*' then possibleKey (return .reference (← Property.name))
    else if c = '&' then possibleKey (return .anchor (← Property.name))
    else if c = '!' then possibleKey Property.tag
    else if c = '|' && !flow then blockScalar false
    else if c = '>' && !flow then blockScalar true
    else if c = Text.apostrophe then possibleKey (return .scalar (← Quoted.scalar false) false)
    else if c = Text.quotationMark then possibleKey (return .scalar (← Quoted.scalar true) false)
    else if startsPlain flow c rest then plainScalar
    else malformed
    return false

end Lex

namespace Lexer

/-- How many tokens come before the first that may still turn out to be a key. -/
def settled (l : Lexer) : Nat :=
  let open' := l.candidates.filter fun c => !Lex.isStale l.cursor c
  ((open'.map (·.place)).min?).getD l.count

def firstTokens (l : Lexer) (count : Nat) : List Token :=
  (l.tokens.drop (l.count - count)).reverse

def isStopped (l : Lexer) (stop : Stop) : Bool :=
  stop.offset < l.cursor.reach

/-- Reads the tokens from here on. Every token takes a character at least. What fails is met by
whoever asks for a token that was not settled before; of a stop and another fault, the stop comes
first. -/
def readAll (stop : Option Stop) : Nat → Lexer → TokenStream
  | 0, l => ⟨l.firstTokens l.count, none⟩
  | fuel + 1, l =>
    let settled := l.settled
    let (result, l) := (Lex.next l.cursor.size.succ).run.run l
    match stop.filter l.isStopped, result with
    | some stop, _ => ⟨l.firstTokens settled, some stop.fault⟩
    | none, .error e => ⟨l.firstTokens settled, some e⟩
    | none, .ok true => ⟨l.firstTokens l.count, none⟩
    | none, .ok false => readAll stop fuel l

end Lexer

namespace TokenStream

def startOf (text : List Char) : Cursor :=
  let cursor := Cursor.ofText text
  if text.head? = some byteOrderMark then cursor.advance else cursor

def ofSource (source : Source) : TokenStream :=
  Lexer.readAll source.stop (source.text.length + 1) { cursor := startOf source.text }

end TokenStream

end FrameworkForge.Yaml
