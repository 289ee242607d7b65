import FrameworkForge.CommandLine.Form

/-!
From the words behind a command to what the user chose. An option can be shortened as long as no
other starts alike. Words that belong to no option are an error, once all options are read.
-/

namespace FrameworkForge.CommandLine

inductive UsageError where
  | ambiguous (word : String) (candidates : List String)
  | operandMissing (flag : Flag)
  | operandIgnored (flag : Flag) (operand : String)
  | unrecognized (words : List String)
  deriving DecidableEq, Repr

namespace UsageError

def message : UsageError → String
  | ambiguous word candidates =>
    s!"ambiguous option: {word} could match {Error.commas candidates}"
  | operandMissing flag => s!"argument {flag.title}: expected one argument"
  | operandIgnored flag operand =>
    s!"argument {flag.title}: ignored explicit argument {Text.quoted operand}"
  | unrecognized words => "unrecognized arguments: " ++ " ".intercalate words

end UsageError

/-- An operand is a text, or nothing where the mark that ends the options was attached. -/
abbrev Operand := Option String

structure Choices where
  config : Option Operand := none
  projectRoot : Option Operand := none
  start : Option Operand := none
  stop : Option Operand := none
  dryRun : Bool := false
  deriving DecidableEq, Repr

namespace Choices

def withOperand (c : Choices) (flag : Flag) (operand : Operand) : Choices :=
  match flag with
  | .config => { c with config := some operand }
  | .projectRoot => { c with projectRoot := some operand }
  | .start => { c with start := some operand }
  | .stop => { c with stop := some operand }
  | .help | .dryRun => c

end Choices

/-- A word by its role. An option carries the label that it was found under and the operand that
is attached to it. -/
inductive Word where
  | plain (text : String)
  | option (flag : Flag) (label : String) (attached : Option String)
  | unknown (text : String)
  | separator
  | afterSeparator (text : String)
  deriving DecidableEq, Repr

namespace Word

def separatorText : String := "--"

/-- Digits behind a minus, with a point in front of digits, are no option. A line feed at the end
does not count. -/
def looksNegative (cs : List Char) : Bool :=
  let cs := if cs.getLast? = some '\n' then cs.dropLast else cs
  match cs with
  | '-' :: digits =>
    match digits.dropWhile Text.isDecimal with
    | [] => !digits.isEmpty
    | '.' :: fraction => !fraction.isEmpty && fraction.all Text.isDecimal
    | _ => false
  | _ => false

def splitAttached (text : String) : String × Option String :=
  let cs := text.toList
  match cs.dropWhile (· ≠ '=') with
  | _ :: attached => (String.ofList (cs.takeWhile (· ≠ '=')), some (String.ofList attached))
  | [] => (text, none)

def longCandidates (c : Command) (text : String) : List Word :=
  let (label, attached) := splitAttached text
  (c.labels.filter fun entry => entry.1.startsWith label).map fun entry =>
    .option entry.2 entry.1 attached

/-- The options that a word with one dash can stand for: the first letter is the option, and the
others are attached to it. -/
def shortCandidates (c : Command) (text : String) : List Word :=
  let cs := text.toList
  (c.labels.filter fun entry => entry.1 = String.ofList (cs.take 2)).map fun entry =>
    .option entry.2 entry.1 (some (String.ofList (cs.drop 2)))

def candidates (c : Command) (text : String) : List Word :=
  if text.startsWith separatorText then longCandidates c text else shortCandidates c text

def label : Word → String
  | option _ label _ => label
  | plain text | unknown text | afterSeparator text => text
  | separator => separatorText

def inFull? (c : Command) (text : String) : Option Word :=
  match c.ofLabel? text with
  | some flag => some (.option flag text none)
  | none =>
    match splitAttached text with
    | (label, some attached) =>
      (c.ofLabel? label).map fun flag => .option flag label (some attached)
    | (_, none) => none

def classify (c : Command) (text : String) : Except UsageError Word :=
  if !text.startsWith "-" || text = "-" then .ok (.plain text)
  else match inFull? c text with
    | some word => .ok word
    | none =>
      match candidates c text with
      | [word] => .ok word
      | [] =>
        if looksNegative text.toList || ' ' ∈ text.toList then .ok (.plain text)
        else .ok (.unknown text)
      | words => .error (.ambiguous text (words.map label))

def classifyAll (c : Command) : List String → Except UsageError (List Word)
  | [] => .ok []
  | text :: texts =>
    if text = separatorText then .ok (.separator :: texts.map .afterSeparator)
    else do
      let word ← classify c text
      return word :: (← classifyAll c texts)

end Word

inductive Request where
  | help
  | run (choices : Choices)
  deriving DecidableEq, Repr

namespace Request

/-- The operand of an option that is attached to it. The separator alone leaves nothing. -/
def operandOf (attached : String) : Operand :=
  if attached = Word.separatorText then none else some attached

def askedAgain : List Char → Except UsageError Request
  | [] => .ok .help
  | 'h' :: letters => askedAgain letters
  | letters => .error (.operandIgnored .help (String.ofList letters))

/-- The words in order. `extra` are those so far that belong to no option. -/
def ofWords (choices : Choices) (extra : List String) : List Word → Except UsageError Request
  | [] => if extra = [] then .ok (.run choices) else .error (.unrecognized extra)
  | .option .help label (some attached) :: _ =>
    if label = "-h" ∧ attached ≠ "" then askedAgain attached.toList
    else .error (.operandIgnored .help attached)
  | .option .help _ none :: _ => .ok .help
  | .option .dryRun _ (some attached) :: _ => .error (.operandIgnored .dryRun attached)
  | .option .dryRun _ none :: words => ofWords { choices with dryRun := true } extra words
  | .option flag _ (some attached) :: words =>
    ofWords (choices.withOperand flag (operandOf attached)) extra words
  | .option flag _ none :: .plain text :: words =>
    ofWords (choices.withOperand flag (some text)) extra words
  | .option flag _ none :: _ => .error (.operandMissing flag)
  | word :: words => ofWords choices (extra ++ [word.label]) words

def read (c : Command) (texts : List String) : Except UsageError Request := do
  ofWords {} [] (← Word.classifyAll c texts)

end Request

end FrameworkForge.CommandLine
