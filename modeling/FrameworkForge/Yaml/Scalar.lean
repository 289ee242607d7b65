import FrameworkForge.Text.Lower
import FrameworkForge.Value
import FrameworkForge.Yaml.Fault
import FrameworkForge.Yaml.Tag

/-!
From the text of a scalar to its value. A text need not fit the type that its tag names; each type
refuses in its own way.
-/

namespace FrameworkForge.Yaml.Scalar

open Text (Letter)

def withoutUnderscores (letters : List Letter) : List Letter :=
  letters.filter (· ≠ .char '_')

def colon : Letter :=
  .char ':'

/-- The number whose digits to base sixty are given, the last digit being the least. -/
def ofSixtieths (parts : List Int) : Int :=
  parts.foldl (fun value part => value * 60 + part) 0

/-- A number without its sign: with a mark of its base, to base eight after a zero, to base sixty
with colons, or decimal. -/
def magnitude (letters : List Letter) : Except Fault Int :=
  match letters with
  | [] => .error .numberEmpty
  | [.char '0'] => .ok 0
  | .char '0' :: .char 'b' :: digits => readInteger 2 digits
  | .char '0' :: .char 'x' :: digits => readInteger 16 digits
  | .char '0' :: _ => readInteger 8 letters
  | _ =>
    if colon ∈ letters then
      ((Text.splitAt colon letters).mapM (readInteger 10)).map ofSixtieths
    else readInteger 10 letters

def int (letters : List Letter) : Except Fault Value :=
  match withoutUnderscores letters with
  | [] => .error .numberEmpty
  | .char '-' :: digits => (magnitude digits).map fun i => .int (-i)
  | .char '+' :: digits => (magnitude digits).map .int
  | digits => (magnitude digits).map .int

def readFloat (letters : List Letter) : Except Fault Number.Binary64 :=
  match Number.Binary64.read? (letters.map Letter.toChar) with
  | some x => .ok x
  | none => .error (.floatText (String.ofList (Text.quotedLetters letters)))

/-- The sum of parts to base sixty, from the last part up. A power of sixty that is no number any
more is an error. -/
def sumSixtieths (sum : Number.Binary64) (power : Nat) :
    List Number.Binary64 → Except Fault Number.Binary64
  | [] => .ok sum
  | x :: xs =>
    match Number.Binary64.ofInt power with
    | .infinite _ => .error .numberTooLarge
    | unit => sumSixtieths (sum.add (x.mul unit)) (power * 60) xs

def floatMagnitude (letters : List Letter) : Except Fault Number.Binary64 :=
  if colon ∈ letters then do
    let parts ← (Text.splitAt colon letters).mapM readFloat
    sumSixtieths (.zero false) 1 parts.reverse
  else readFloat letters

/-- The identity of the number that the word for what is not a number stands for everywhere. -/
def commonIdentity : Nat := 0

def unsignedFloat (identity : Nat) (negative : Bool) (letters : List Letter) :
    Except Fault Value :=
  if letters = Letter.ofString ".inf" then .ok (.float (.infinite negative) (some identity))
  else if letters = Letter.ofString ".nan" then .ok (.float .notANumber (some commonIdentity))
  else
    (floatMagnitude letters).map fun x =>
      .float (if negative then x.negate else x) (some identity)

def float (identity : Nat) (letters : List Letter) : Except Fault Value :=
  match Text.lower (withoutUnderscores letters) with
  | [] => .error .numberEmpty
  | .char '-' :: digits => unsignedFloat identity true digits
  | .char '+' :: digits => unsignedFloat identity false digits
  | digits => unsignedFloat identity false digits

def trueWords : List String :=
  ["yes", "true", "on"]

def falseWords : List String :=
  ["no", "false", "off"]

def bool (letters : List Letter) : Except Fault Value :=
  match Letter.string? (Text.lower letters) with
  | none => .error .booleanText
  | some word =>
    if word ∈ trueWords then .ok (.bool true)
    else if word ∈ falseWords then .ok (.bool false)
    else .error .booleanText

def timestamp (cs : List Char) : Except Fault Value :=
  match Timestamp.read? (Tag.dropFinalBreak cs) with
  | none => .error .timestampText
  | some t =>
    match t.value with
    | .ok value => .ok value
    | .error fault => .error (.calendar fault)

def sixBits? (c : Char) : Option Nat :=
  if 'A' ≤ c ∧ c ≤ 'Z' then some (c.toNat - 0x41)
  else if 'a' ≤ c ∧ c ≤ 'z' then some (c.toNat - 0x61 + 26)
  else if '0' ≤ c ∧ c ≤ '9' then some (c.toNat - 0x30 + 52)
  else if c = '+' then some 62
  else if c = '/' then some 63
  else none

/-- Decodes digits to base sixty-four, of which four make three bytes. `held` are the digits of
the open group and `pads` the equals signs behind them; other characters do not count. A group of
two digits or three has to be filled up with equals signs. -/
def bytes? (held : List Nat) (pads : Nat) : List Char → Option (List UInt8)
  | [] => if held = [] then some [] else none
  | c :: cs =>
    if c = '=' then
      if 2 ≤ held.length ∧ 4 ≤ held.length + pads + 1 then some []
      else bytes? held (if 2 ≤ held.length then pads + 1 else pads) cs
    else match sixBits? c, held with
      | none, _ => bytes? held pads cs
      | some d, [] => bytes? [d] 0 cs
      | some d, [a] => (bytes? [a, d] 0 cs).map (UInt8.ofNat (a * 4 + d / 16) :: ·)
      | some d, [a, b] => (bytes? [a, b, d] 0 cs).map (UInt8.ofNat (b * 16 + d / 4) :: ·)
      | some d, _ :: _ :: x :: _ => (bytes? [] 0 cs).map (UInt8.ofNat (x * 64 + d) :: ·)

def binary (cs : List Char) : Except Fault Value :=
  match if cs.all fun c => c.toNat < 0x80 then bytes? [] 0 cs else none with
  | some bs => .ok (.bytes bs)
  | none => .error .malformed

/-- Reads the text of a scalar of the type that a tag names, if it names one. Numbers take the
given identity. -/
def reader? (identity : Nat) (tag : Tag) : Option (List Letter → Except Fault Value) :=
  match tag with
  | .null => some fun _ => .ok .null
  | .bool => some bool
  | .int => some int
  | .float => some (float identity)
  | .binary => some fun letters => binary (letters.map Letter.toChar)
  | .timestamp => some fun letters => timestamp (letters.map Letter.toChar)
  | .text => some fun letters => .ok (.ofLetters letters)
  | _ => none

end FrameworkForge.Yaml.Scalar
