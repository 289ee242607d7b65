import FrameworkForge.Text.Digit

/-!
Whole numbers in a text: blanks around, a sign, and digits of a base between two and sixteen. A
decimal number has a greatest length, in a text that is read and in one that is written.
-/

namespace FrameworkForge

namespace Text

/-- Closed ranges of the code points that are blank: white space of every script, and the
controls that move to another place or line. -/
def blankRanges : List (Nat × Nat) := [
  (0x9, 0xd), (0x20, 0x20), (0x85, 0x85), (0xa0, 0xa0), (0x1680, 0x1680), (0x2000, 0x200a),
  (0x2028, 0x2029), (0x202f, 0x202f), (0x205f, 0x205f), (0x3000, 0x3000)]

def isBlank (c : Char) : Bool :=
  blankRanges.any fun range => range.1 ≤ c.toNat && c.toNat ≤ range.2

def trimBlank (cs : List Char) : List Char :=
  ((cs.dropWhile isBlank).reverse.dropWhile isBlank).reverse

end Text

namespace Number

def greatestLength : Nat := 4300

inductive IntegerFault where
  | notANumber
  | tooLong (digits : Nat)
  deriving DecidableEq, Repr

def isWritable (i : Int) : Bool :=
  i.natAbs < Nat.pow 10 greatestLength

def splitSign : List Char → Bool × List Char
  | '-' :: cs => (true, cs)
  | '+' :: cs => (false, cs)
  | cs => (false, cs)

def signed (negative : Bool) (n : Nat) : Int :=
  if negative then -(n : Int) else n

/-- Digits of base two, eight or sixteen may follow a mark of the base. -/
def dropBaseMark (base : Nat) : List Char → List Char
  | '0' :: c :: cs =>
    if (base = 2 ∧ (c = 'b' ∨ c = 'B')) ∨ (base = 8 ∧ (c = 'o' ∨ c = 'O')) ∨
        (base = 16 ∧ (c = 'x' ∨ c = 'X')) then cs
    else '0' :: c :: cs
  | cs => cs

def isDigitOf (base : Nat) (c : Char) : Bool :=
  (Text.digitValue? base c).isSome

/-- Too many digits are met before anything that may follow them. -/
def readInteger (base : Nat) (cs : List Char) : Except IntegerFault Int :=
  let (negative, body) := splitSign (cs.dropWhile Text.isBlank)
  let body := dropBaseMark base body
  let digits := body.takeWhile (isDigitOf base)
  if base = 10 ∧ greatestLength < digits.length then .error (.tooLong digits.length)
  else if (body.dropWhile (isDigitOf base)).all Text.isBlank then
    match Text.readDigits? base digits with
    | some n => .ok (signed negative n)
    | none => .error .notANumber
  else .error .notANumber

end Number

end FrameworkForge
