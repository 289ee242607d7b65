import FrameworkForge.Number.Binary64
import FrameworkForge.Number.Integer

/-!
Binary floating point numbers as decimal text. A number is written with the fewest digits that
read back as the same number, and read by rounding the exact value of its text.
-/

namespace FrameworkForge.Number

structure Decimal where
  digits : Nat
  exponent : Int
  deriving DecidableEq, Repr

namespace Decimal

def reaches (num den : Nat) (k : Int) : Bool :=
  den * Nat.pow 10 k.toNat ≤ num * Nat.pow 10 (-k).toNat

/-- The greatest `k` with `10 ^ k ≤ coefficient * 2 ^ exponent`. The binary logarithm gives it up
to one. -/
def leadingPower (coefficient : Nat) (exponent : Int) : Int :=
  let num := coefficient * Nat.pow 2 exponent.toNat
  let den := Nat.pow 2 (-exponent).toNat
  let guess := ((coefficient.log2 : Int) + exponent) * 30103 / 100000
  if reaches num den (guess + 1) then guess + 1
  else if reaches num den guess then guess
  else guess - 1

/-- The neighbours of the number on the grid of multiples of `10 ^ grid` that read back as it; of
two, the nearer one, and the even one from half way. -/
def onGrid? (coefficient : Nat) (exponent grid : Int) : Option Decimal :=
  let num := coefficient * Nat.pow 2 exponent.toNat * Nat.pow 10 (-grid).toNat
  let den := Nat.pow 2 (-exponent).toNat * Nat.pow 10 grid.toNat
  let below : Decimal := ⟨num / den, grid⟩
  let above : Decimal := ⟨num / den + 1, grid⟩
  let readsBack (d : Decimal) : Bool :=
    Binary64.ofDecimal false d.digits d.exponent = .finite false coefficient exponent
  match readsBack below, readsBack above with
  | true, true => some ⟨Binary64.roundQuotient num den, grid⟩
  | true, false => some below
  | false, true => some above
  | false, false => none

/-- The decimal with the fewest digits that reads back as `coefficient * 2 ^ exponent`. Seventeen
digits always do. -/
def shortest (coefficient : Nat) (exponent : Int) : Decimal :=
  let top := leadingPower coefficient exponent
  ((List.range 17).findSome? fun (n : Nat) => onGrid? coefficient exponent (top - n)).getD
    ⟨coefficient, exponent⟩

def dropTrailingZeros (digits : List Char) : List Char :=
  (digits.reverse.dropWhile (· = '0')).reverse

def firstPositional : Int := -4

def lastPositional : Int := 15

def padded (width : Nat) (digits : List Char) : List Char :=
  List.replicate (width - digits.length) '0' ++ digits

def exponentText (power : Int) : List Char :=
  'e' :: (if power < 0 then '-' else '+') :: padded 2 (Nat.toDigits 10 power.natAbs)

/-- A number whose digits start at the power of ten `power`. There is a digit on either side of
the point, and no point when an exponent follows a single digit. -/
def layout (power : Int) (digits : List Char) : List Char :=
  if power < firstPositional ∨ lastPositional < power then
    match digits with
    | [] => []
    | [d] => d :: exponentText power
    | d :: ds => d :: '.' :: ds ++ exponentText power
  else if power < 0 then
    '0' :: '.' :: List.replicate (-power - 1).toNat '0' ++ digits
  else
    let whole := power.toNat + 1
    let fraction := digits.drop whole
    digits.take whole ++ List.replicate (whole - digits.length) '0' ++
      '.' :: (if fraction = [] then ['0'] else fraction)

def chars (d : Decimal) : List Char :=
  let digits := Nat.toDigits 10 d.digits
  layout (d.exponent + digits.length - 1) (dropTrailingZeros digits)

end Decimal

namespace Binary64

def signChars (negative : Bool) : List Char :=
  if negative then ['-'] else []

def text : Binary64 → String
  | finite negative 0 _ => String.ofList (signChars negative ++ "0.0".toList)
  | finite negative c e => String.ofList (signChars negative ++ (Decimal.shortest c e).chars)
  | infinite negative => String.ofList (signChars negative ++ "inf".toList)
  | notANumber => "nan"

def readExponent? (cs : List Char) : Option Int :=
  let (negative, digits) := splitSign cs
  (Text.readDigits? 10 digits).map (signed negative)

/-- Reads digits with an optional point, which has a digit on one side at least, and an optional
exponent. -/
def readMagnitude? (negative : Bool) (cs : List Char) : Option Binary64 := do
  let whole := cs.takeWhile Text.isDecimal
  let rest := cs.dropWhile Text.isDecimal
  let (fraction, rest) :=
    match rest with
    | '.' :: rest => (rest.takeWhile Text.isDecimal, rest.dropWhile Text.isDecimal)
    | rest => ([], rest)
  let digits ← Text.readDigits? 10 (whole ++ fraction)
  let exponent ←
    match rest with
    | [] => some 0
    | c :: cs => if c = 'e' ∨ c = 'E' then readExponent? cs else none
  return ofDecimal negative digits (exponent - fraction.length)

/-- Reads a decimal number, an infinity or the word for what is not a number, in letters of
either case and with blanks around. -/
def read? (cs : List Char) : Option Binary64 :=
  let (negative, body) := splitSign (Text.trimBlank cs)
  match String.ofList (body.map Char.toLower) with
  | "inf" | "infinity" => some (.infinite negative)
  | "nan" => some .notANumber
  | _ => readMagnitude? negative body

end Binary64

end FrameworkForge.Number
