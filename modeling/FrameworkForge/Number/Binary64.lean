/-!
Binary floating point numbers with a coefficient of 53 bits, as exact values. Rounding is to the
nearest such number, and to the even coefficient from half way.
-/

namespace FrameworkForge.Number

/-- A finite number is `coefficient * 2 ^ exponent`. The values built here are canonical: the
coefficient is below `2 ^ 53`, and it is at least `2 ^ 52` unless the exponent is the least one. -/
inductive Binary64 where
  | finite (negative : Bool) (coefficient : Nat) (exponent : Int)
  | infinite (negative : Bool)
  | notANumber
  deriving DecidableEq, Repr

namespace Binary64

def leastExponent : Int := -1074

def greatestExponent : Int := 971

def zero (negative : Bool) : Binary64 :=
  .finite negative 0 leastExponent

def scaled (num den : Nat) (exponent : Int) : Nat × Nat :=
  (num * Nat.pow 2 (-exponent).toNat, den * Nat.pow 2 exponent.toNat)

/-- The whole number nearest to `num / den`; half way goes to the even one. -/
def roundQuotient (num den : Nat) : Nat :=
  let whole := num / den
  let rest := num % den
  if den < 2 * rest ∨ (den = 2 * rest ∧ whole % 2 = 1) then whole + 1 else whole

/-- The exponent for which `num / den / 2 ^ exponent` has 53 bits before the point, or the least
exponent for numbers that are too small for that. -/
def exponentFor (num den : Nat) : Int :=
  let guess : Int := (num.log2 : Int) - den.log2 - 52
  let (n, d) := scaled num den guess
  max leastExponent (if n / d < Nat.pow 2 52 then guess - 1 else guess)

def ofRatio (negative : Bool) (num den : Nat) : Binary64 :=
  if num = 0 then zero negative
  else
    let exponent := exponentFor num den
    let (n, d) := scaled num den exponent
    let coefficient := roundQuotient n d
    let (coefficient, exponent) :=
      if coefficient = Nat.pow 2 53 then (Nat.pow 2 52, exponent + 1) else (coefficient, exponent)
    if greatestExponent < exponent then .infinite negative
    else .finite negative coefficient exponent

/-- The number nearest to `digits * 10 ^ exponent`. Far outside the range of finite numbers the
power is not computed. -/
def ofDecimal (negative : Bool) (digits : Nat) (exponent : Int) : Binary64 :=
  if digits = 0 then zero negative
  else if 400 < exponent then .infinite negative
  else if exponent + digits.log2 < -400 then zero negative
  else ofRatio negative (digits * Nat.pow 10 exponent.toNat) (Nat.pow 10 (-exponent).toNat)

/-- The number nearest to `significand * 2 ^ exponent`. A result of zero has the given sign. -/
def ofDyadic (zeroNegative : Bool) (significand : Int) (exponent : Int) : Binary64 :=
  if significand = 0 then zero zeroNegative
  else
    ofRatio (significand < 0) (significand.natAbs * Nat.pow 2 exponent.toNat)
      (Nat.pow 2 (-exponent).toNat)

def ofInt (i : Int) : Binary64 :=
  ofDyadic false i 0

def negate : Binary64 → Binary64
  | finite negative c e => .finite (!negative) c e
  | infinite negative => .infinite (!negative)
  | notANumber => .notANumber

def isZero : Binary64 → Bool
  | finite _ c _ => c = 0
  | _ => false

def signedCoefficient (negative : Bool) (c : Nat) : Int :=
  if negative then -(c : Int) else c

def mul : Binary64 → Binary64 → Binary64
  | finite s c e, finite s' c' e' =>
    ofDyadic (s != s') (signedCoefficient (s != s') (c * c')) (e + e')
  | finite s c _, infinite s' => if c = 0 then .notANumber else .infinite (s != s')
  | infinite s, finite s' c _ => if c = 0 then .notANumber else .infinite (s != s')
  | infinite s, infinite s' => .infinite (s != s')
  | _, _ => .notANumber

def add : Binary64 → Binary64 → Binary64
  | finite s c e, finite s' c' e' =>
    let low := min e e'
    let aligned (s : Bool) (c : Nat) (e : Int) := signedCoefficient s (c * Nat.pow 2 (e - low).toNat)
    ofDyadic (s && s') (aligned s c e + aligned s' c' e') low
  | finite .., infinite s => .infinite s
  | infinite s, finite .. => .infinite s
  | infinite s, infinite s' => if s = s' then .infinite s else .notANumber
  | _, _ => .notANumber

def toInt? : Binary64 → Option Int
  | finite negative c e =>
    let unit := Nat.pow 2 (-e).toNat
    if c % unit = 0 then some (signedCoefficient negative (c * Nat.pow 2 e.toNat / unit)) else none
  | _ => none

def wholePart : Binary64 → Nat
  | finite _ c e => c * Nat.pow 2 e.toNat / Nat.pow 2 (-e).toNat
  | _ => 0

/-- Equality of numbers: the two zeros are equal, and nothing equals what is not a number. -/
def sameNumber (x y : Binary64) : Bool :=
  match x, y with
  | notANumber, _ => false
  | finite _ 0 _, finite _ 0 _ => true
  | _, _ => x = y

end Binary64

end FrameworkForge.Number
