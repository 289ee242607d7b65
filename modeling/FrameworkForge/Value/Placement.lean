import FrameworkForge.Value

/-!
The order in which a set of numbers lists its members. Every number has a residue, equal numbers of
different kinds the same one. It gives the member its place in a table, or the first free place of
a sequence, and the places of the table are the order.
-/

namespace FrameworkForge.Value

/-- Modulo this prime number the powers of two repeat after sixty-one steps. -/
def residueModulus : Nat := Nat.pow 2 61 - 1

/-- The residue of `coefficient * 2 ^ exponent` with a sign. Minus one is not a residue. -/
def residueOf (negative : Bool) (coefficient : Nat) (exponent : Int) : Int :=
  let size : Int := coefficient * Nat.pow 2 (exponent % 61).toNat % residueModulus
  let residue := if negative then -size else size
  if residue = -1 then -2 else residue

def infiniteResidue : Int := 314159

def residue? : Value → Option Int
  | bool b => some (if b then 1 else 0)
  | int i => some (residueOf (i < 0) i.natAbs 0)
  | float (.finite negative c e) _ => some (residueOf negative c e)
  | float (.infinite negative) _ => some (if negative then -infiniteResidue else infiniteResidue)
  | _ => none

abbrev Places := Array (Option Value)

namespace Places

/-- A few members need eight places, more of them the least power of two beyond twice their
count. -/
def sizeFor (count : Nat) : Nat :=
  if count < 5 then 8 else Nat.pow 2 ((2 * count).log2 + 1)

/-- How many places behind the first one are looked at, if the table has as many. -/
def neighbours : Nat := 9

def isFree (places : Places) (place : Nat) : Bool :=
  (places[place]?.join).isNone

/-- The first free place from a place on. The sequence of places comes to all of them, once what
is left of the residue is zero. -/
def freePlace (places : Places) : Nat → Nat → Nat → Nat
  | 0, place, _ => place
  | fuel + 1, place, left =>
    let count := if place + neighbours < places.size then neighbours + 1 else 1
    match ((List.range count).map (place + ·)).find? places.isFree with
    | some free => free
    | none => freePlace places fuel ((place * 5 + 1 + left / 32) % places.size) (left / 32)

/-- Puts a member in its place. A residue counts modulo the sixty-fourth power of two. -/
def insert (places : Places) (residue : Int) (member : Value) : Places :=
  let left := (residue % (Nat.pow 2 64 : Nat)).toNat
  places.setIfInBounds (places.freePlace (places.size + 16) (left % places.size) left) (some member)

end Places

/-- The members of a set in its order. Sets that do not hold numbers alone keep theirs. -/
def setOrder (members : List Value) : List Value :=
  match members.mapM residue? with
  | none => members
  | some residues =>
    let empty : Places := Array.replicate (Places.sizeFor members.length) none
    let places := (residues.zip members).foldl (fun places (residue, member) =>
      Places.insert places residue member) empty
    places.toList.filterMap id

end FrameworkForge.Value
