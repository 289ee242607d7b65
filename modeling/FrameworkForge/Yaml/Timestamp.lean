import FrameworkForge.Value

/-!
Days and moments as a document writes them: numbers for the day, and behind it, if at all, the time
of day with a fraction and a zone.
-/

namespace FrameworkForge.Yaml

structure ZoneText where
  negative : Bool := false
  hours : Nat := 0
  minutes : Nat := 0

structure ClockText where
  hour : Nat
  minute : Nat
  second : Nat
  fraction : List Char
  zone : Option ZoneText

structure Timestamp where
  year : Nat
  month : Nat
  day : Nat
  clock : Option ClockText

namespace Timestamp

abbrev Parts := StateT (List Char) Option

def number (least most : Nat) : Parts Nat := do
  let cs ← get
  let digits := (cs.take most).takeWhile Char.isDigit
  guard (least ≤ digits.length)
  set (cs.drop digits.length)
  Text.readDigits? 10 digits

def char (c : Char) : Parts Unit := do
  let cs ← get
  guard (cs.head? = some c)
  set (cs.drop 1)

def isBlank (c : Char) : Bool :=
  c = ' ' || c = '\t'

/-- What stands between the day and the time: a letter, or blanks. -/
def dayEnd : Parts Unit := do
  let cs ← get
  if cs.head? = some 'T' ∨ cs.head? = some 't' then set (cs.drop 1)
  else
    guard (cs.head?.any isBlank)
    set (cs.dropWhile isBlank)

def readFraction : Parts (List Char) := do
  match ← get with
  | '.' :: cs => do
    set (cs.dropWhile Char.isDigit)
    return cs.takeWhile Char.isDigit
  | _ => return []

def readOffset (negative : Bool) : Parts ZoneText := do
  let hours ← number 1 2
  if (← get) = [] then return { negative, hours }
  else
    char ':'
    let minutes ← number 2 2
    return { negative, hours, minutes }

def readZone : Parts (Option ZoneText) := do
  if (← get) = [] then return none
  match (← get).dropWhile isBlank with
  | 'Z' :: cs => do
    set cs
    return some {}
  | '+' :: cs => do
    set cs
    return some (← readOffset false)
  | '-' :: cs => do
    set cs
    return some (← readOffset true)
  | _ => failure

def readClock : Parts ClockText := do
  let hour ← number 1 2
  char ':'
  let minute ← number 2 2
  char ':'
  let second ← number 2 2
  let fraction ← readFraction
  let zone ← readZone
  return ⟨hour, minute, second, fraction, zone⟩

def readParts : Parts Timestamp := do
  let year ← number 4 4
  char '-'
  let month ← number 1 2
  char '-'
  let day ← number 1 2
  if (← get) = [] then return ⟨year, month, day, none⟩
  else
    dayEnd
    let clock ← readClock
    guard ((← get) = [])
    return ⟨year, month, day, some clock⟩

def read? (cs : List Char) : Option Timestamp :=
  (readParts.run cs).map Prod.fst

def microseconds (fraction : List Char) : Nat :=
  (Text.readDigits? 10 ((fraction ++ List.replicate 6 '0').take 6)).getD 0

end Timestamp

namespace ZoneText

def seconds (z : ZoneText) : Int :=
  let size : Int := z.hours * 3600 + z.minutes * 60
  if z.negative then -size else size

def build : Option ZoneText → Except CalendarFault Zone
  | none => .ok .unknown
  | some z => Zone.build z.seconds

end ZoneText

namespace Timestamp

def value (t : Timestamp) : Except CalendarFault Value :=
  match t.clock with
  | none => do
    return .date (← Date.build t.year t.month t.day)
  | some c => do
    let zone ← ZoneText.build c.zone
    let moment ← Moment.build t.year t.month t.day c.hour c.minute c.second
      (microseconds c.fraction) zone
    return .moment moment

end Timestamp

end FrameworkForge.Yaml
