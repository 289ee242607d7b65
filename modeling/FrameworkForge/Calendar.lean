/-!
Days of the Gregorian calendar and moments of a day, with or without an offset from universal
time. The builders refuse parts that are out of range and say which.
-/

namespace FrameworkForge

inductive CalendarFault where
  | year (year : Nat)
  | month
  | day
  | hour
  | minute
  | second
  | offset (seconds : Int)
  deriving DecidableEq, Repr

structure Date where
  year : Nat
  month : Nat
  day : Nat
  deriving DecidableEq, Repr

/-- Where a moment lies: at no known place, or at an offset in seconds from universal time. -/
inductive Zone where
  | unknown
  | offset (seconds : Int)
  deriving DecidableEq, Repr

structure Moment where
  date : Date
  hour : Nat
  minute : Nat
  second : Nat
  microsecond : Nat
  zone : Zone
  deriving DecidableEq, Repr

namespace Calendar

def isLeap (year : Nat) : Bool :=
  year % 4 = 0 && (year % 100 ≠ 0 || year % 400 = 0)

def daysIn (year month : Nat) : Nat :=
  if month = 2 then (if isLeap year then 29 else 28)
  else if month = 4 ∨ month = 6 ∨ month = 9 ∨ month = 11 then 30
  else 31

def secondsPerDay : Nat := 86400

def padded (width n : Nat) : String :=
  let digits := Nat.repr n
  "".pushn '0' (width - digits.length) ++ digits

def durationText (seconds : Int) : String :=
  let days := Int.fdiv seconds secondsPerDay
  let rest := Int.fmod seconds secondsPerDay
  let parts := (if days = 0 then [] else [s!"days={days}"]) ++
    (if rest = 0 then [] else [s!"seconds={rest}"])
  "datetime.timedelta(" ++ (if parts = [] then "0" else ", ".intercalate parts) ++ ")"

end Calendar

namespace CalendarFault

def message : CalendarFault → String
  | year y => s!"year {y} is out of range"
  | month => "month must be in 1..12"
  | day => "day is out of range for month"
  | hour => "hour must be in 0..23"
  | minute => "minute must be in 0..59"
  | second => "second must be in 0..59"
  | offset seconds =>
    "offset must be a timedelta strictly between -timedelta(hours=24) and timedelta(hours=24), not "
      ++ Calendar.durationText seconds ++ "."

end CalendarFault

namespace Date

def build (year month day : Nat) : Except CalendarFault Date :=
  if year < 1 ∨ 9999 < year then .error (.year year)
  else if month < 1 ∨ 12 < month then .error .month
  else if day < 1 ∨ Calendar.daysIn year month < day then .error .day
  else .ok ⟨year, month, day⟩

def text (d : Date) : String :=
  s!"{Calendar.padded 4 d.year}-{Calendar.padded 2 d.month}-{Calendar.padded 2 d.day}"

def quoted (d : Date) : String :=
  s!"datetime.date({d.year}, {d.month}, {d.day})"

def ordinal (d : Date) : Nat :=
  let years := d.year - 1
  let months := (List.range (d.month - 1)).map fun m => Calendar.daysIn d.year (m + 1)
  years * 365 + years / 4 - years / 100 + years / 400 + months.foldl (· + ·) 0 + d.day

end Date

namespace Zone

def build (seconds : Int) : Except CalendarFault Zone :=
  if seconds.natAbs < Calendar.secondsPerDay then .ok (.offset seconds)
  else .error (.offset seconds)

def text : Zone → String
  | unknown => ""
  | offset seconds =>
    let minutes := seconds.natAbs / 60
    let sign := if seconds < 0 then "-" else "+"
    s!"{sign}{Calendar.padded 2 (minutes / 60)}:{Calendar.padded 2 (minutes % 60)}"

def quoted : Zone → String
  | unknown => ""
  | offset seconds =>
    if seconds = 0 then "datetime.timezone.utc"
    else s!"datetime.timezone({Calendar.durationText seconds})"

end Zone

namespace Moment

/-- Microseconds since the start of the day zero, by the clock of the moment. -/
def localTime (m : Moment) : Int :=
  let seconds := m.date.ordinal * Calendar.secondsPerDay + m.hour * 3600 + m.minute * 60 + m.second
  seconds * 1000000 + m.microsecond

/-- Whether two moments are one point in time. Without a known place a moment equals no moment at
a known one. -/
def sameTime (m n : Moment) : Bool :=
  match m.zone, n.zone with
  | .offset s, .offset t => m.localTime - s * 1000000 = n.localTime - t * 1000000
  | .unknown, .unknown => m = n
  | _, _ => false

def build (year month day hour minute second microsecond : Nat) (zone : Zone) :
    Except CalendarFault Moment := do
  let date ← Date.build year month day
  if 23 < hour then .error .hour
  else if 59 < minute then .error .minute
  else if 59 < second then .error .second
  else return ⟨date, hour, minute, second, microsecond, zone⟩

def text (m : Moment) : String :=
  let clock := ":".intercalate ([m.hour, m.minute, m.second].map (Calendar.padded 2))
  let fraction := if m.microsecond = 0 then "" else "." ++ Calendar.padded 6 m.microsecond
  m.date.text ++ " " ++ clock ++ fraction ++ m.zone.text

def quoted (m : Moment) : String :=
  let fine :=
    if m.microsecond ≠ 0 then [m.second, m.microsecond]
    else if m.second ≠ 0 then [m.second] else []
  let parts := [m.date.year, m.date.month, m.date.day, m.hour, m.minute] ++ fine
  let zone :=
    match m.zone with
    | .unknown => []
    | zone => ["tzinfo=" ++ zone.quoted]
  "datetime.datetime(" ++ ", ".intercalate (parts.map Nat.repr ++ zone) ++ ")"

end Moment

end FrameworkForge
