/-
Instants: a calendar date and a time of day in UTC, to the nanosecond. Dates follow the Gregorian
calendar without end, within the years that the format can carry. A leap second is the second 59
with a nanosecond count past the full second.
-/
namespace Dialogue

/-- Whether the year has a 29th of February. -/
def isLeapYear (year : Int) : Bool :=
  year % 4 == 0 && (year % 100 != 0 || year % 400 == 0)

/-- The number of days of a month. -/
def daysInMonth (year : Int) (month : Nat) : Nat :=
  match month with
  | 2 => if isLeapYear year then 29 else 28
  | 4 | 6 | 9 | 11 => 30
  | _ => 31

/-- The least year of a date. -/
def leastYear : Int := -262143

/-- The greatest year of a date. -/
def greatestYear : Int := 262142

/-- A day of the calendar. -/
@[ext] structure Date where
  year : Int
  month : Nat
  day : Nat
  year_mem : leastYear ≤ year ∧ year ≤ greatestYear := by decide
  month_mem : 1 ≤ month ∧ month ≤ 12 := by decide
  day_mem : 1 ≤ day ∧ day ≤ daysInMonth year month := by decide
deriving DecidableEq, Repr

namespace Date

/-- The date with these parts, if there is one. -/
def ofParts? (year : Int) (month day : Nat) : Option Date :=
  if hy : leastYear ≤ year ∧ year ≤ greatestYear then
    if hm : 1 ≤ month ∧ month ≤ 12 then
      if hd : 1 ≤ day ∧ day ≤ daysInMonth year month then
        some { year, month, day, year_mem := hy, month_mem := hm, day_mem := hd }
      else none
    else none
  else none

/-- The day before. -/
def previous? (d : Date) : Option Date :=
  if 1 < d.day then ofParts? d.year d.month (d.day - 1)
  else if 1 < d.month then ofParts? d.year (d.month - 1) (daysInMonth d.year (d.month - 1))
  else ofParts? (d.year - 1) 12 31

/-- The day after. -/
def next? (d : Date) : Option Date :=
  if d.day < daysInMonth d.year d.month then ofParts? d.year d.month (d.day + 1)
  else if d.month < 12 then ofParts? d.year (d.month + 1) 1
  else ofParts? (d.year + 1) 1 1

/-- The day that comes that many days later. -/
def later? (d : Date) : Nat → Option Date
  | 0 => some d
  | n + 1 =>
    match d.next? with
    | some d => later? d n
    | none => none

/-- The first day of the epoch. -/
def epoch : Date where
  year := 1970
  month := 1
  day := 1

end Date

/-- The number of nanoseconds in a second. -/
def nanosPerSecond : Nat := 1000000000

/-- A moment in UTC. -/
@[ext] structure Instant where
  date : Date
  hour : Nat
  minute : Nat
  second : Nat
  nano : Nat
  hour_lt : hour < 24 := by decide
  minute_lt : minute < 60 := by decide
  second_lt : second < 60 := by decide
  nano_lt : nano < nanosPerSecond ∨ (second = 59 ∧ nano < 2 * nanosPerSecond) := by decide
deriving DecidableEq, Repr

namespace Instant

/-- The moment from which computers count. -/
def epoch : Instant where
  date := Date.epoch
  hour := 0
  minute := 0
  second := 0
  nano := 0

/-- The moment with these parts, if there is one. -/
def ofParts? (date : Date) (hour minute second nano : Nat) : Option Instant :=
  if hh : hour < 24 then
    if hm : minute < 60 then
      if hs : second < 60 then
        if hn : nano < nanosPerSecond ∨ (second = 59 ∧ nano < 2 * nanosPerSecond) then
          some { date, hour, minute, second, nano, hour_lt := hh, minute_lt := hm,
                 second_lt := hs, nano_lt := hn }
        else none
      else none
    else none
  else none

/-- The UTC moment of a wall-clock time that is `offset` minutes ahead of UTC, by less than a day.
`none` if it falls outside the range of dates. -/
def ofLocal? (date : Date) (hour minute second nano : Nat) (offset : Int) : Option Instant := do
  let total : Int := hour * 60 + minute - offset
  let day ←
    if total < 0 then date.previous?
    else if 1440 ≤ total then date.next?
    else some date
  let minutes := (total % 1440).toNat
  ofParts? day (minutes / 60) (minutes % 60) second nano

/-- The moment that comes that many seconds after the epoch. -/
def ofSeconds? (seconds nano : Nat) : Option Instant := do
  let date ← Date.epoch.later? (seconds / 86400)
  ofParts? date (seconds / 3600 % 24) (seconds / 60 % 60) (seconds % 60) nano

end Instant

end Dialogue
