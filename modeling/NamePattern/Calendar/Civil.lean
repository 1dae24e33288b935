import NamePattern.Number.Binary64

/-!
Instants and civil dates: the proleptic Gregorian calendar in universal time. An instant counts
milliseconds from the start of 1970 and lies within a hundred million days of it.
-/

namespace NamePattern

/-- The most milliseconds that an instant may be away from the start of 1970. -/
def instantLimit : Int := 8640000000000000

/-- A point in time in milliseconds from the start of 1970. -/
structure Instant where
  millis : Int
  deriving DecidableEq

/-- The instant of a number of milliseconds, cut toward zero; out of range there is none. -/
def Instant.ofMillis? : Binary64 → Option Instant
  | .finite q =>
    if q.abs ≤ (instantLimit : Rat) then some ⟨Int.tdiv q.num q.den⟩ else none
  | _ => none

/-- A date and time of day. The year 0 comes before the year 1. -/
structure Civil where
  year : Int
  month : Nat
  day : Nat
  hour : Nat
  minute : Nat
  second : Nat
  milli : Nat
  /-- Days since Sunday. -/
  weekday : Nat

namespace Civil

/-- Milliseconds of a day. -/
def dayMillis : Int := 86400000

/-- Days of four hundred years. -/
def eraDays : Int := 146097

/-- Days from 1 March of the year 0 to the start of 1970. -/
def epochDays : Int := 719468

/-- The civil date of an instant. Years are counted from 1 March, so that a leap day ends its year. -/
def ofInstant (i : Instant) : Civil :=
  let days := i.millis.fdiv dayMillis
  let rest := (i.millis.fmod dayMillis).toNat
  let shifted := days + epochDays
  let era := shifted.fdiv eraDays
  let dayOfEra := (shifted.fmod eraDays).toNat
  let yearOfEra := (dayOfEra - dayOfEra / 1460 + dayOfEra / 36524 - dayOfEra / 146096) / 365
  let dayOfYear := dayOfEra - (365 * yearOfEra + yearOfEra / 4 - yearOfEra / 100)
  let marchMonth := (5 * dayOfYear + 2) / 153
  let month := if marchMonth < 10 then marchMonth + 3 else marchMonth - 9
  { year := era * 400 + yearOfEra + (if month ≤ 2 then 1 else 0)
    month := month
    day := dayOfYear - (153 * marchMonth + 2) / 5 + 1
    hour := rest / 3600000
    minute := rest / 60000 % 60
    second := rest / 1000 % 60
    milli := rest % 1000
    weekday := ((days + 4).fmod 7).toNat }

/-- Whether a year has a leap day. -/
def isLeapYear (year : Int) : Bool :=
  year.fmod 4 = 0 && (year.fmod 100 ≠ 0 || year.fmod 400 = 0)

/-- Days before each month of a common year. -/
def daysBefore : List Nat := [0, 31, 59, 90, 120, 151, 181, 212, 243, 273, 304, 334]

/-- The first year with an instant, whose first day has none. -/
def firstYear : Int := -271821

/-- The number of a day in its year, counted from one. In the first year, whose start is out of
range, days have no number. The leap day of the year 0 shares the number of the day after it. -/
def dayOfYear? (c : Civil) : Option Nat :=
  if c.year = firstYear then none
  else
    let leap := if isLeapYear c.year && 2 < c.month then 1 else 0
    let shared := if c.year = 0 && c.month = 2 && c.day = 29 then 1 else 0
    some ((daysBefore[c.month - 1]?).getD 0 + c.day + leap + shared)

end Civil

end NamePattern
