import NamePattern.Calendar.Civil
import NamePattern.Text.Decimal

/-!
Dates written by a format with percent directives, in English. Two percent signs stand for one; an
unknown directive and a percent sign at the end are copied.
-/

namespace NamePattern

/-- What a directive writes. -/
inductive Directive
  | year | shortYear | month | day | hour | shortHour | minute | second | fraction | halfDay
  | monthAbbreviation | monthName | weekdayAbbreviation | weekdayName | dayOfYear | offset | weekday
  deriving DecidableEq

/-- A date cannot be written because it is out of range. -/
inductive DateError
  | invalidTime
  deriving DecidableEq

/-- The text of an error. -/
def DateError.message : DateError → Text
  | .invalidTime => text "Invalid time value"

/-- English month names. -/
def monthNames : List Text :=
  ["January", "February", "March", "April", "May", "June", "July", "August", "September", "October",
    "November", "December"].map text

/-- English weekday names, from Sunday. -/
def weekdayNames : List Text :=
  ["Sunday", "Monday", "Tuesday", "Wednesday", "Thursday", "Friday", "Saturday"].map text

/-- A number with at least `width` digits. -/
def paddedNumber (width n : Nat) : Text := Text.padStart width (digit 0) (Text.ofNat n)

/-- The number by which a year is written: years before the year 1 are counted backwards from 1. -/
def writtenYear (year : Int) : Nat := (if 0 < year then year else 1 - year).toNat

namespace Directive

/-- The directive of a letter. -/
def ofUnit? (u : CodeUnit) : Option Directive :=
  if u = unit 'Y' then some .year
  else if u = unit 'y' then some .shortYear
  else if u = unit 'm' then some .month
  else if u = unit 'd' then some .day
  else if u = unit 'H' then some .hour
  else if u = unit 'I' then some .shortHour
  else if u = unit 'M' then some .minute
  else if u = unit 'S' then some .second
  else if u = unit 'f' then some .fraction
  else if u = unit 'p' then some .halfDay
  else if u = unit 'b' then some .monthAbbreviation
  else if u = unit 'B' then some .monthName
  else if u = unit 'a' then some .weekdayAbbreviation
  else if u = unit 'A' then some .weekdayName
  else if u = unit 'j' then some .dayOfYear
  else if u = unit 'z' then some .offset
  else if u = unit 'w' then some .weekday
  else none

/-- What a directive writes for a date. It stands for the pattern letters of a formatting library, with the
time zone fixed at UTC and the language at the English of the United States. -/
def write (c : Civil) : Directive → Text
  | .year => paddedNumber 4 (writtenYear c.year)
  | .shortYear => paddedNumber 2 (writtenYear c.year % 100)
  | .month => paddedNumber 2 c.month
  | .day => paddedNumber 2 c.day
  | .hour => paddedNumber 2 c.hour
  | .shortHour => paddedNumber 2 (if c.hour % 12 = 0 then 12 else c.hour % 12)
  | .minute => paddedNumber 2 c.minute
  | .second => paddedNumber 2 c.second
  | .fraction => paddedNumber 6 (c.milli * 1000)
  | .halfDay => if c.hour < 12 then text "AM" else text "PM"
  | .monthAbbreviation => ((monthNames[c.month - 1]?).getD []).take 3
  | .monthName => (monthNames[c.month - 1]?).getD []
  | .weekdayAbbreviation => ((weekdayNames[c.weekday]?).getD []).take 3
  | .weekdayName => (weekdayNames[c.weekday]?).getD []
  | .dayOfYear =>
    match c.dayOfYear? with
    | some n => paddedNumber 3 n
    | none => text "NaN"
  | .offset => text "+0000"
  | .weekday => Text.ofNat c.weekday

/-- What a directive writes for a date that may be out of range, where only the weekday still has a
text. -/
def write? (date : Option Instant) (directive : Directive) : Except DateError Text :=
  match date with
  | some i => .ok (directive.write (Civil.ofInstant i))
  | none => if directive = .weekday then .ok (text "NaN") else .error .invalidTime

end Directive

/-- What a percent sign and the unit after it write. -/
def writeDirective (date : Option Instant) (u : CodeUnit) : Except DateError Text :=
  if u = unit '%' then .ok [u]
  else
    match Directive.ofUnit? u with
    | some directive => directive.write? date
    | none => .ok [unit '%', u]

/-- A date, which may be out of range, written by a format. -/
def formatDate (date : Option Instant) : Text → Except DateError Text
  | [] => .ok []
  | [u] => .ok [u]
  | u :: v :: rest =>
    if u = unit '%' then
      match writeDirective date v with
      | .ok written => (formatDate date rest).map (written ++ ·)
      | .error e => .error e
    else (formatDate date (v :: rest)).map (u :: ·)

end NamePattern
