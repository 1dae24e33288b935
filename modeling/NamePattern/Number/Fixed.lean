import NamePattern.Number.Shortest
import NamePattern.Text.Room

/-!
Numbers with a fixed count of places, rounded on their exact value with ties away from zero, and the
fractions made of them, which always show a point.
-/

namespace NamePattern

/-- The count of units in the last of `places` places that is closest to a magnitude. -/
def unitsInPlaces (magnitude : Rat) (places : Nat) : Nat :=
  halfUp (magnitude.num.natAbs * Nat.pow 10 places) magnitude.den

/-- The numeral of `count` units of the last of `places` places. -/
def placesText (count places : Nat) : Text :=
  if places = 0 then Text.ofNat count
  else
    let digits := Text.padStart (places + 1) (digit 0) (Text.ofNat count)
    let whole := digits.length - places
    digits.take whole ++ unit '.' :: digits.drop whole

/-- Why a number cannot be written as it is asked for. -/
inductive NumeralError
  | negativePlaces
  | tooLong
  deriving DecidableEq

/-- The text of an error. -/
def NumeralError.message : NumeralError → Text
  | .negativePlaces => text "toFixed() digits argument must be between 0 and 100"
  | .tooLong => tooLongMessage

namespace Binary64

/-- Magnitudes from here on are not written with fixed places. -/
def fixedLimit : Rat := (Nat.pow 10 21 : Nat)

/-- The text of a number with exactly `places` places. -/
def toFixed (x : Binary64) (places : Nat) : Text :=
  match x with
  | .finite q =>
    if fixedLimit ≤ q.abs then x.toText
    else
      let written := placesText (unitsInPlaces q.abs places) places
      if q.num < 0 then unit '-' :: written else written
  | _ => x.toText

/-- The number that `toFixed` writes. -/
def roundTo (x : Binary64) (places : Nat) : Binary64 :=
  match x with
  | .finite q =>
    if fixedLimit ≤ q.abs then x
    else
      let magnitude := mkRat (unitsInPlaces q.abs places) (Nat.pow 10 places)
      nearest (if q.num < 0 then -magnitude else magnitude)
  | _ => x

/-- The most places a fraction is rounded to; beyond them no number has anything left to round. -/
def mostPlaces : Nat := 100

/-- A number rounded to `places` places and written as a fraction: a whole number shows one zero
after the point. -/
def toFraction (x : Binary64) (places : Nat) : Text :=
  let rounded := x.roundTo (min places mostPlaces)
  if rounded.isInteger then rounded.toFixed 1 else rounded.toText

/-- `toFraction` for any count of places, refused for a negative one. -/
def fraction? (x : Binary64) (places : Int) : Except NumeralError Text :=
  if places < 0 then .error .negativePlaces else .ok (x.toFraction places.toNat)

end Binary64

end NamePattern
