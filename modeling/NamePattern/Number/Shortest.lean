import NamePattern.Text.Decimal
import NamePattern.Number.Binary64

/-!
The text of a number: the fewest digits that read back as it, the closest to it of those, written
out in full while the point stands within twenty-one digits before or six zeros after the first
digit, and with an exponent beyond.
-/

namespace NamePattern

/-- The exponent `n` with `10 ^ (n - 1) ≤ num / den < 10 ^ n`. -/
def decimalExponent (num den : Nat) : Int :=
  let guess : Int := ((Text.ofNat num).length : Int) - (Text.ofNat den).length
  if reachesPower 10 num den guess then guess + 1 else guess

/-- The value `digits * 10 ^ exponent`. -/
def decimalValue (digits : Nat) (exponent : Int) : Rat :=
  if 0 ≤ exponent then ((digits * Nat.pow 10 exponent.toNat : Nat) : Rat)
  else mkRat digits (Nat.pow 10 (-exponent).toNat)

/-- The whole number of units `10 ^ exponent` that reads back as the positive rational `q`, the one
closer to `q` if both its neighbours do, an exact tie going to the even one. -/
def readsBack? (q : Rat) (exponent : Int) : Option Nat :=
  let unitsBelow := (q / decimalValue 1 exponent).floor.toNat
  let fits (digits : Nat) : Bool :=
    Binary64.nearest (decimalValue digits exponent) = .finite q
  let missBelow := q - decimalValue unitsBelow exponent
  let missAbove := decimalValue (unitsBelow + 1) exponent - q
  match fits unitsBelow, fits (unitsBelow + 1) with
  | true, true =>
    if missBelow < missAbove || (missBelow == missAbove && unitsBelow % 2 == 0)
    then some unitsBelow else some (unitsBelow + 1)
  | true, false => some unitsBelow
  | false, true => some (unitsBelow + 1)
  | false, false => none

/-- A decimal: its significant digits and the place of the point, counted from their start. -/
structure Decimal where
  digits : Text
  point : Int

/-- The shortest decimal that reads back as the positive rational `q`. -/
def shortestDecimal (q : Rat) : Decimal :=
  let point := decimalExponent q.num.natAbs q.den
  let found := (List.range 17).findSome? fun (k : Nat) =>
    (readsBack? q (point - (k + 1))).map fun digits => (digits, k + 1)
  match found with
  | none => ⟨[digit 0], 1⟩
  | some (digits, count) =>
    let written := Text.ofNat digits
    ⟨(written.reverse.dropWhile (· == digit 0)).reverse, point + written.length - count⟩

namespace Decimal

/-- Digits before the point that are still written in full. -/
def longestWhole : Int := 21

/-- Zeros after the point that are still written in full. -/
def mostZeros : Int := 6

/-- The text of a decimal. -/
def toText (d : Decimal) : Text :=
  let count : Int := d.digits.length
  if count ≤ d.point && d.point ≤ longestWhole then
    d.digits ++ List.replicate (d.point - count).toNat (digit 0)
  else if 0 < d.point && d.point ≤ longestWhole then
    d.digits.take d.point.toNat ++ unit '.' :: d.digits.drop d.point.toNat
  else if -mostZeros < d.point && d.point ≤ 0 then
    digit 0 :: unit '.' :: List.replicate (-d.point).toNat (digit 0) ++ d.digits
  else
    let exponent := d.point - 1
    let sign := if exponent < 0 then unit '-' else unit '+'
    let tail := unit 'e' :: sign :: Text.ofNat exponent.natAbs
    match d.digits with
    | [single] => single :: tail
    | first :: rest => first :: unit '.' :: rest ++ tail
    | [] => tail

end Decimal

namespace Binary64

/-- The text of a number. -/
def toText : Binary64 → Text
  | .nan => text "NaN"
  | .infinite negative => if negative then text "-Infinity" else text "Infinity"
  | .finite q =>
    if q.num = 0 then [digit 0]
    else if q.num < 0 then unit '-' :: (shortestDecimal (-q)).toText
    else (shortestDecimal q).toText

end Binary64

end NamePattern
