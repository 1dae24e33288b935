/-!
Numbers of the binary64 format as exact values. A finite number is the rational it denotes, so that
arithmetic is rational arithmetic followed by one rounding, `Binary64.nearest`: the closest multiple
of the last place, a tie going to the even one. The two zeros are one number here, since no text
tells them apart.
-/

namespace NamePattern

/-- A number of the binary64 format. -/
inductive Binary64
  | finite (value : Rat)
  | infinite (negative : Bool)
  | nan
  deriving DecidableEq

/-- The quotient rounded to the nearest whole number, a tie to the even one. -/
def halfEven (num den : Nat) : Nat :=
  let below := num / den
  let rest := 2 * (num % den)
  if rest < den || (rest == den && below % 2 == 0) then below else below + 1

/-- The quotient rounded to the nearest whole number, a tie to the larger one. -/
def halfUp (num den : Nat) : Nat := (2 * num + den) / (2 * den)

/-- `num / den` is at least `base ^ exponent`. -/
def reachesPower (base num den : Nat) (exponent : Int) : Bool :=
  if 0 ≤ exponent then base.pow exponent.toNat * den ≤ num
  else den ≤ num * base.pow (-exponent).toNat

/-- The exponent `e` with `2 ^ e ≤ num / den < 2 ^ (e + 1)`. -/
def binaryExponent (num den : Nat) : Int :=
  let guess : Int := (Nat.log2 num : Int) - Nat.log2 den
  if reachesPower 2 num den guess then guess else guess - 1

namespace Binary64

/-- Exponent of the last place of the smallest numbers. -/
def minExponent : Int := -1074

/-- The least power of two that is too large. -/
def limit : Rat := (Nat.pow 2 1024 : Nat)

/-- The finite value next to a magnitude, which may reach the limit. -/
def nearestMagnitude (num den : Nat) : Rat :=
  let place := max (binaryExponent num den - 52) minExponent
  if 0 ≤ place then
    let step := Nat.pow 2 place.toNat
    (halfEven num (den * step) * step : Nat)
  else
    let scale := Nat.pow 2 (-place).toNat
    mkRat (halfEven (num * scale) den) scale

/-- The number closest to a rational. -/
def nearest (q : Rat) : Binary64 :=
  let magnitude := if q.num = 0 then 0 else nearestMagnitude q.num.natAbs q.den
  if limit ≤ magnitude then .infinite (q.num < 0)
  else .finite (if q.num < 0 then -magnitude else magnitude)

/-- The number that the decimal numeral `mantissa * 10 ^ exponent` denotes. An exponent far out of range
is told from the number of bits: a mantissa of at most `n` bits is below `10 ^ n`. -/
def ofDecimal (mantissa exponent : Int) : Binary64 :=
  if mantissa = 0 || exponent + Nat.log2 mantissa.natAbs < -400 then .finite 0
  else if 400 < exponent then .infinite (mantissa < 0)
  else nearest <|
    if 0 ≤ exponent then mantissa * (Nat.pow 10 exponent.toNat : Nat)
    else mkRat mantissa (Nat.pow 10 (-exponent).toNat)

instance : NatCast Binary64 := ⟨fun n => nearest n⟩

instance (n : Nat) : OfNat Binary64 n := ⟨nearest n⟩

instance : Inhabited Binary64 := ⟨0⟩

/-- Whether a number is finite and whole. -/
def isInteger : Binary64 → Bool
  | .finite q => q.den == 1
  | _ => false

/-- Whether a number is below zero. -/
def isNegative : Binary64 → Bool
  | .finite q => q.num < 0
  | .infinite negative => negative
  | .nan => false

/-- The order of numbers; nothing compares with the missing number. -/
def le : Binary64 → Binary64 → Bool
  | .finite p, .finite q => p ≤ q
  | .infinite true, .finite _ => true
  | .finite _, .infinite negative => !negative
  | .infinite true, .infinite _ => true
  | .infinite false, .infinite negative => !negative
  | _, _ => false

/-- The quotient of two numbers, rounded once. -/
def div : Binary64 → Binary64 → Binary64
  | .finite p, .finite q =>
    if q.num = 0 then if p.num = 0 then .nan else .infinite (p.num < 0) else nearest (p / q)
  | .finite _, .infinite _ => .finite 0
  | .infinite negative, .finite q => .infinite (negative != decide (q.num < 0))
  | _, _ => .nan

instance : Div Binary64 := ⟨div⟩

end Binary64

end NamePattern
