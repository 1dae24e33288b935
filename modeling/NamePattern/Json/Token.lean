import NamePattern.Json.Basic

/-!
The tokens of the text of a value: the marks of arrays and objects, and the values that are neither.
A token is scanned from its first unit on; where the text stops being a token, that place is told
with what is wrong there.
-/

namespace NamePattern.Json

/-- What is wrong at a place of the text of a value. -/
inductive Fault
  | unexpected
  | noNameOrEnd
  | noName
  | noColon
  | noItemEnd
  | noFieldEnd
  | afterEnd
  | openString
  | controlUnit
  | badEscape
  | badUnicodeEscape
  | noDigits
  | noFraction
  | noExponent
  deriving DecidableEq

/-- A token: a mark, or a whole value. -/
inductive Token
  | openArray
  | closeArray
  | openObject
  | closeObject
  | comma
  | colon
  | scalar (value : Json)

/-- What a scan gives: something and the number of units up to its end, or a fault and the number of
units before it. -/
abbrev Scanned (α : Type) := Except (Nat × Fault) (Nat × α)

/-- The number of units that two texts begin with alike. -/
def sharedLength (s t : Text) : Nat := ((s.zip t).takeWhile fun (u, v) => u == v).length

/-- Scans a word that stands for a value. -/
def scanWord (word : Text) (value : Json) (t : Text) : Scanned Token :=
  let shared := sharedLength word t
  if shared = word.length then .ok (shared, .scalar value) else .error (shared, .unexpected)

/-- Scans the digits after a point. Without a point there are none; a point needs at least one. -/
def scanFraction (before : Nat) (t : Text) : Scanned Text :=
  if t.head? = some (unit '.') then
    let digits := (t.drop 1).takeWhile isDigit
    if digits.isEmpty then .error (before + 1, .noFraction)
    else .ok (before + 1 + digits.length, digits)
  else .ok (before, [])

/-- Scans an exponent: the letter E in either case, a sign if there is one, and at least one digit.
Without the letter the exponent is zero. -/
def scanExponent (before : Nat) (t : Text) : Scanned Int :=
  if t.head? = some (unit 'e') || t.head? = some (unit 'E') then
    let negative := t[1]? == some (unit '-')
    let mark := if negative || t[1]? == some (unit '+') then 2 else 1
    let digits := (t.drop mark).takeWhile isDigit
    let size : Int := Text.toNat digits
    if digits.isEmpty then .error (before + mark, .noExponent)
    else .ok (before + mark + digits.length, if negative then -size else size)
  else .ok (before, 0)

/-- Scans a number. Its digits before the point begin with a zero only if that is the only one. -/
def scanNumber (t : Text) : Scanned Token :=
  let sign := if t.head? = some (unit '-') then 1 else 0
  let whole := (t.drop sign).takeWhile isDigit
  if whole.isEmpty then .error (sign, .noDigits)
  else if whole.head? = some (digit 0) && 1 < whole.length then .error (sign + 1, .unexpected)
  else
    match scanFraction (sign + whole.length) (t.drop (sign + whole.length)) with
    | .error fault => .error fault
    | .ok (before, fraction) =>
      match scanExponent before (t.drop before) with
      | .error fault => .error fault
      | .ok (size, exponent) =>
        let magnitude : Int := Text.toNat (whole ++ fraction)
        let mantissa := if sign = 1 then -magnitude else magnitude
        .ok (size, .scalar (.number (.ofDecimal mantissa (exponent - fraction.length))))

/-- The unit that a backslash and a single unit stand for. -/
def unescape? (u : CodeUnit) : Option CodeUnit :=
  if u = unit '"' || u = unit '\\' || u = unit '/' then some u
  else if u = unit 'b' then some 0x08
  else if u = unit 't' then some 0x09
  else if u = unit 'n' then some 0x0A
  else if u = unit 'f' then some 0x0C
  else if u = unit 'r' then some 0x0D
  else none

/-- The value of a hexadecimal digit in either case. -/
def hexDigitValue? (u : CodeUnit) : Option Nat :=
  if isDigit u then some (digitValue u)
  else if unit 'a' ≤ u && u ≤ unit 'f' then some (u.toNat - 0x61 + 10)
  else if unit 'A' ≤ u && u ≤ unit 'F' then some (u.toNat - 0x41 + 10)
  else none

/-- The values of the hexadecimal digits that a text begins with, four at most. -/
def hexValues (t : Text) : List Nat :=
  ((t.take 4).takeWhile fun u => (hexDigitValue? u).isSome).filterMap hexDigitValue?

/-- Scans a text in quotes from a place within it. What was found before is given last unit first,
and `before` counts the units that it took. -/
def scanString (found : Text) (before : Nat) : Text → Scanned Token
  | [] => .error (before, .openString)
  | u :: rest =>
    if u = unit '"' then .ok (before + 1, .scalar (.string found.reverse))
    else if u < 0x20 then .error (before, .controlUnit)
    else if u ≠ unit '\\' then scanString (u :: found) (before + 1) rest
    else
      match rest with
      | [] => .error (before + 1, .badEscape)
      | v :: rest =>
        if v = unit 'u' then
          let values := hexValues rest
          if values.length < 4 then .error (before + 2 + values.length, .badUnicodeEscape)
          else
            let spelled := UInt16.ofNat (values.foldl (fun n d => 16 * n + d) 0)
            scanString (spelled :: found) (before + 6) (rest.drop 4)
        else
          match unescape? v with
          | some spelled => scanString (spelled :: found) (before + 2) rest
          | none => .error (before + 1, .badEscape)
termination_by t => t.length

/-- Scans the token that a text begins with. -/
def scanToken (u : CodeUnit) (rest : Text) : Scanned Token :=
  if u = unit '"' then scanString [] 1 rest
  else if u = unit '-' || isDigit u then scanNumber (u :: rest)
  else if u = unit 'n' then scanWord (text "null") .null (u :: rest)
  else if u = unit 't' then scanWord (text "true") (.bool true) (u :: rest)
  else if u = unit 'f' then scanWord (text "false") (.bool false) (u :: rest)
  else if u = unit '[' then .ok (1, .openArray)
  else if u = unit ']' then .ok (1, .closeArray)
  else if u = 0x7B then .ok (1, .openObject)
  else if u = 0x7D then .ok (1, .closeObject)
  else if u = unit ',' then .ok (1, .comma)
  else if u = unit ':' then .ok (1, .colon)
  else .error (0, .unexpected)

end NamePattern.Json
