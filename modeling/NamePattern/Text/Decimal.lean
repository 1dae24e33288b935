import NamePattern.Text.Basic

/-!
Decimal numerals: the digits of a natural number without leading zeros, an integer with its sign in
front, and the value that a run of digits stands for.
-/

namespace NamePattern

/-- Whether a unit is one of the ASCII digits 0 to 9. No other digit counts. -/
def isDigit (u : CodeUnit) : Bool := 0x30 ≤ u && u ≤ 0x39

/-- The digit of a number below ten. -/
def digit (n : Nat) : CodeUnit := UInt16.ofNat (0x30 + n)

/-- The number that a digit stands for. -/
def digitValue (u : CodeUnit) : Nat := u.toNat - 0x30

namespace Text

/-- The decimal digits of a natural number, without leading zeros. -/
def ofNat (n : Nat) : Text :=
  if n < 10 then [digit n] else ofNat (n / 10) ++ [digit (n % 10)]

/-- The decimal numeral of an integer. -/
def ofInt : Int → Text
  | .ofNat n => ofNat n
  | .negSucc n => unit '-' :: ofNat (n + 1)

/-- The number that a run of digits stands for, whatever zeros lead it. -/
def toNat (digits : Text) : Nat := digits.foldl (fun n u => 10 * n + digitValue u) 0

/-- Whether a text is one or more digits and nothing else. -/
def isNumeral (t : Text) : Bool := !t.isEmpty && t.all isDigit

end Text

end NamePattern
