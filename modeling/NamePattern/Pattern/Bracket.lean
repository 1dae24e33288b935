import NamePattern.Text.Basic

/-!
Brackets and commas, the three marks of the pattern language. A field call stands between single
brackets, a bracket that is meant literally is written twice, and commas separate arguments.
-/

namespace NamePattern

/-- Opens a field call and a wrapped argument. -/
def openBracket : CodeUnit := unit '['

/-- Closes a field call and a wrapped argument. -/
def closeBracket : CodeUnit := unit ']'

/-- Ends a field name and separates arguments. -/
def comma : CodeUnit := unit ','

/-- Whether a unit is one of the two brackets. -/
def isBracket (u : CodeUnit) : Bool := u == openBracket || u == closeBracket

/-- Whether the unit after position `i` is the bracket `u`, so that a `u` at `i` would be one half of
a doubled bracket. -/
def isDoubledAt (t : Text) (i : Nat) (u : CodeUnit) : Bool := t[i + 1]? == some u

/-- A text with every doubled bracket made single, the opening ones first. -/
def undoubleBrackets (t : Text) : Text :=
  Text.undouble closeBracket (Text.undouble openBracket t)

/-- A text with every bracket written twice, the literal form of any text. -/
def doubleBrackets (t : Text) : Text :=
  t.flatMap fun u => if isBracket u then [u, u] else [u]

/-- A text between single brackets. -/
def bracketed (t : Text) : Text := openBracket :: (t ++ [closeBracket])

end NamePattern
