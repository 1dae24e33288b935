import NamePattern.Text.Basic

/-!
Blanks: white space of every script and line ends. They are what trimming removes and what a
regular expression calls white space. U+0085, U+180E, U+200B and the separators U+001C to U+001F are
not among them.
-/

namespace NamePattern

/-- Line feed, carriage return and the two Unicode separators. -/
def isLineEnd (u : CodeUnit) : Bool :=
  u == 0x0A || u == 0x0D || u == 0x2028 || u == 0x2029

/-- White space or a line end. -/
def isBlank (u : CodeUnit) : Bool :=
  (0x09 ≤ u && u ≤ 0x0D) || u == 0x20 || u == 0xA0 || u == 0x1680 || (0x2000 ≤ u && u ≤ 0x200A)
    || u == 0x2028 || u == 0x2029 || u == 0x202F || u == 0x205F || u == 0x3000 || u == 0xFEFF

namespace Text

/-- A text without the blanks at its start. -/
def trimStart (t : Text) : Text := t.dropWhile isBlank

/-- A text without the blanks at its end. -/
def trimEnd (t : Text) : Text := (t.reverse.dropWhile isBlank).reverse

/-- A text without the blanks at both ends. -/
def trim (t : Text) : Text := t.trimStart.trimEnd

end Text

end NamePattern
