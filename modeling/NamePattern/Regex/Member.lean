import NamePattern.Text.Blank
import NamePattern.Text.Case.Mapping
import NamePattern.Regex.Escape

/-!
Which characters an atom accepts. When case is ignored two characters are alike if they have one
canonical form: their simple folding in Unicode mode, else their upper case within the basic plane.
-/

namespace NamePattern.Regex

/-- The table that makes characters canonical. -/
def Flags.caseTable (flags : Flags) : List CaseRun :=
  if flags.ignoreCase then if flags.unicode then foldRuns else upperRuns else []

/-- The canonical form of a character. -/
def Flags.canonical (flags : Flags) (c : Nat) : Nat := CaseRun.apply flags.caseTable c

/-- The characters with the same canonical form as `c`. -/
def Flags.alike (flags : Flags) (c : Nat) : List Nat :=
  let canonical := flags.canonical c
  canonical :: CaseRun.sources flags.caseTable canonical

/-- Whether a character is an ASCII letter, digit or the underscore. -/
def isAsciiWord (c : Nat) : Bool := isLetter c || isDecimal c || c == code '_'

/-- Whether a character counts as part of a word. -/
def Flags.isWord (flags : Flags) (c : Nat) : Bool := isAsciiWord c || isAsciiWord (flags.canonical c)

/-- Whether a character is a blank. -/
def isBlankCharacter (c : Nat) : Bool := c < 0x10000 && isBlank (UInt16.ofNat c)

/-- Whether a member of a class holds a character, case apart. -/
def ClassItem.holds (flags : Flags) (c : Nat) : ClassItem → Bool
  | .range first last => first ≤ c && c ≤ last
  | .digits negated => isDecimal c != negated
  | .words negated => flags.isWord c != negated
  | .blanks negated => isBlankCharacter c != negated

/-- Whether a class accepts a character. -/
def accepts (flags : Flags) (negated : Bool) (items : List ClassItem) (c : Nat) : Bool :=
  ((flags.alike c).any fun a => items.any fun item => item.holds flags a) != negated

/-- Whether a character ends a line. -/
def isLineEndCharacter (c : Nat) : Bool := c < 0x10000 && isLineEnd (UInt16.ofNat c)

end NamePattern.Regex
