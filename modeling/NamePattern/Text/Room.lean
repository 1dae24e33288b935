import NamePattern.Text.Basic

/-!
How long a text may become. A host has room for texts up to some length and refuses to build a longer one; the
program runs on such a host. What the theory says of the contents of texts it says of a host with room for
any text; what a want of room does is said apart, and so is that room enough makes no difference.

The texts that count are those that something is made of: the value of a field, the text of an item, its scope,
a reply. Those on the way to them do not, such as a text in lower case, the key of a counter or the reason why a
field failed.
-/

namespace NamePattern

/-- The length of the longest text that the program's host builds. -/
def longestText : Nat := 536870888

/-- What the host says of a text that is too long to be built. -/
def tooLongMessage : Text := text "Invalid string length"

/-- The room for texts: the length of the longest text that can be built, if there is one. -/
structure Room where
  longest : Option Nat
  deriving DecidableEq

namespace Room

/-- Room for any text. -/
def unbounded : Room := ⟨none⟩

/-- Room for texts up to some length. -/
def upTo (longest : Nat) : Room := ⟨some longest⟩

/-- The room on the program's host. -/
def host : Room := upTo longestText

/-- Whether there is room for a text of some length. -/
def holds (room : Room) (length : Nat) : Bool := room.longest.all (length ≤ ·)

end Room

end NamePattern
