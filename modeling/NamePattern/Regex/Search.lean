import NamePattern.Regex.Matcher
import NamePattern.Regex.Parse

/-!
Searching a text. `Regex.matches` lists the matches of a global expression from left to right: each
search begins where the last match ended, one character further if that match was empty. A sticky
expression must match right where the search begins, and the first place where it does not ends the
list.
-/

namespace NamePattern

/-- A match: the text, its index in the input, and the groups, by number and by name. A group that
took no part has no text. Without named groups there is no list of names at all. -/
structure Match where
  content : Text
  index : Nat
  input : Text
  captures : List (Option Text)
  groups : Option (List (Text × Option Text))
  deriving DecidableEq

/-- The index after a match. -/
def Match.stop (m : Match) : Nat := m.index + m.content.length

namespace Regex

/-- The match of an expression at exactly one position. -/
def matchAt? (regex : Regex) (s : Subject) (position : Nat) : Option (Nat × Cursor) :=
  (regex.root.run s false ⟨position, List.replicate (regex.groupCount + 1) none⟩ some).map
    fun after => (position, after)

/-- The first match at or after a position, looking at up to `tries` positions. -/
def searchFrom? (regex : Regex) (s : Subject) (tries position : Nat) : Option (Nat × Cursor) :=
  match tries with
  | 0 => none
  | tries + 1 =>
    if s.input.size < position then none
    else
      match regex.matchAt? s position with
      | some found => some found
      | none =>
        if regex.flags.sticky then none else regex.searchFrom? s tries (s.advance position)

/-- The match that a search found. -/
def foundMatch (regex : Regex) (s : Subject) (input : Text) (start : Nat) (after : Cursor) :
    Match :=
  let captured (group : Nat) : Option Text := (after.span? group).map s.slice
  { content := s.slice (start, after.position)
    index := start
    input := input
    captures := (List.range regex.groupCount).map fun i => captured (i + 1)
    groups :=
      if regex.names.isEmpty then none
      else some (regex.names.map fun (name, group) => (name, captured group)) }

/-- The matches from a position on, looking for up to `bound` of them. -/
def matchesFrom (regex : Regex) (s : Subject) (input : Text) (bound position : Nat) : List Match :=
  match bound with
  | 0 => []
  | bound + 1 =>
    match regex.searchFrom? s (s.input.size + 1 - position) position with
    | none => []
    | some (start, after) =>
      let from_ := if after.position = start then s.advance start else after.position
      regex.foundMatch s input start after :: regex.matchesFrom s input bound from_

/-- All matches of an expression in a text. -/
def «matches» (regex : Regex) (input : Text) : List Match :=
  let s : Subject := ⟨regex.flags, input.toArray⟩
  regex.matchesFrom s input (input.length + 1) 0

end Regex

end NamePattern
