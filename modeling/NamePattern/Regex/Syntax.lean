import NamePattern.Text.Basic

/-!
Regular expressions as trees. A character is a code unit or, in Unicode mode, a code point; both are
numbers here. `Node.loop` carries the range of groups that it forgets before each round.
-/

namespace NamePattern.Regex

/-- A set of characters within a class: an interval, or one of the named sets or its complement. -/
inductive ClassItem
  | range (first last : Nat)
  | digits (negated : Bool)
  | words (negated : Bool)
  | blanks (negated : Bool)
  deriving DecidableEq

/-- A regular expression. -/
inductive Node
  | empty
  | char (c : Nat)
  | any
  | oneOf (negated : Bool) (items : List ClassItem)
  | cat (first second : Node)
  | alt (first second : Node)
  | group (index : Nat) (body : Node)
  | backref (index : Nat)
  | lineStart
  | lineEnd
  | boundary (negated : Bool)
  | look (behind negated : Bool) (body : Node)
  | loop (body : Node) (least : Nat) (most : Option Nat) (greedy : Bool) (groups : Nat × Nat)

/-- Whether an expression only looks around where it stands, so that no match of it moves. -/
def Node.staysPut : Node → Bool
  | .empty | .lineStart | .lineEnd | .boundary _ | .look _ _ _ => true
  | .char _ | .any | .oneOf _ _ | .backref _ => false
  | .cat first second => first.staysPut && second.staysPut
  | .alt first second => first.staysPut && second.staysPut
  | .group _ body => body.staysPut
  | .loop body _ most _ _ => most == some 0 || body.staysPut

/-- An expression repeated. One that stays put says nothing new in a second round, and a round that
is not required fails if it does not move, so it stands once if it is required and else not at all. -/
def Node.repeated (body : Node) (least : Nat) (most : Option Nat) (greedy : Bool)
    (groups : Nat × Nat) : Node :=
  if body.staysPut then if least = 0 then .empty else body
  else .loop body least most greedy groups

/-- How an expression is read and matched. -/
structure Flags where
  global : Bool := false
  ignoreCase : Bool := false
  multiline : Bool := false
  dotAll : Bool := false
  unicode : Bool := false
  sticky : Bool := false
  indices : Bool := false
  deriving DecidableEq

/-- Adds the flag of one letter, unless it is unknown or there already. -/
def Flags.add? (flags : Flags) (u : CodeUnit) : Option Flags :=
  if u = unit 'g' && !flags.global then some { flags with global := true }
  else if u = unit 'i' && !flags.ignoreCase then some { flags with ignoreCase := true }
  else if u = unit 'm' && !flags.multiline then some { flags with multiline := true }
  else if u = unit 's' && !flags.dotAll then some { flags with dotAll := true }
  else if u = unit 'u' && !flags.unicode then some { flags with unicode := true }
  else if u = unit 'y' && !flags.sticky then some { flags with sticky := true }
  else if u = unit 'd' && !flags.indices then some { flags with indices := true }
  else none

/-- The flags that a text of letters sets; each letter may occur once. -/
def Flags.ofText? (t : Text) : Option Flags := t.foldlM Flags.add? {}

end NamePattern.Regex

namespace NamePattern

/-- A regular expression with its flags, the count of its groups and the names of those that have
one. -/
structure Regex where
  root : Regex.Node
  flags : Regex.Flags
  groupCount : Nat
  names : List (Text × Nat)

end NamePattern
