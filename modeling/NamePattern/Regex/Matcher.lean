import NamePattern.Regex.Member

/-!
Matching by backtracking. `Node.run` gives the first way in which an expression matches from a
position and what is left to match succeeds after it; lookbehind runs the same expression towards
the start. A round of a loop that has its least count and consumed nothing fails, so a loop has at
most one round per required one and per position, which is the bound `Node.run` gives it.
-/

namespace NamePattern.Regex

/-- What an expression is matched against: the flags and the units of the input. -/
structure Subject where
  flags : Flags
  input : Array CodeUnit

/-- A position in the input and the spans of the groups that have matched so far. -/
structure Cursor where
  position : Nat
  spans : List (Option (Nat × Nat))
  deriving DecidableEq

/-- What is left to match after an expression. -/
abbrev Rest := Cursor → Option Cursor

namespace Subject

/-- The character that starts at a position and the position after it. -/
def next? (s : Subject) (i : Nat) : Option (Nat × Nat) :=
  match s.input[i]? with
  | none => none
  | some u =>
    match s.input[i + 1]? with
    | some v =>
      if s.flags.unicode && isLead u && isTrail v then some (joinSurrogates u v, i + 2)
      else some (u.toNat, i + 1)
    | none => some (u.toNat, i + 1)

/-- The character that ends at a position and the position before it. -/
def previous? (s : Subject) (i : Nat) : Option (Nat × Nat) :=
  match i with
  | 0 => none
  | i + 1 =>
    match s.input[i]? with
    | none => none
    | some v =>
      match i with
      | 0 => some (v.toNat, 0)
      | j + 1 =>
        match s.input[j]? with
        | some u =>
          if s.flags.unicode && isLead u && isTrail v then some (joinSurrogates u v, j)
          else some (v.toNat, j + 1)
        | none => some (v.toNat, j + 1)

/-- The next character in a direction and the position beyond it. -/
def read? (s : Subject) (backward : Bool) (i : Nat) : Option (Nat × Nat) :=
  if backward then s.previous? i else s.next? i

/-- The position after the character at `i`. -/
def advance (s : Subject) (i : Nat) : Nat := ((s.next? i).map Prod.snd).getD (i + 1)

/-- Whether the unit at a position is part of a word. -/
def isWordAt (s : Subject) (i : Nat) : Bool :=
  (s.input[i]?.map fun u => s.flags.isWord u.toNat).getD false

/-- Whether the unit at a position ends a line. -/
def isLineEndAt (s : Subject) (i : Nat) : Bool := (s.input[i]?.map isLineEnd).getD false

/-- Whether a line starts at a position. -/
def atLineStart (s : Subject) (i : Nat) : Bool :=
  i = 0 || (s.flags.multiline && s.isLineEndAt (i - 1))

/-- Whether a line ends at a position. -/
def atLineEnd (s : Subject) (i : Nat) : Bool :=
  i = s.input.size || (s.flags.multiline && s.isLineEndAt i)

/-- Whether a word starts or ends at a position. -/
def atBoundary (s : Subject) (i : Nat) : Bool :=
  (i ≠ 0 && s.isWordAt (i - 1)) != s.isWordAt i

/-- The units of a span. -/
def slice (s : Subject) (span : Nat × Nat) : Text :=
  (s.input.extract span.1 span.2).toList

/-- Moves over the given characters, alike in case where case is ignored. -/
def follow? (s : Subject) (backward : Bool) : List Nat → Nat → Option Nat
  | [], i => some i
  | c :: rest, i =>
    (s.read? backward i).bind fun (d, j) =>
      if s.flags.canonical c = s.flags.canonical d then s.follow? backward rest j else none

/-- The characters of a span in the order in which a direction meets them. -/
def characters (s : Subject) (backward : Bool) (span : Nat × Nat) : List Nat :=
  let units := s.slice span
  let inOrder := if s.flags.unicode then units.points else units.map UInt16.toNat
  if backward then inOrder.reverse else inOrder

end Subject

namespace Cursor

/-- The span of a group, if it has matched. -/
def span? (c : Cursor) (group : Nat) : Option (Nat × Nat) := (c.spans[group]?).join

/-- Notes the span of a group. -/
def capture (c : Cursor) (group from_ to_ : Nat) : Cursor :=
  { c with spans := c.spans.set group (some (min from_ to_, max from_ to_)) }

/-- Forgets the groups after the first `range.1` up to the one with index `range.2`. -/
def forget (c : Cursor) (range : Nat × Nat) : Cursor :=
  { c with spans := c.spans.mapIdx fun i s => if range.1 < i && i ≤ range.2 then none else s }

end Cursor

/-- Rounds of a loop whose body is matched by `body`: at least `least`, at most `most`, and as many
or as few as the rest allows. -/
def rounds (body : Cursor → Rest → Option Cursor) (greedy : Bool) (groups : Nat × Nat)
    (bound least : Nat) (most : Option Nat) (c : Cursor) (rest : Rest) : Option Cursor :=
  match bound with
  | 0 => none
  | bound + 1 =>
    if most = some 0 then rest c
    else
      let again (after : Cursor) : Option Cursor :=
        if least = 0 && after.position = c.position then none
        else rounds body greedy groups bound (least - 1) (most.map (· - 1)) after rest
      if least ≠ 0 then body (c.forget groups) again
      else if greedy then (body (c.forget groups) again).or (rest c)
      else
        match rest c with
        | some done => some done
        | none => body (c.forget groups) again

/-- The first way in which an expression and then the rest match. -/
def Node.run (s : Subject) (node : Node) (backward : Bool) (c : Cursor) (rest : Rest) :
    Option Cursor :=
  match node with
  | .empty => rest c
  | .char p =>
    match s.read? backward c.position with
    | some (d, i) =>
      if s.flags.canonical p = s.flags.canonical d then rest { c with position := i } else none
    | none => none
  | .any =>
    match s.read? backward c.position with
    | some (d, i) =>
      if s.flags.dotAll || !isLineEndCharacter d then rest { c with position := i } else none
    | none => none
  | .oneOf negated items =>
    match s.read? backward c.position with
    | some (d, i) =>
      if accepts s.flags negated items d then rest { c with position := i } else none
    | none => none
  | .cat first second =>
    if backward then second.run s backward c fun after => first.run s backward after rest
    else first.run s backward c fun after => second.run s backward after rest
  | .alt first second =>
    match first.run s backward c rest with
    | some done => some done
    | none => second.run s backward c rest
  | .group index body =>
    body.run s backward c fun after => rest (after.capture index c.position after.position)
  | .backref index =>
    match c.span? index with
    | none => rest c
    | some span =>
      match s.follow? backward (s.characters backward span) c.position with
      | some i => rest { c with position := i }
      | none => none
  | .lineStart => if s.atLineStart c.position then rest c else none
  | .lineEnd => if s.atLineEnd c.position then rest c else none
  | .boundary negated => if s.atBoundary c.position != negated then rest c else none
  | .look behind negated body =>
    match body.run s behind c some with
    | some after => if negated then none else rest { c with spans := after.spans }
    | none => if negated then rest c else none
  | .loop body least most greedy groups =>
    rounds (fun c rest => body.run s backward c rest) greedy groups
      (least + s.input.size + 1) least most c rest

end NamePattern.Regex
