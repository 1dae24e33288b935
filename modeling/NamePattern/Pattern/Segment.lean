import NamePattern.Number.Binary64
import NamePattern.Pattern.Argument
import NamePattern.Pattern.Scan

/-!
Patterns as they are rendered: literal segments and calls of known fields, in order. A group whose
name no field has stays literal text, brackets included, and joins the text around it.
-/

namespace NamePattern

/-- A stretch of output text, or a call together with the group it was read from. -/
inductive Segment
  | literal (content : Text)
  | field (call : Call) (group : Group)
  deriving DecidableEq

/-- A pattern: the text it was read from and its segments. -/
structure Pattern where
  source : Text
  segments : List Segment
  deriving DecidableEq

/-- Whether a position, which may be no whole number, lies in a group. A group reaches from the unit after
its opening bracket through its closing one. -/
def Group.isAround (g : Group) (position : Binary64) : Bool :=
  Binary64.le (.finite (g.start + 1 : Nat)) position && position.le (.finite (g.stop : Nat))

namespace Segment

/-- What a call puts out when its evaluation fails: the group as written. A literal has none. -/
def fallback? : Segment → Option Text
  | .literal _ => none
  | .field _ group => some group.written

/-- Puts literal text in front of some segments, as part of the first one if that is literal too. -/
def prependLiteral (t : Text) : List Segment → List Segment
  | .literal s :: rest => .literal (t ++ s) :: rest
  | segments => .literal t :: segments

/-- Puts the segment of one piece in front of some segments. -/
def prependPiece (known : Text → Bool) (piece : Piece) (segments : List Segment) : List Segment :=
  match piece with
  | .literal t => prependLiteral t segments
  | .group g =>
    let call := Call.ofSource g.source
    if known call.name then .field call g :: segments else prependLiteral g.written segments

end Segment

namespace Pattern

/-- The pattern of a text, where `known` says which names belong to a field. -/
def ofText (known : Text → Bool) (source : Text) : Pattern :=
  ⟨source, (Piece.scan source).foldr (Segment.prependPiece known) []⟩

/-- The name of the group around a position, known or not. -/
def nameAt? (source : Text) (position : Binary64) : Option Text :=
  ((Piece.groups (Piece.scan source)).find? fun g => g.isAround position).map fun g =>
    (Call.ofSource g.source).name

end Pattern

end NamePattern
