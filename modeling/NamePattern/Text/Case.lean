import NamePattern.Text.Basic
import NamePattern.Text.Case.Mapping
import NamePattern.Text.Case.Context

/-!
Lower case by the full, locale-independent Unicode mapping. Two code points need more than a table:
the dotted capital I becomes two code points, and a capital sigma at the end of a word becomes the
final small sigma.
-/

namespace NamePattern.Text

/-- Whether the first code point that is not passed over is cased. -/
def meetsCased (ps : List Nat) : Bool :=
  match ps.dropWhile (inRanges caseIgnorableRanges) with
  | [] => false
  | p :: _ => inRanges casedRanges p

/-- The lower case of the code points `ps` where `seen`, nearest first, stand before them. -/
def lowerPoints (seen : List Nat) : List Nat → List Nat
  | [] => []
  | p :: rest =>
    let mapped :=
      if p = 0x130 then [0x69, 0x307]
      else if p = 0x3A3 then
        if meetsCased seen && !meetsCased rest then [0x3C2] else [0x3C3]
      else [CaseRun.apply lowerRuns p]
    mapped ++ lowerPoints (p :: seen) rest

/-- The lower case of a text. -/
def lower (t : Text) : Text := ofPoints (lowerPoints [] t.points)

/-- Whether a text comes before another in the order of their code units. -/
def before (a b : Text) : Bool := decide (a < b)

end NamePattern.Text
