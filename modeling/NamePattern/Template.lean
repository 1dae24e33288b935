import NamePattern.Text.Basic

/-!
Templates with percent tokens. A template is first parsed into literal text and token names, which
depends on the known names alone, and then filled in, so that no value is ever read again. Two percent
signs stand for one; a name may stand between braces; without braces the longest known name that
follows is taken; any other percent sign stands for itself.
-/

namespace NamePattern

/-- The percent sign, which begins a token. -/
def percent : CodeUnit := unit '%'

/-- The braces around the name of a token. -/
def openBrace : CodeUnit := 0x7B
def closeBrace : CodeUnit := 0x7D

/-- A part of a template: a unit of literal text, or a token by its name. -/
inductive TemplatePart
  | literal (u : CodeUnit)
  | token (name : Text)
  deriving DecidableEq

/-- The longer of a name and the one found so far. -/
def longerName (found : Option Text) (name : Text) : Option Text :=
  match found with
  | none => some name
  | some other => if other.length < name.length then some name else some other

/-- The longest of some names that a text begins with. -/
def longestName? (names : List Text) (t : Text) : Option Text :=
  (names.filter fun name => name.isPrefixOf t).foldl longerName none

/-- The known name between braces that a text begins with, and the text after the closing brace. -/
def bracedName? (names : List Text) (t : Text) : Option (Text × Text) :=
  match t with
  | [] => none
  | u :: rest =>
    if u = openBrace then
      match Text.cutAt closeBrace rest with
      | (name, some after) => if names.contains name then some (name, after) else none
      | (_, none) => none
    else none

/-- What follows a braced name is shorter than what began with it. -/
theorem length_after_bracedName {names : List Text} {t name after : Text}
    (h : bracedName? names t = some (name, after)) : after.length < t.length := by
  unfold bracedName? at h
  split at h
  · simp at h
  · next u rest =>
    split at h
    · split at h
      · next cut _ hcut =>
        have shorter := Text.length_after_cut hcut
        split at h
        · simp_all only [Option.some.injEq, Prod.mk.injEq, List.length_cons]
          obtain ⟨_, rfl⟩ := h
          omega
        · simp at h
      · simp at h
    · simp at h

/-- The parts of a template, where `names` are the known tokens. -/
def parseTemplate (names : List Text) (t : Text) : List TemplatePart :=
  match t with
  | [] => []
  | u :: rest =>
    if u ≠ percent then .literal u :: parseTemplate names rest
    else if rest.head? = some percent then .literal percent :: parseTemplate names rest.tail
    else
      match _h : bracedName? names rest with
      | some (name, after) => .token name :: parseTemplate names after
      | none =>
        match longestName? names rest with
        | some name => .token name :: parseTemplate names (rest.drop name.length)
        | none => .literal percent :: parseTemplate names rest
termination_by t.length
decreasing_by
  all_goals simp only [List.length_cons, List.length_tail, List.length_drop]
  · omega
  · omega
  · have shorter := length_after_bracedName _h
    omega
  · omega
  · omega

/-- The text of a part under some values. -/
def TemplatePart.fill (values : List (Text × Text)) : TemplatePart → Text
  | .literal u => [u]
  | .token name => ((values.find? fun v => v.1 = name).map Prod.snd).getD []

/-- A template with its tokens replaced by their values. -/
def expandTemplate (values : List (Text × Text)) (t : Text) : Text :=
  (parseTemplate (values.map Prod.fst) t).flatMap (TemplatePart.fill values)

end NamePattern
