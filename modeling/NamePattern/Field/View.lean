import NamePattern.Field.Arguments
import NamePattern.Pass

/-!
What fields other than numbers may look at: the item, the options and the clock. None of them changes
anything.
-/

namespace NamePattern

/-- What a field is evaluated for. -/
structure View where
  item : Item
  options : RenderOptions
  now : Option Instant

/-- The view of an item in a pass. -/
def PassState.view (state : PassState) (item : Item) : View := ⟨item, state.options, state.now⟩

/-- Evaluates a field by its description, the reading of its arguments and its value. -/
def evaluateBy {α : Type} (spec : FieldSpec) (read : List Text → Except ArgumentFault α)
    (value : View → α → FieldResult) (view : View) (raw : List Text) : FieldResult :=
  match parseArguments spec read raw with
  | .ok args => value view args
  | .error failure => .error failure

end NamePattern
