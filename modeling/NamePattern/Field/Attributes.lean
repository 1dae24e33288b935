import NamePattern.Number.Fixed
import NamePattern.Template
import NamePattern.Field.View

/-!
The size and the position of an item and the size of its image, put into a template: in pixels, or
the item's own as fractions of the image.
-/

namespace NamePattern.Attributes

/-- The description of the field. -/
def spec : FieldSpec where
  kind := .attributes
  name := text "attributes"
  displayName := text "Attributes"
  insertText := text "[attributes]"
  minArgs := 1
  maxArgs := some 2
  examples :=
    [[text "Suppose that a layer has width, height, x-offset and y-offset of 1000, 270, 0 and 40 pixels, "
        ++ text "respectively, and the image has width and height of 1000 and 500 pixels, respectively."],
      usage "[attributes, %w-%h-%x-%y]" "1000-270-0-40",
      usage "[attributes, %w-%h-%x-%y, %pc]" "1.0-0.54-0.0-0.08",
      usage "[attributes, %w-%h-%x-%y, %pc1]" "1.0-0.5-0.0-0.1",
      usage "[attributes, %iw-%ih]" "1000-500"]

/-- The unit in which items are measured. -/
inductive Measure
  | pixels
  | fractions (places : Nat)
  deriving DecidableEq

/-- The places of a fraction if none are given. -/
def defaultPlaces : Nat := 2

/-- The measure that an argument asks for. -/
def Measure.ofText? (arg : Text) : Option Measure :=
  let fractions := text "%pc"
  if arg = text "%px" then some .pixels
  else if fractions.isPrefixOf arg then
    let digits := arg.drop fractions.length
    if digits.isEmpty then some (.fractions defaultPlaces)
    else if digits.all isDigit then some (.fractions (Text.toNat digits)) else none
  else none

/-- A template and the measure of its values. -/
structure Layout where
  template : Text
  measure : Measure
  deriving DecidableEq

/-- Reads the layout. -/
def readLayout (args : List Text) : Except ArgumentFault Layout :=
  match args with
  | [] => .ok ⟨[], .pixels⟩
  | [template] => .ok ⟨template, .pixels⟩
  | template :: arg :: _ =>
    match Measure.ofText? arg with
    | some measure => .ok ⟨template, measure⟩
    | none => .error .unreadable

/-- The values of an item, where `across` and `along` write its measures. -/
def values (item : Item) (across along : Binary64 → Text) : List (Text × Text) :=
  [(text "iw", item.image.width.toText), (text "ih", item.image.height.toText),
    (text "w", across item.width), (text "h", along item.height),
    (text "x", across item.x), (text "y", along item.y)]

/-- The value of the field. An image without area has no fractions. -/
def value (view : View) (layout : Layout) : FieldResult :=
  let item := view.item
  match layout.measure with
  | .pixels => .ok (expandTemplate (values item Binary64.toText Binary64.toText) layout.template)
  | .fractions places =>
    if item.image.width = 0 || item.image.height = 0 then .error .noArea
    else
      let across (x : Binary64) : Text := (x / item.image.width).toFraction places
      let along (y : Binary64) : Text := (y / item.image.height).toFraction places
      .ok (expandTemplate (values item across along) layout.template)

/-- Evaluates the field. -/
def evaluate : View → List Text → FieldResult := evaluateBy spec readLayout value

end NamePattern.Attributes
