import NamePattern.FileName
import NamePattern.Field.View

/-!
The layer name: without its extension, with any extension (`%e`), or with its extension if that is
the target one (`%i`).
-/

namespace NamePattern.LayerName

/-- The description of the field. -/
def spec : FieldSpec where
  kind := .layerName
  name := text "layer name"
  displayName := text "Layer name"
  insertText := text "[layer name]"
  minArgs := 0
  maxArgs := some 1
  examples :=
    [note "Suppose that a layer is named \"Frame.png\" and the file extension is \"png\".",
      usage "[layer name]" "Frame",
      usage "[layer name, %e]" "Frame.png",
      usage "[layer name, %i]" "Frame.png",
      note "Suppose that a layer is named \"Frame.jpg\".",
      usage "[layer name]" "Frame",
      usage "[layer name, %e]" "Frame.jpg",
      usage "[layer name, %i]" "Frame"]

/-- Reads the mode. -/
def readMode (args : List Text) : Except ArgumentFault (Option ExtensionMode) :=
  match args with
  | [] => .ok none
  | arg :: _ =>
    match ExtensionMode.ofText? arg with
    | some mode => .ok (some mode)
    | none => .error (.extensionMode arg)

/-- The value of the field. -/
def value (view : View) (mode : Option ExtensionMode) : FieldResult :=
  .ok (ExtensionMode.apply mode view.item.name view.options.fileExtension)

/-- Evaluates the field. -/
def evaluate : View → List Text → FieldResult := evaluateBy spec readMode value

end NamePattern.LayerName
