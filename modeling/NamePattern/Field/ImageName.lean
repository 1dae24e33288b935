import NamePattern.FileName
import NamePattern.Field.View

/-!
The image name, without its extension unless `%e` is given. An image that was never saved goes by the
name in the options.
-/

namespace NamePattern.ImageName

/-- The description of the field. -/
def spec : FieldSpec where
  kind := .imageName
  name := text "image name"
  displayName := text "Image name"
  insertText := text "[image name]"
  minArgs := 0
  maxArgs := some 1
  examples :=
    [note "Suppose that the image is named \"Image.xcf\".",
      usage "[image name]" "Image",
      usage "[image name, %e]" "Image.xcf"]

/-- Reads whether the extension is kept. -/
def readKeep (args : List Text) : Except ArgumentFault Bool :=
  match args with
  | [] => .ok false
  | arg :: _ => if arg = ExtensionMode.always.toText then .ok true else .error .imageExtension

/-- The value of the field. -/
def value (view : View) (keep : Bool) : FieldResult :=
  let name := view.item.image.name.getD view.options.untitledImageName
  .ok (if keep then name else replaceExtension name [])

/-- Evaluates the field. -/
def evaluate : View → List Text → FieldResult := evaluateBy spec readKeep value

end NamePattern.ImageName
