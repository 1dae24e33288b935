import NamePattern.FileName
import NamePattern.Template
import NamePattern.Field.View

/-!
The layer path: the names of the groups around an item and of the item itself, joined by a separator,
each within a wrapper. A wrapper that has no place for a name is ignored. The extension mode applies
to the item's own name.
-/

namespace NamePattern.LayerPath

/-- The description of the field. -/
def spec : FieldSpec where
  kind := .layerPath
  name := text "layer path"
  displayName := text "Layer path"
  insertText := text "[layer path]"
  minArgs := 0
  maxArgs := some 3
  examples :=
    [note "Suppose that a layer named \"Left\" has parent groups named \"Hands\" and \"Body\".",
      usage "[layer path]" "Body-Hands-Left",
      usage "[layer path, _]" "Body_Hands_Left",
      usage "[layer path, _, (%c)]" "(Body)_(Hands)_(Left)",
      note "Suppose that the layer is named \"Left.jpg\" and the file extension is \"png\".",
      usage "[layer path]" "Body-Hands-Left",
      usage "[layer path, -, %c, %e]" "Body-Hands-Left.jpg",
      usage "[layer path, -, %c, %i]" "Body-Hands-Left"]

/-- The place of a name in a wrapper. -/
def placeholder : Text := text "%c"

/-- The name of the token that stands for a name. -/
def tokenName : Text := text "c"

/-- How a path is written. -/
structure Layout where
  separator : Text
  wrapper : Text
  mode : Option ExtensionMode
  deriving DecidableEq

/-- The wrapper that an argument gives. -/
def wrapperOf (arg : Option Text) : Text :=
  match arg with
  | some wrapper => if Text.includes placeholder wrapper then wrapper else placeholder
  | none => placeholder

/-- Reads the extension mode, if there is one. -/
def readMode (args : List Text) : Except ArgumentFault (Option ExtensionMode) :=
  match args with
  | [] => .ok none
  | arg :: _ =>
    match ExtensionMode.ofText? arg with
    | some mode => .ok (some mode)
    | none => .error (.pathExtensionMode arg)

/-- Reads the layout. A lone mode after the separator is not a wrapper. -/
def readLayout (args : List Text) : Except ArgumentFault Layout :=
  let separator := args.head?.getD (text "-")
  match args.tail with
  | [] => .ok ⟨separator, wrapperOf none, none⟩
  | [arg] =>
    match ExtensionMode.ofText? arg with
    | some mode => .ok ⟨separator, wrapperOf none, some mode⟩
    | none => .ok ⟨separator, wrapperOf (some arg), none⟩
  | arg :: rest => (readMode rest).map fun mode => ⟨separator, wrapperOf (some arg), mode⟩

/-- The value of the field. -/
def value (view : View) (layout : Layout) : FieldResult :=
  let own := ExtensionMode.apply layout.mode view.item.name view.options.fileExtension
  let wrapped := (view.item.path ++ [own]).map fun name =>
    expandTemplate [(tokenName, name)] layout.wrapper
  .ok (Text.joined layout.separator wrapped)

/-- Evaluates the field. -/
def evaluate : View → List Text → FieldResult := evaluateBy spec readLayout value

end NamePattern.LayerPath
