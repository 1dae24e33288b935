import NamePattern.Text.Decimal

/-!
The kinds of fields, and what a picker is told about each field: its names, the text it inserts, how
many arguments it takes and examples of its use.
-/

namespace NamePattern

/-- The kinds of fields. -/
inductive FieldKind
  | number | layerName | imageName | layerPath | tags | currentDate | attributes | replace
  deriving DecidableEq

namespace FieldKind

/-- All kinds in the order in which they are required. -/
def all : List FieldKind :=
  [.number, .layerName, .imageName, .layerPath, .tags, .currentDate, .attributes, .replace]

/-- The name of a kind. -/
def toText : FieldKind → Text
  | .number => text "number"
  | .layerName => text "layer name"
  | .imageName => text "image name"
  | .layerPath => text "layer path"
  | .tags => text "tags"
  | .currentDate => text "current date"
  | .attributes => text "attributes"
  | .replace => text "replace"

/-- The kind of a name. -/
def ofText? (t : Text) : Option FieldKind := all.find? fun kind => kind.toText = t

end FieldKind

/-- A line of examples: an explanation, or a pattern and what it gives. -/
abbrev ExampleLine := List Text

/-- The description of a field. Without a largest count it takes any number of arguments. -/
structure FieldSpec where
  kind : FieldKind
  name : Text
  displayName : Text
  insertText : Text
  minArgs : Nat
  maxArgs : Option Nat
  examples : List ExampleLine
  deriving DecidableEq

/-- An explanation among examples. -/
def note (t : String) : ExampleLine := [text t]

/-- A pattern and what it gives. -/
def usage (pattern result : String) : ExampleLine := [text pattern, text result]

/-- Examples as a block of help, headed unless it is empty. -/
def formatExamples (examples : List ExampleLine) : Text :=
  if examples.isEmpty then []
  else Text.joined [0x0A] (text "Examples" :: examples.map (Text.joined (text " → ")))

end NamePattern
