import NamePattern.Number.Shortest
import NamePattern.Pattern.Bracket

/-!
Patterns written from their parts. `writeParts` takes literal text and raw arguments as they are;
`writtenCall` and `writtenLiteral` double the brackets, so that any text survives being read back.
-/

namespace NamePattern

/-- An argument to be written: a text, or a number by its shortest text. -/
inductive PartArgument
  | content (t : Text)
  | number (x : Binary64)

/-- The text of an argument. -/
def PartArgument.toText : PartArgument → Text
  | .content t => t
  | .number x => x.toText

/-- A part of a pattern to be written. -/
inductive Part
  | literal (content : Text)
  | field (name : Text) (args : List PartArgument)

/-- A field to be written has no name. -/
inductive WriteError
  | unnamedField
  deriving DecidableEq

/-- The text of an error. -/
def WriteError.message : WriteError → Text
  | .unnamedField => text "Fields must have a name to be reconstructed into a pattern."

/-- The text of one part. -/
def Part.write : Part → Except WriteError Text
  | .literal t => .ok t
  | .field name args =>
    if name.isEmpty then .error .unnamedField
    else .ok (bracketed (Text.joined (text ", ") (name :: args.map PartArgument.toText)))

/-- The pattern made of some parts, or the first error among them. -/
def writeParts (parts : List Part) : Except WriteError Text :=
  (parts.mapM Part.write).map List.flatten

/-- The literal form of a text: every bracket doubled. -/
def writtenLiteral (t : Text) : Text := doubleBrackets t

/-- The call of a field with the given argument values, each wrapped with its brackets doubled. A
space keeps the last wrapping bracket apart from the closing one. -/
def writtenCall (name : Text) (values : List Text) : Text :=
  match values with
  | [] => bracketed name
  | _ :: _ =>
    bracketed (name ++ values.flatMap (fun v => text ", " ++ bracketed (doubleBrackets v))
      ++ text " ")

end NamePattern
