import NamePattern.Json.Checked

/-!
Render options: the target file extension, the format of dates and the name of images without one.
-/

namespace NamePattern

/-- The options of a pass. -/
structure RenderOptions where
  fileExtension : Text := text "png"
  dateFormat : Text := text "%Y-%m-%d"
  untitledImageName : Text := text "Untitled"
  deriving DecidableEq

namespace RenderOptions

/-- The keys that options may have. -/
def keys : List Text := [text "fileExtension", text "dateFormat", text "untitledImageName"]

/-- Reads options. Missing ones have their defaults; other keys are refused. -/
def reader : Reader RenderOptions :=
  Reader.object fun path object =>
    (fun fileExtension dateFormat untitledImageName _ =>
        ⟨fileExtension, dateFormat, untitledImageName⟩)
      <$> Reader.field object path "fileExtension" (.withDefault ({} : RenderOptions).fileExtension .string)
      <*> Reader.field object path "dateFormat"
        (.withDefault ({} : RenderOptions).dateFormat .nonemptyString)
      <*> Reader.field object path "untitledImageName"
        (.withDefault ({} : RenderOptions).untitledImageName .string)
      <*> Reader.noOtherKeys keys object path

/-- The options that a value gives. A missing value or null gives the defaults. -/
def resolve (value : Option Json) : Checked RenderOptions :=
  match value with
  | none | some .null => reader [] (some (.object []))
  | some value => reader [] (some value)

/-- Options as a value. -/
def toJson (options : RenderOptions) : Json :=
  .record [("fileExtension", .string options.fileExtension),
    ("dateFormat", .string options.dateFormat),
    ("untitledImageName", .string options.untitledImageName)]

end RenderOptions

end NamePattern
