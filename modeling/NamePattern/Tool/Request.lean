import NamePattern.Json.Checked
import NamePattern.LayerTree

/-!
Requests to the tool, read from JSON. A request names an action; what else that action needs is looked
at when it is carried out, so every other field may be missing.
-/

namespace NamePattern.Tool

/-- What the tool is asked to do. -/
inductive Action
  | fields | parse | render | fieldAt
  deriving DecidableEq

/-- The name of an action. -/
def Action.toText : Action → Text
  | .fields => text "fields"
  | .parse => text "parse"
  | .render => text "render"
  | .fieldAt => text "field_at"

/-- All actions in the order in which messages list them. -/
def Action.all : List Action := [.fields, .parse, .render, .fieldAt]

/-- A request. -/
structure Request where
  action : Action
  pattern : Option Text
  layers : Option (List Layer)
  image : Option ImageInfo
  includeGroups : Option Bool
  options : Option Json
  position : Option Binary64

/-- Reads the kind of a layer. -/
def kindReader : Reader LayerKind :=
  .listed [(text "layer", .pixels), (text "group", .group)]

/-- Reads a layer. -/
def layerReader : Reader Layer :=
  .object fun path object =>
    (fun id name kind parent tags width height x y =>
        ⟨id, name, kind, parent, tags.getD [], width, height, x, y⟩)
      <$> Reader.field object path "id" .integer
      <*> Reader.field object path "name" .string
      <*> Reader.field object path "type" kindReader
      <*> Reader.field object path "parent_id" (.optional .integer)
      <*> Reader.field object path "tags" (.optional (.array .string))
      <*> Reader.field object path "width" (.withDefault 0 .natural)
      <*> Reader.field object path "height" (.withDefault 0 .natural)
      <*> Reader.field object path "x" (.withDefault 0 .integer)
      <*> Reader.field object path "y" (.withDefault 0 .integer)

/-- Reads an image. -/
def imageReader : Reader ImageInfo :=
  .object fun path object =>
    ImageInfo.mk
      <$> Reader.field object path "name" (.withDefault none (.nullable .string))
      <*> Reader.field object path "width" (.withDefault 0 .natural)
      <*> Reader.field object path "height" (.withDefault 0 .natural)

/-- Reads an action. -/
def actionReader : Reader Action := .listed (Action.all.map fun action => (action.toText, action))

/-- Reads a request. -/
def requestReader : Reader Request :=
  .object fun path object =>
    Request.mk
      <$> Reader.field object path "action" actionReader
      <*> Reader.field object path "pattern" (.optional .string)
      <*> Reader.field object path "layers" (.optional (.array layerReader))
      <*> Reader.field object path "image" (.optional imageReader)
      <*> Reader.field object path "include_groups" (.optional .boolean)
      <*> Reader.field object path "options" (.optional .record)
      <*> Reader.field object path "position" (.optional .integer)

/-- The request that some arguments make. -/
def Request.ofJson (args : Option Json) : Checked Request := requestReader [] args

end NamePattern.Tool
