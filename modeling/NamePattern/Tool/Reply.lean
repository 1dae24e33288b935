import NamePattern.Render
import NamePattern.Tool.Request

/-!
Replies of the tool: a payload, or the reason why there is none. Nothing that a pattern says is ever such a
reason, since a field that fails puts out its own text. A name that there is no room for is one, though, and so
is the text of the reply itself: either stops the request.
-/

namespace NamePattern.Tool

/-- The name given to an item, with the names of its groups and of the item itself. -/
structure NamedItem where
  path : List Text
  name : Text
  deriving DecidableEq

/-- What an action gives. -/
inductive Payload
  | fields (specs : List FieldSpec)
  | pattern (p : Pattern)
  | names (items : List NamedItem)
  | field (name : Option Text)

/-- Why a request is not carried out. -/
inductive Refusal
  | invalidArguments (issues : List Issue)
  | missing (action : Action) (argument : Text)
  | invalidOptions (issues : List Issue)
  | invalidLayers (error : LayerTreeError)
  | stopped (error : PassError)

/-- What is wrong with the layers of a request. -/
def layersMessage : LayerTreeError → Text
  | .duplicateId id => text "Layer id " ++ id.toText ++ text " is used by more than one layer."
  | .unknownParent id _ =>
    text "Layer " ++ id.toText ++ text " refers to a parent layer that does not exist."
  | .notAGroup id =>
    text "Layer " ++ id.toText ++ text " is not a group layer and cannot be a parent."
  | .cycle id =>
    text "Layer " ++ id.toText
      ++ text " is not reachable from a root layer. Layer parents must form a tree."

/-- The text of a refusal. -/
def Refusal.message : Refusal → Text
  | .invalidArguments issues => text "Invalid argument: " ++ issuesMessage issues
  | .missing action argument =>
    text "Invalid argument: filename_pattern " ++ action.toText ++ text " requires \"" ++ argument
      ++ text "\"."
  | .invalidOptions issues => text "Invalid render options: " ++ issuesMessage issues
  | .invalidLayers error => layersMessage error
  | .stopped error => error.message

/-- An argument that an action cannot do without. -/
def need {α : Type} (action : Action) (name : String) (argument : Option α) : Except Refusal α :=
  match argument with
  | some a => .ok a
  | none => .error (.missing action (text name))

/-- The names of items, in their order. -/
def namedItems (items : List Item) (names : List Text) : List NamedItem :=
  List.zipWith (fun item name => ⟨item.path ++ [item.name], name⟩) items names

/-- Names the layers of a request in a room. The pass checks its options once more. -/
def renderLayers (room : Room) (now : Option Instant) (request : Request) :
    Except Refusal Payload := do
  let source ← need .render "pattern" request.pattern
  let layers ← need .render "layers" request.layers
  match RenderOptions.resolve request.options with
  | .invalid issues => .error (.invalidOptions issues)
  | .valid options =>
    match Layer.flatten layers (request.image.getD {}) (request.includeGroups.getD false) with
    | .error error => .error (.invalidLayers error)
    | .ok items =>
      match room.renderWith .builtin (Pattern.read .builtin source) items (some options.toJson) now with
      | .error error => .error (.stopped error)
      | .ok names => .ok (.names (namedItems items names))

/-- Finds the field at the position of a request. -/
def findField (request : Request) : Except Refusal Payload := do
  let source ← need .fieldAt "pattern" request.pattern
  let position ← need .fieldAt "position" request.position
  .ok (.field (Pattern.nameAt? source position))

/-- Carries out a request in a room and at a time. -/
def perform (room : Room) (now : Option Instant) (request : Request) : Except Refusal Payload :=
  match request.action with
  | .fields => .ok (.fields Registry.builtin.specs)
  | .parse => (need .parse "pattern" request.pattern).map fun source =>
      .pattern (Pattern.read .builtin source)
  | .render => renderLayers room now request
  | .fieldAt => findField request

/-- Texts as a value. -/
def textList (ts : List Text) : Json := .array (ts.map .string)

/-- A description as a value. -/
def specJson (spec : FieldSpec) : Json :=
  .record [("kind", .string spec.kind.toText),
    ("displayName", .string spec.displayName),
    ("insertText", .string spec.insertText),
    ("minArgs", .ofNat spec.minArgs),
    ("maxArgs", .ofOption (spec.maxArgs.map .ofNat)),
    ("examples", .string (formatExamples spec.examples))]

/-- A segment as a value. -/
def segmentJson : Segment → Json
  | .literal t => .record [("type", .string (text "literal")), ("text", .string t)]
  | .field call group =>
    .record [("type", .string (text "field")),
      ("name", .string call.name),
      ("args", textList call.args),
      ("source", .string group.source),
      ("start", .ofNat group.start),
      ("end", .ofNat group.stop)]

/-- A pattern as a value. -/
def patternJson (pattern : Pattern) : Json :=
  .record [("source", .string pattern.source),
    ("segments", .array (pattern.segments.map segmentJson))]

/-- A payload as a value. -/
def Payload.toJson : Payload → Json
  | .fields specs => .record [("fields", .array (specs.map specJson))]
  | .pattern p => patternJson p
  | .names items =>
    .record [("names", .array (items.map fun item =>
      .record [("path", textList item.path), ("name", .string item.name)]))]
  | .field name => .record [("field", .ofOption (name.map .string))]

/-- The text that is handed on: that of the payload as a value, or the one that says why there is none. -/
def replyText : Except Refusal Payload → Text
  | .ok payload => payload.toJson.toText
  | .error refusal => refusal.message

/-- Hands on what a request comes to in a room, if there is room for its text. -/
def respond (room : Room) (found : Except Refusal Payload) : Except Refusal Payload :=
  if room.holds (replyText found).length then found else .error (.stopped (.fault .tooLong))

/-- What some arguments come to in a room and at a time. -/
def answer (room : Room) (now : Option Instant) (args : Option Json) : Except Refusal Payload :=
  match Request.ofJson args with
  | .invalid issues => .error (.invalidArguments issues)
  | .valid request => perform room now request

/-- The reply to some arguments in a room and at a time. -/
def replyIn (room : Room) (now : Option Instant) (args : Option Json) : Except Refusal Payload :=
  respond room (answer room now args)

/-- The reply to some arguments at a time. -/
def reply (now : Option Instant) (args : Option Json) : Except Refusal Payload :=
  replyIn .host now args

end NamePattern.Tool
