import NamePattern.Tool.Reply

/-!
The server that offers the tool: what it says about itself, and its answers to calls. Arguments are
checked before the tool sees them, and a call that cannot be made is answered like one that fails.
-/

namespace NamePattern.Server

/-- The name of the server. -/
def serverName : Text := text "layer-namer"

/-- The version of the server. -/
def serverVersion : Text := text "1.0.0"

/-- What a server tells of a tool, the names of its arguments in alphabetical order. -/
structure ToolInfo where
  name : Text
  title : Text
  description : Text
  properties : List Text
  required : List Text
  deriving DecidableEq

/-- The tool of the server. -/
def toolInfo : ToolInfo where
  name := text "filename_pattern"
  title := text "Filename pattern"
  description :=
    text "Compose output filenames for image layers from patterns with fields such as [001], [layer name], "
      ++ text "[layer path], [tags], [current date], [attributes] and [replace]. List fields, parse patterns, "
      ++ text "render names for a layer tree, or find the field at a cursor position."
  properties := [text "action", text "image", text "include_groups", text "layers", text "options",
    text "pattern", text "position"]
  required := [text "action"]

/-- Why a call fails. -/
inductive CallError
  | unknownTool (name : Text)
  | invalidArguments (tool : Text) (issues : List Issue)
  | refused (refusal : Tool.Refusal)

/-- The text of a path with a further step: an index in square brackets, a key after a point. -/
def extendPath (path : Text) : PathStep → Text
  | .index i => path ++ unit '[' :: (Text.ofNat i ++ [unit ']'])
  | .key name => if path.isEmpty then name else path ++ unit '.' :: name

/-- The text of a path. -/
def pathText (path : List PathStep) : Text := path.foldl extendPath []

/-- An issue as it is told to callers: its cause, and after it the path, unless that is empty. -/
def issueText (issue : Issue) : Text :=
  if issue.path.isEmpty then issue.cause.message
  else issue.cause.message ++ text " at " ++ pathText issue.path

/-- What begins the text of a call that cannot be made. -/
def invalidCall : Text := text "MCP error -32602: "

/-- The text of a failed call. -/
def CallError.message : CallError → Text
  | .unknownTool name => invalidCall ++ text "Tool " ++ name ++ text " not found"
  | .invalidArguments tool issues =>
    invalidCall ++ text "Input validation error: Invalid arguments for tool " ++ tool ++ text ": "
      ++ Text.joined [0x0A] (issues.map issueText)
  | .refused refusal => refusal.message

/-- The answer to a call of a tool at a time. -/
def call (now : Option Instant) (tool : Text) (args : Option Json) :
    Except CallError Tool.Payload :=
  if tool = toolInfo.name then
    match Tool.Request.ofJson args with
    | .invalid issues => .error (.invalidArguments tool issues)
    | .valid request =>
      match Tool.respond .host (Tool.perform .host now request) with
      | .ok payload => .ok payload
      | .error refusal => .error (.refused refusal)
  else .error (.unknownTool tool)

end NamePattern.Server
