import NamePattern.Field.Registry
import NamePattern.Pattern.Segment

/-!
The evaluation of fields on the state of a pass. The number field moves a counter, and a custom field may
do so. The replace field evaluates the field written in its first argument on the same state; what that
one's arguments take up is always less than what its own do, so nested targets come to an end. A field
whose text there is no room for fails, and so does a field that it is the target of.
-/

namespace NamePattern

/-- What stops a pass: a name without a field, or something that breaks, which may be a custom field. -/
inductive Fault
  | unregistered (name : Text)
  | broken (message : Text)
  deriving DecidableEq

/-- The text of a fault. -/
def Fault.message : Fault → Text
  | .unregistered name => text "Field \"" ++ name ++ text "\" is not registered."
  | .broken message => message

/-- The fault of a text that is too long to be built. -/
def Fault.tooLong : Fault := .broken tooLongMessage

namespace CustomField

/-- Evaluates a custom field: its arguments are counted and handed on as they are. -/
def evaluate (field : CustomField) (state : PassState) (item : Item) (name : Text)
    (raw : List Text) : Except Fault FieldResult × PassState :=
  match parseArguments field.spec .ok raw with
  | .error failure => (.ok (.error failure), state)
  | .ok values =>
    match field.answer.run state item name values with
    | (.value t, state) => (.ok (.ok t), state)
    | (.failed reason, state) => (.ok (.error (.refused reason)), state)
    | (.outOfRange message, state) => (.ok (.error (.outOfRange message)), state)
    | (.broken message, state) => (.error (.broken message), state)

end CustomField

/-- Evaluates a built-in field that stands on its own. -/
def FieldKind.evaluatePlain (kind : FieldKind) (view : View) (raw : List Text) : FieldResult :=
  match kind with
  | .layerName => LayerName.evaluate view raw
  | .imageName => ImageName.evaluate view raw
  | .layerPath => LayerPath.evaluate view raw
  | .tags => Tags.evaluate view raw
  | .currentDate => CurrentDate.evaluate view raw
  | .attributes => Attributes.evaluate view raw
  | .number | .replace => .error .numberTarget

/-- Evaluates the number field as it is called by a name. Patterns call it by digits alone. A name that is
no numeral is none that it may be called by, and breaks it where its number would be read. -/
def Number.evaluateNamed (state : PassState) (item : Item) (name : Text) (raw : List Text) :
    Except Fault FieldResult × PassState :=
  match Number.evaluate state item name raw with
  | (.error failure, next) => (.ok (.error failure), next)
  | (.ok t, next) =>
    if name.isNumeral then (.ok (.ok t), next)
    else (.error (.broken (text "Cannot convert " ++ name ++ text " to a BigInt")), state)

namespace Room

/-- A result in a room: a value that is too long for it fails its field. -/
def fit (room : Room) (result : FieldResult) : FieldResult :=
  match result with
  | .ok value => if room.holds value.length then .ok value else .error (.outOfRange tooLongMessage)
  | .error failure => .error failure

/-- An evaluation in a room. What it has done to the state stays done. -/
def fitted (room : Room) (evaluated : Except Fault FieldResult × PassState) :
    Except Fault FieldResult × PassState :=
  (evaluated.1.map room.fit, evaluated.2)

/-- Evaluates a field for an item in a room. A number is no target of a replace field. The state after
the evaluation is given even when the pass has to stop. -/
def evaluate (room : Room) (registry : Registry) (state : PassState) (item : Item) (field : Field)
    (name : Text) (raw : List Text) : Except Fault FieldResult × PassState :=
  match field with
  | .custom definition => room.fitted (definition.evaluate state item name raw)
  | .builtin .number => room.fitted (Number.evaluateNamed state item name raw)
  | .builtin .replace =>
    match _h : parseArguments Replace.spec Replace.readRequest raw with
    | .error failure => (.ok (.error failure), state)
    | .ok request =>
      let call := request.targetCall
      match registry.find? call.name with
      | none => (.ok (.error (.unknownTarget call.name)), state)
      | some target =>
        if target.kind = .number then (.ok (.error .numberTarget), state)
        else
          match room.evaluate registry state item target call.name call.args with
          | (.ok (.ok value), state) => (.ok (room.fit (request.apply value)), state)
          | other => other
  | .builtin kind => room.fitted (.ok (kind.evaluatePlain (state.view item) raw), state)
termination_by totalLength raw
decreasing_by exact Replace.totalLength_targetCall_lt _h

end Room

/-- Evaluates a field for an item where there is room for any text. -/
def evaluate (registry : Registry) (state : PassState) (item : Item) (field : Field) (name : Text)
    (raw : List Text) : Except Fault FieldResult × PassState :=
  Room.unbounded.evaluate registry state item field name raw

end NamePattern
