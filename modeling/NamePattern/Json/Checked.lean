import NamePattern.Json.Basic

/-!
Checking JSON values. A reader takes a value, or nothing where a key is missing, and gives what it
read or every issue it found, each with the path to it. Readers are put together by applicative
combination, which keeps the issues of all parts in their order.
-/

namespace NamePattern

/-- A step into a value. -/
inductive PathStep
  | key (name : Text)
  | index (i : Nat)
  deriving DecidableEq

/-- The text of a step. -/
def PathStep.toText : PathStep → Text
  | .key name => name
  | .index i => Text.ofNat i

/-- What a value is or should be. -/
inductive JsonType
  | string | number | integer | float | boolean | array | object | null | missing
  deriving DecidableEq

/-- The name of a type. -/
def JsonType.toText : JsonType → Text
  | .string => text "string"
  | .number => text "number"
  | .integer => text "integer"
  | .float => text "float"
  | .boolean => text "boolean"
  | .array => text "array"
  | .object => text "object"
  | .null => text "null"
  | .missing => text "undefined"

/-- The type of a value that may be missing. -/
def JsonType.ofValue? : Option Json → JsonType
  | none => .missing
  | some .null => .null
  | some (.bool _) => .boolean
  | some (.number _) => .number
  | some (.string _) => .string
  | some (.array _) => .array
  | some (.object _) => .object

/-- What is wrong with a value. -/
inductive IssueCause
  | wrongType (expected received : JsonType)
  | notListed (options : List Text) (received : Text)
  | notAListedText (options : List Text) (received : JsonType)
  | belowZero
  | tooShort (least : Nat)
  | unknownKeys (keys : List Text)
  deriving DecidableEq

/-- Texts in single quotes with a separator between them. -/
def quotedList (separator : Text) (ts : List Text) : Text :=
  Text.joined separator (ts.map fun t => unit '\'' :: (t ++ [unit '\'']))

/-- The listed options as they are named in messages. -/
def optionList (options : List Text) : Text := quotedList (text " | ") options

/-- The text of a cause. -/
def IssueCause.message : IssueCause → Text
  | .wrongType expected received =>
    if received = .missing then text "Required"
    else text "Expected " ++ expected.toText ++ text ", received " ++ received.toText
  | .notListed options received =>
    text "Invalid enum value. Expected " ++ optionList options ++ text ", received '"
      ++ received ++ text "'"
  | .notAListedText options received =>
    if received = .missing then text "Required"
    else text "Expected " ++ optionList options ++ text ", received " ++ received.toText
  | .belowZero => text "Number must be greater than or equal to 0"
  | .tooShort least =>
    text "String must contain at least " ++ Text.ofNat least ++ text " character(s)"
  | .unknownKeys keys =>
    text "Unrecognized key(s) in object: " ++ quotedList (text ", ") keys

/-- A cause with the path to the value. -/
structure Issue where
  path : List PathStep
  cause : IssueCause
  deriving DecidableEq

/-- The text of an issue: its path, unless that is empty, and its cause. -/
def Issue.message (issue : Issue) : Text :=
  if issue.path.isEmpty then issue.cause.message
  else Text.joined (text ".") (issue.path.map PathStep.toText) ++ text ": " ++ issue.cause.message

/-- The text of several issues. -/
def issuesMessage (issues : List Issue) : Text :=
  Text.joined (text "; ") (issues.map Issue.message)

/-- What a check gives: a value, or all issues. -/
inductive Checked (α : Type)
  | valid (value : α)
  | invalid (issues : List Issue)

namespace Checked

/-- A function and its argument, checked apart; the issues of both are kept. -/
def seq {α β : Type} (f : Checked (α → β)) (a : Checked α) : Checked β :=
  match f, a with
  | .valid f, .valid a => .valid (f a)
  | .valid _, .invalid issues => .invalid issues
  | .invalid issues, .valid _ => .invalid issues
  | .invalid issues, .invalid more => .invalid (issues ++ more)

instance : Applicative Checked where
  pure := .valid
  seq f a := seq f (a ())

end Checked

/-- Reads a value found at a path, which may be missing. -/
abbrev Reader (α : Type) := List PathStep → Option Json → Checked α

namespace Reader

/-- A single issue. -/
def fail {α : Type} (path : List PathStep) (cause : IssueCause) : Checked α :=
  .invalid [⟨path, cause⟩]

/-- Reads a text. -/
def string : Reader Text := fun path value =>
  match value with
  | some (.string t) => .valid t
  | _ => fail path (.wrongType .string (.ofValue? value))

/-- Reads a text that is not empty. -/
def nonemptyString : Reader Text := fun path value =>
  match string path value with
  | .valid t => if t.isEmpty then fail path (.tooShort 1) else .valid t
  | .invalid issues => .invalid issues

/-- Reads a truth value. -/
def boolean : Reader Bool := fun path value =>
  match value with
  | some (.bool b) => .valid b
  | _ => fail path (.wrongType .boolean (.ofValue? value))

/-- Reads a number that meets some conditions, each with the cause if it fails. -/
def number (conditions : List ((Binary64 → Bool) × IssueCause)) : Reader Binary64 :=
  fun path value =>
    match value with
    | some (.number x) =>
      match conditions.filter fun condition => !condition.1 x with
      | [] => .valid x
      | failed => .invalid (failed.map fun condition => ⟨path, condition.2⟩)
    | _ => fail path (.wrongType .number (.ofValue? value))

/-- The condition of being whole. -/
def whole : (Binary64 → Bool) × IssueCause := (Binary64.isInteger, .wrongType .integer .float)

/-- The condition of not being negative. -/
def notNegative : (Binary64 → Bool) × IssueCause := (fun x => !x.isNegative, .belowZero)

/-- Reads a whole number. -/
def integer : Reader Binary64 := number [whole]

/-- Reads a whole number that is not negative. -/
def natural : Reader Binary64 := number [whole, notNegative]

/-- Reads one of some listed texts as what it stands for. -/
def listed {α : Type} (options : List (Text × α)) : Reader α := fun path value =>
  match value with
  | some (.string t) =>
    match options.find? fun option => option.1 = t with
    | some option => .valid option.2
    | none => fail path (.notListed (options.map Prod.fst) t)
  | _ => fail path (.notAListedText (options.map Prod.fst) (.ofValue? value))

/-- Reads a value that may be missing. -/
def optional {α : Type} (read : Reader α) : Reader (Option α) := fun path value =>
  match value with
  | none => .valid none
  | some _ => some <$> read path value

/-- Reads a value with a default for a missing one. -/
def withDefault {α : Type} (default : α) (read : Reader α) : Reader α := fun path value =>
  match value with
  | none => .valid default
  | some _ => read path value

/-- Reads a value that may be null. -/
def nullable {α : Type} (read : Reader α) : Reader (Option α) := fun path value =>
  match value with
  | some .null => .valid none
  | _ => some <$> read path value

/-- Reads the items of an array from an index on. -/
def itemsFrom {α : Type} (read : Reader α) (path : List PathStep) (i : Nat) :
    List Json → Checked (List α)
  | [] => .valid []
  | item :: rest =>
    List.cons <$> read (path ++ [.index i]) (some item) <*> itemsFrom read path (i + 1) rest

/-- Reads an array. -/
def array {α : Type} (read : Reader α) : Reader (List α) := fun path value =>
  match value with
  | some (.array items) => itemsFrom read path 0 items
  | _ => fail path (.wrongType .array (.ofValue? value))

/-- Reads the key of an object. -/
def field {α : Type} (object : Json) (path : List PathStep) (name : String) (read : Reader α) :
    Checked α :=
  read (path ++ [.key (text name)]) (object.get? (text name))

/-- Reads an object by a reader of its fields. -/
def object {α : Type} (fields : List PathStep → Json → Checked α) : Reader α := fun path value =>
  match value with
  | some (.object entries) => fields path (.object entries)
  | _ => fail path (.wrongType .object (.ofValue? value))

/-- The issue of keys that an object must not have. -/
def noOtherKeys (known : List Text) (object : Json) (path : List PathStep) : Checked Unit :=
  match object with
  | .object entries =>
    match (entries.map Prod.fst).filter fun key => !known.contains key with
    | [] => .valid ()
    | keys => fail path (.unknownKeys keys)
  | _ => .valid ()

/-- Reads an object with any keys and values; the key `__proto__` is not kept. -/
def record : Reader Json := fun path value =>
  match value with
  | some (.object entries) =>
    .valid (.object (entries.filter fun entry => entry.1 ≠ text "__proto__"))
  | _ => fail path (.wrongType .object (.ofValue? value))

end Reader

end NamePattern
