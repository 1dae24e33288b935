import NamePattern.Number.Shortest

/-!
JSON values and their compact text. Objects keep the order of their keys; `Json.ofFields` builds an
object in the order in which a reader sees it, array indices first.
-/

namespace NamePattern

/-- A JSON value. -/
inductive Json
  | null
  | bool (value : Bool)
  | number (value : Binary64)
  | string (value : Text)
  | array (items : List Json)
  | object (fields : List (Text × Json))

instance : Inhabited Json := ⟨.null⟩

/-- The lower-case hexadecimal digit of a number below sixteen. -/
def hexDigit (n : Nat) : CodeUnit := if n < 10 then digit n else UInt16.ofNat (0x61 + n - 10)

/-- A unit as a four-digit escape. -/
def escapeUnit (u : CodeUnit) : Text :=
  let n := u.toNat
  [unit '\\', unit 'u', hexDigit (n / 0x1000), hexDigit (n / 0x100 % 0x10),
    hexDigit (n / 0x10 % 0x10), hexDigit (n % 0x10)]

/-- A unit that has its own meaning within quotes, or that no text may hold, in its quoted form. -/
def quoteUnit (u : CodeUnit) : Text :=
  if u = unit '"' || u = unit '\\' then [unit '\\', u]
  else if u = 0x08 then text "\\b"
  else if u = 0x09 then text "\\t"
  else if u = 0x0A then text "\\n"
  else if u = 0x0C then text "\\f"
  else if u = 0x0D then text "\\r"
  else if u < 0x20 || isLead u || isTrail u then escapeUnit u
  else [u]

/-- The units of a text in their quoted form; the two halves of a pair stay as they are. -/
def quotedUnits : Text → Text
  | [] => []
  | [u] => quoteUnit u
  | u :: v :: rest =>
    if isLead u && isTrail v then u :: v :: quotedUnits rest
    else quoteUnit u ++ quotedUnits (v :: rest)

/-- A text in quotes. -/
def quoted (t : Text) : Text := unit '"' :: (quotedUnits t ++ [unit '"'])

namespace Json

mutual

/-- The compact text of a value. -/
def toText : Json → Text
  | .null => text "null"
  | .bool true => text "true"
  | .bool false => text "false"
  | .number x =>
    match x with
    | .finite _ => x.toText
    | _ => text "null"
  | .string t => quoted t
  | .array items => unit '[' :: (Text.joined [unit ','] (itemTexts items) ++ [unit ']'])
  | .object fields => 0x7B :: (Text.joined [unit ','] (fieldTexts fields) ++ [0x7D])

/-- The texts of the items of an array. -/
def itemTexts : List Json → List Text
  | [] => []
  | item :: rest => item.toText :: itemTexts rest

/-- The texts of the fields of an object. -/
def fieldTexts : List (Text × Json) → List Text
  | [] => []
  | (key, value) :: rest => (quoted key ++ unit ':' :: value.toText) :: fieldTexts rest

end

/-- The largest number that is an array index. -/
def lastIndex : Nat := 4294967294

/-- The array index that a key spells, in its shortest form. -/
def arrayIndex? (key : Text) : Option Nat :=
  if key.isNumeral && key = Text.ofNat key.toNat && key.toNat ≤ lastIndex then some key.toNat
  else none

/-- Sets a field: in place if the key is there, else at the end. -/
def setField (fields : List (Text × Json)) (key : Text) (value : Json) : List (Text × Json) :=
  if fields.any fun f => f.1 = key then
    fields.map fun f => if f.1 = key then (key, value) else f
  else fields ++ [(key, value)]

/-- The fields in the order in which they are seen: array indices ascending, then the other keys as
they were first set. -/
def seenFields (fields : List (Text × Json)) : List (Text × Json) :=
  let distinct := fields.foldl (fun seen f => setField seen f.1 f.2) []
  let indexed := distinct.filterMap fun f => (arrayIndex? f.1).map fun i => (i, f)
  let named := distinct.filter fun f => (arrayIndex? f.1).isNone
  (indexed.mergeSort fun a b => a.1 ≤ b.1).map Prod.snd ++ named

/-- The object with the given fields, a later one replacing an earlier one of the same key. -/
def ofFields (fields : List (Text × Json)) : Json := .object (seenFields fields)

/-- The value of a key, if the value is an object that has it. -/
def get? (value : Json) (key : Text) : Option Json :=
  match value with
  | .object fields => (fields.find? fun f => f.1 = key).map Prod.snd
  | _ => none

/-- An object with keys given as strings, in their order. -/
def record (fields : List (String × Json)) : Json :=
  .object (fields.map fun (key, value) => (text key, value))

/-- The number of a natural number. -/
def ofNat (n : Nat) : Json := .number n

/-- The value itself, or null. -/
def ofOption (value : Option Json) : Json := value.getD .null

end Json

end NamePattern
