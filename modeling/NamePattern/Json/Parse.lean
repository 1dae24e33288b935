import NamePattern.Json.Token

/-!
Reading the text of a value. The state of a reading is what is still open and what may come next, and
each token moves it on; the first token that may not come next ends the reading, and so does a text
that is no token.
-/

namespace NamePattern.Json

/-- An array or object around the value that is read: what it holds so far, the last first, and in an
object the name of that value. -/
inductive Enclosing
  | array (items : List Json)
  | object (fields : List (Text × Json)) (name : Text)

/-- The state of a reading, with all that encloses it, the innermost first. The flag tells whether the
array or object was just opened, so that it may be closed at once. -/
inductive Reading
  | beforeValue (opened : Bool) (within : List Enclosing)
  | beforeName (opened : Bool) (fields : List (Text × Json)) (within : List Enclosing)
  | beforeColon (fields : List (Text × Json)) (name : Text) (within : List Enclosing)
  | afterValue (value : Json) (within : List Enclosing)

namespace Reading

/-- The state after a token; none if the token may not come. -/
def next? : Reading → Token → Option Reading
  | .beforeValue _ within, .scalar value => some (.afterValue value within)
  | .beforeValue _ within, .openArray => some (.beforeValue true (.array [] :: within))
  | .beforeValue _ within, .openObject => some (.beforeName true [] within)
  | .beforeValue true (.array items :: within), .closeArray =>
    some (.afterValue (.array items.reverse) within)
  | .beforeName _ fields within, .scalar (.string name) => some (.beforeColon fields name within)
  | .beforeName true fields within, .closeObject =>
    some (.afterValue (.ofFields fields.reverse) within)
  | .beforeColon fields name within, .colon =>
    some (.beforeValue false (.object fields name :: within))
  | .afterValue value (.array items :: within), .comma =>
    some (.beforeValue false (.array (value :: items) :: within))
  | .afterValue value (.array items :: within), .closeArray =>
    some (.afterValue (.array (value :: items).reverse) within)
  | .afterValue value (.object fields name :: within), .comma =>
    some (.beforeName false ((name, value) :: fields) within)
  | .afterValue value (.object fields name :: within), .closeObject =>
    some (.afterValue (.ofFields ((name, value) :: fields).reverse) within)
  | _, _ => none

/-- The fault where what comes is not what may come. -/
def fault : Reading → Fault
  | .beforeValue _ _ => .unexpected
  | .beforeName true _ _ => .noNameOrEnd
  | .beforeName false _ _ => .noName
  | .beforeColon _ _ _ => .noColon
  | .afterValue _ [] => .afterEnd
  | .afterValue _ (.array _ :: _) => .noItemEnd
  | .afterValue _ (.object _ _ :: _) => .noFieldEnd

/-- Whether a token that begins with a unit may come, so that a fault within it counts. -/
def admits : Reading → CodeUnit → Bool
  | .beforeValue _ _, _ => true
  | .beforeName _ _ _, u => u == unit '"'
  | _, _ => false

end Reading

/-- Whether a unit only separates tokens. -/
def isSeparating (u : CodeUnit) : Bool := u == 0x20 || u == 0x09 || u == 0x0A || u == 0x0D

/-- Reads on from a place of the text, in the state that what stands before it led to. -/
def readFrom (place : Nat) (reading : Reading) : Text → Except (Nat × Fault) Json
  | [] =>
    match reading with
    | .afterValue value [] => .ok value
    | _ => .error (place, reading.fault)
  | u :: rest =>
    if isSeparating u then readFrom (place + 1) reading rest
    else
      match scanToken u rest with
      | .error (before, fault) =>
        .error (if reading.admits u then (place + before, fault) else (place, reading.fault))
      | .ok (size, token) =>
        match reading.next? token with
        | none => .error (place, reading.fault)
        | some reading => readFrom (place + size) reading (rest.drop (size - 1))
termination_by t => t.length

/-- A text that is not the text of a value: where it goes wrong, and how. -/
structure SyntaxError where
  source : Text
  place : Nat
  fault : Fault

/-- The value of a text. -/
def parse (source : Text) : Except SyntaxError Json :=
  match readFrom 0 (.beforeValue false []) source with
  | .ok value => .ok value
  | .error (place, fault) => .error ⟨source, place, fault⟩

/-- What is said of a fault. What is unexpected is named after it. -/
def Fault.toText : Fault → Text
  | .unexpected => text "Unexpected "
  | .noNameOrEnd => text "Expected property name or '\x7d' in JSON"
  | .noName => text "Expected double-quoted property name in JSON"
  | .noColon => text "Expected ':' after property name in JSON"
  | .noItemEnd => text "Expected ',' or ']' after array element in JSON"
  | .noFieldEnd => text "Expected ',' or '\x7d' after property value in JSON"
  | .afterEnd => text "Unexpected non-whitespace character after JSON"
  | .openString => text "Unterminated string in JSON"
  | .controlUnit => text "Bad control character in string literal in JSON"
  | .badEscape => text "Bad escaped character in JSON"
  | .badUnicodeEscape => text "Bad Unicode escape in JSON"
  | .noDigits => text "No number after minus sign in JSON"
  | .noFraction => text "Unterminated fractional number in JSON"
  | .noExponent => text "Exponent part is missing a number in JSON"

/-- The lines of a text that end before its last one. A return and a line feed end a line together. -/
def endedLines : Text → Nat
  | [] => 0
  | [u] => if u = 0x0A || u = 0x0D then 1 else 0
  | u :: v :: rest =>
    let ends := u == 0x0A || (u == 0x0D && v != 0x0A)
    endedLines (v :: rest) + if ends then 1 else 0

/-- The units after the last line break of a text. -/
def lastLine (t : Text) : Text := (t.reverse.takeWhile fun u => u != 0x0A && u != 0x0D).reverse

/-- The units on either side of a place that are shown with it. -/
def shownUnits : Nat := 10

/-- The text around a place in quotes, with dots on a side where some of it is left out; a short text
is shown whole. -/
def excerpt (source : Text) (place : Nat) : Text :=
  let inQuotes (t : Text) : Text := unit '"' :: (t ++ [unit '"'])
  let dots (shown : Bool) : Text := if shown then text "..." else []
  let start := place - shownUnits
  if source.length ≤ 2 * shownUnits then inQuotes source
  else
    dots (shownUnits ≤ place)
      ++ inQuotes ((source.drop start).take (place + shownUnits - start))
      ++ dots (place + shownUnits < source.length)

namespace SyntaxError

/-- A text with the place of an error after it. -/
def withPlace (e : SyntaxError) (t : Text) : Text :=
  let before := e.source.take e.place
  t ++ text " at position " ++ Text.ofNat e.place ++ text " (line " ++ Text.ofNat (endedLines before + 1)
    ++ text " column " ++ Text.ofNat ((lastLine before).length + 1) ++ text ")"

/-- The text of an error. -/
def message (e : SyntaxError) : Text :=
  let said := e.fault.toText
  if e.fault = .unexpected then
    match e.source[e.place]? with
    | none => said ++ text "end of JSON input"
    | some u =>
      if u = unit '"' then e.withPlace (said ++ text "string in JSON")
      else if u = unit '-' || isDigit u then e.withPlace (said ++ text "number in JSON")
      else
        said ++ text "token '" ++ u :: (text "', " ++ excerpt e.source e.place)
          ++ text " is not valid JSON"
  else e.withPlace said

end SyntaxError

end NamePattern.Json
