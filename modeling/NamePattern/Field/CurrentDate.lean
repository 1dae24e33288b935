import NamePattern.Calendar.Strftime
import NamePattern.Field.View

/-!
The date of the pass, in the given format or in the one of the options. A date that is out of range
fails the field.
-/

namespace NamePattern.CurrentDate

/-- The description of the field. -/
def spec : FieldSpec where
  kind := .currentDate
  name := text "current date"
  displayName := text "Current date"
  insertText := text "[current date]"
  minArgs := 0
  maxArgs := some 1
  examples :=
    [usage "[current date]" "2019-01-28",
      note "Custom date format uses strftime-style directives (%Y, %m, %d, %H, %M, %S, ...).",
      usage "[current date, %m.%d.%Y_%H-%M]" "01.28.2019_19-04"]

/-- Reads the format, if there is one. -/
def readFormat (args : List Text) : Except ArgumentFault (Option Text) := .ok args.head?

/-- The value of the field. -/
def value (view : View) (format : Option Text) : FieldResult :=
  match formatDate view.now (format.getD view.options.dateFormat) with
  | .ok t => .ok t
  | .error e => .error (.outOfRange e.message)

/-- Evaluates the field. -/
def evaluate : View → List Text → FieldResult := evaluateBy spec readFormat value

end NamePattern.CurrentDate
