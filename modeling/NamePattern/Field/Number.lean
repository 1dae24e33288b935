import NamePattern.Number.Fixed
import NamePattern.Field.Arguments
import NamePattern.Pass

/-!
The number field, written as digits: they give its first number and its padding. Numbering restarts
in every group unless `%n` is given. With `%d` it counts down, and digits that are all zero then stand
for the number of items in the scope.
-/

namespace NamePattern.Number

/-- The description of the field. -/
def spec : FieldSpec where
  kind := .number
  name := text "number"
  displayName := text "image001"
  insertText := text "image[001]"
  minArgs := 0
  maxArgs := some 2
  examples :=
    [usage "[001]" "001, 002, ...",
      usage "[1]" "1, 2, ...",
      usage "[005]" "005, 006, ...",
      note "To continue numbering across layer groups, use %n.",
      usage "[001, %n]" "001, 002, ...",
      note "To use descending numbers, use %d.",
      note "Suppose that the number of layers is 5:",
      usage "[000, %d]" "005, 004, ...",
      usage "[10, %d2]" "10, 09, ..."]

/-- How a number is counted and written. -/
structure Options where
  acrossGroups : Bool := false
  descending : Bool := false
  padding : Option Nat := none
  deriving DecidableEq

/-- The argument that continues numbers across groups. -/
def acrossGroupsArgument : Text := text "%n"

/-- The argument that counts down, without its digits. -/
def descendingArgument : Text := text "%d"

/-- The digits after the argument that counts down. -/
def descendingDigits? (arg : Text) : Option Text :=
  if descendingArgument.isPrefixOf arg then
    let digits := arg.drop descendingArgument.length
    if digits.all isDigit then some digits else none
  else none

/-- Whether an argument is one of the field's. -/
def isOption (arg : Text) : Bool :=
  arg == acrossGroupsArgument || (descendingDigits? arg).isSome

/-- Takes in one argument. -/
def Options.add (options : Options) (arg : Text) : Except ArgumentFault Options :=
  match descendingDigits? arg with
  | none => .ok { options with acrossGroups := true }
  | some [] => .ok { options with descending := true }
  | some digits =>
    if maxPadding < digits.toNat then .error (.padding digits)
    else .ok { options with descending := true, padding := some digits.toNat }

/-- Reads the arguments: first each must be known, then each is taken in. -/
def readOptions (args : List Text) : Except ArgumentFault Options :=
  match args.find? fun arg => !isOption arg with
  | some arg => .error (.numberOption arg)
  | none => args.foldlM Options.add {}

/-- A number made at least `padding` units long with zeros, its sign counted among them. -/
def format (value : Int) (padding : Nat) : Text :=
  Text.padStart padding (digit 0) (Text.ofInt value)

/-- The longest text that a number is padded to. -/
def longestText : Nat := NamePattern.longestText

/-- `format`, refused for a padding that makes the text too long. -/
def format? (value : Int) (padding : Nat) : Except NumeralError Text :=
  if longestText < padding then .error .tooLong else .ok (format value padding)

/-- The scope in which an item is numbered. -/
def Options.scope (options : Options) (item : Item) : Text :=
  if options.acrossGroups then globalScope else scopeKey item

/-- The counter that some digits begin. -/
def Options.counter (options : Options) (digits : Text) (total : Nat) : Counter where
  next := if digits.toNat = 0 && options.descending then total else digits.toNat
  padding := options.padding.getD digits.length
  step := if options.descending then -1 else 1

/-- Evaluates the field written with the given digits. Only a success moves a counter. -/
def evaluate (state : PassState) (item : Item) (digits : Text) (raw : List Text) :
    FieldResult × PassState :=
  match parseArguments spec readOptions raw with
  | .error failure => (.error failure, state)
  | .ok options =>
    let scope := options.scope item
    let (taken, state) := state.takeNumber (counterKey digits scope)
      (options.counter digits (state.scopeTotal scope))
    (.ok (format taken.value taken.padding), state)

end NamePattern.Number
