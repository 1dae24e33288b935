import NamePattern.Field.Failure
import NamePattern.Field.Kind
import NamePattern.Pattern.Argument

/-!
Arguments as a field receives them: the values of the raw arguments, as many as the field takes, read
into the field's own type.
-/

namespace NamePattern

/-- Whether a field takes so many arguments. -/
def FieldSpec.takes (spec : FieldSpec) (count : Nat) : Bool :=
  spec.minArgs ≤ count && spec.maxArgs.all (count ≤ ·)

/-- The arguments of a call, read from its raw arguments. -/
def parseArguments {α : Type} (spec : FieldSpec) (read : List Text → Except ArgumentFault α)
    (raw : List Text) : Except Failure α :=
  let values := argumentValues raw
  if spec.takes values.length then
    match read values with
    | .ok args => .ok args
    | .error fault => .error (.arguments spec.name fault)
  else .error (.argumentCount spec.name spec.minArgs spec.maxArgs values.length)

/-- Arguments that are read come from the values of the raw ones. -/
theorem read_of_parseArguments {α : Type} {spec : FieldSpec}
    {read : List Text → Except ArgumentFault α} {raw : List Text} {args : α}
    (h : parseArguments spec read raw = .ok args) : read (argumentValues raw) = .ok args := by
  rw [parseArguments] at h
  split at h
  · split at h <;> simp_all
  · simp at h

/-- Arguments are read if there are as many as the field takes and their values can be read. -/
theorem parseArguments_of_read {α : Type} {spec : FieldSpec}
    {read : List Text → Except ArgumentFault α} {raw : List Text} {args : α}
    (htakes : spec.takes (argumentValues raw).length = true)
    (hread : read (argumentValues raw) = .ok args) : parseArguments spec read raw = .ok args := by
  simp only [parseArguments, htakes, if_true, hread]

/-- The separator and the wrapper that begin some arguments, if there are any, and the rest. -/
structure Wrapping where
  separator : Option Text
  wrapper : Option Text
  rest : List Text
  deriving DecidableEq

/-- Takes the first two arguments as separator and wrapper if the second contains a placeholder. -/
def splitWrapping (placeholder : Text) (args : List Text) : Wrapping :=
  match args with
  | separator :: wrapper :: rest =>
    if Text.includes placeholder wrapper then ⟨some separator, some wrapper, rest⟩
    else ⟨none, none, args⟩
  | _ => ⟨none, none, args⟩

end NamePattern
