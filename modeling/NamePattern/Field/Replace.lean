import NamePattern.Text.Case
import NamePattern.Replacement
import NamePattern.Field.Arguments

/-!
The arguments of the replace field: a target written like a field without its brackets, a regular
expression, a replacement, and then a largest count and the names of flags.
-/

namespace NamePattern.Replace

/-- The description of the field. -/
def spec : FieldSpec where
  kind := .replace
  name := text "replace"
  displayName := text "Replace"
  insertText := text "[replace]"
  minArgs := 3
  maxArgs := none
  examples :=
    [note "Suppose that a layer is named \"Animal copy #1\".",
      usage "[replace, [layer name], [a], [b] ]" "Animbl copy #1",
      note "You can use JavaScript regular expression syntax.",
      usage "[replace, [layer name], [ copy(?: #[[0-9]]+)*$], [] ]" "Animal",
      note "You can limit the number of replacements and add flags (ignorecase, multiline, dotall, unicode).",
      usage "[replace, [layer name], [a], [b], 1, ignorecase]" "bnimal copy #1"]

/-- The names of flags in lower case, with the letter of each. Two names set no flag. -/
def flagNames : List (Text × Option CodeUnit) :=
  [(text "ignorecase", some (unit 'i')), (text "i", some (unit 'i')),
    (text "multiline", some (unit 'm')), (text "m", some (unit 'm')),
    (text "dotall", some (unit 's')), (text "s", some (unit 's')),
    (text "unicode", some (unit 'u')), (text "u", some (unit 'u')),
    (text "constructor", none), (text "__proto__", none)]

/-- The letter that a name sets, if any; nothing for an unknown name. -/
def flagOf? (name : Text) : Option (Option CodeUnit) :=
  (flagNames.find? fun flag => flag.1 = name.lower).map Prod.snd

/-- The letters of flags in the order in which they are written. -/
def flagLetters : Text := text "imsu"

/-- The flags that names set, as letters: always global, each letter once. -/
def flagsOfNames? (names : List Text) : Option Text :=
  (names.mapM flagOf?).map fun found =>
    unit 'g' :: flagLetters.filter fun letter => found.contains (some letter)

/-- The arguments of the field. -/
structure Request where
  target : Text
  search : Text
  replacement : Text
  count : Nat
  flags : Regex.Flags
  deriving DecidableEq

/-- Reads the count, zero if it is not given. -/
def readCount (args : List Text) : Except ArgumentFault Nat :=
  match args with
  | [] => .ok 0
  | arg :: _ => if arg.isNumeral then .ok arg.toNat else .error (.replacementCount arg)

/-- Reads the names of flags. -/
def readFlags (names : List Text) : Except ArgumentFault Regex.Flags :=
  match (flagsOfNames? names).bind Regex.Flags.ofText? with
  | some flags => .ok flags
  | none => .error (.replacementFlags names)

/-- Reads the arguments. -/
def readRequest (args : List Text) : Except ArgumentFault Request :=
  match args with
  | target :: search :: replacement :: rest =>
    match readCount rest with
    | .error fault => .error fault
    | .ok count =>
      match readFlags rest.tail with
      | .error fault => .error fault
      | .ok flags => .ok ⟨target, search, replacement, count, flags⟩
  | _ => .error .unreadable

/-- The target is one of the argument values. -/
theorem target_mem_of_readRequest {args : List Text} {request : Request}
    (h : readRequest args = .ok request) : request.target ∈ args := by
  unfold readRequest at h
  split at h
  · split at h
    · simp at h
    · split at h
      · simp at h
      · simp only [Except.ok.injEq] at h
        subst h
        exact List.mem_cons_self ..
  · simp at h

/-- The call that a target stands for. -/
def Request.targetCall (request : Request) : Call := Call.ofSource request.target

/-- The value of the target with its matches replaced. -/
def Request.apply (request : Request) (value : Text) : FieldResult :=
  match Regex.ofText? request.search request.flags with
  | none => .error .invalidRegex
  | some regex => .ok (replaceMatches value regex request.replacement request.count)

/-- A target's own arguments take up less than those of the call it is the target of. -/
theorem totalLength_targetCall_lt {raw : List Text} {request : Request}
    (h : parseArguments spec readRequest raw = .ok request) :
    totalLength request.targetCall.args < totalLength raw :=
  totalLength_ofSource_lt (target_mem_of_readRequest (read_of_parseArguments h))

end NamePattern.Replace
