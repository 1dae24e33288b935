import NamePattern.Text.Decimal

/-!
Why the evaluation of a field fails. A failed field puts out its own source, so a failure never stops
a pass.
-/

namespace NamePattern

/-- What is wrong with the arguments of a field. -/
inductive ArgumentFault
  | numberOption (arg : Text)
  | padding (digits : Text)
  | extensionMode (arg : Text)
  | imageExtension
  | pathExtensionMode (arg : Text)
  | unreadable
  | replacementCount (arg : Text)
  | replacementFlags (names : List Text)
  deriving DecidableEq

/-- The largest padding of a number; no file system takes longer names. -/
def maxPadding : Nat := 255

/-- The text of a fault. -/
def ArgumentFault.message : ArgumentFault → Text
  | .numberOption arg =>
    text "Unknown number option \"" ++ arg ++ text "\"; expected %n or %d[padding]"
  | .padding digits =>
    text "Padding " ++ digits ++ text " exceeds the maximum of " ++ Text.ofNat maxPadding
  | .extensionMode arg =>
    text "Invalid enum value. Expected '%e' | '%i', received '" ++ arg ++ text "'"
  | .imageExtension => text "Invalid literal value, expected \"%e\""
  | .pathExtensionMode arg =>
    text "Expected %e or %i as the extension mode, got \"" ++ arg ++ text "\""
  | .unreadable => text "Invalid input"
  | .replacementCount arg => text "Invalid replacement count \"" ++ arg ++ text "\""
  | .replacementFlags names =>
    text "Unknown flag in \"" ++ Text.joined (text ", ") names ++ text "\""

/-- Why an evaluation fails. -/
inductive Failure
  | argumentCount (field : Text) (least : Nat) (most : Option Nat) (given : Nat)
  | arguments (field : Text) (fault : ArgumentFault)
  | unknownTarget (name : Text)
  | numberTarget
  | noArea
  | invalidRegex
  | outOfRange (message : Text)
  | refused (reason : Text)
  deriving DecidableEq

/-- How many arguments a field takes, in words. -/
def argumentCountText (least : Nat) (most : Option Nat) : Text :=
  match most with
  | none => text "at least " ++ Text.ofNat least ++ text " argument(s)"
  | some most =>
    if least = most then Text.ofNat least ++ text " argument(s)"
    else Text.ofNat least ++ text "-" ++ Text.ofNat most ++ text " argument(s)"

/-- The text of a failure. -/
def Failure.reason : Failure → Text
  | .argumentCount field least most given =>
    text "\"" ++ field ++ text "\" takes " ++ argumentCountText least most ++ text ", got "
      ++ Text.ofNat given
  | .arguments field fault =>
    text "Invalid arguments for \"" ++ field ++ text "\": " ++ fault.message
  | .unknownTarget name => text "Unknown field \"" ++ name ++ text "\" to replace in"
  | .numberTarget => text "Numbers cannot be used as a replace target"
  | .noArea => text "Image has no area to measure layers against"
  | .invalidRegex => text "Invalid regular expression"
  | .outOfRange message => message
  | .refused reason => reason

/-- What an evaluation gives. -/
abbrev FieldResult := Except Failure Text

end NamePattern
