import NamePattern.Text.Case

/-!
File names and their extensions. The extension is what follows the last period, or a compound
extension such as `xcf.bz2` where the name ends in one.
-/

namespace NamePattern

/-- The period before an extension. -/
def period : CodeUnit := unit '.'

/-- Extensions that contain a period, in lower case. -/
def compoundExtensions : List Text := [text "xcf.bz2", text "xcf.gz", text "xcf.xz"]

/-- Whether a text is a compound extension, in any case. -/
def isCompoundExtension (t : Text) : Bool := compoundExtensions.contains t.lower

/-- The extension of a name known to have a period: what follows the first period after which a
compound extension is left, else what follows the last one. -/
def extensionAfter (t : Text) : Text :=
  match t with
  | [] => []
  | u :: rest =>
    if u = period then
      if isCompoundExtension rest then rest
      else if rest.contains period then extensionAfter rest else rest
    else extensionAfter rest

/-- The extension of a file name without its period, empty if it has none. -/
def fileExtension (name : Text) : Text :=
  if name.contains period then extensionAfter name else []

/-- A file name without its extension and the period before it. -/
def fileRoot (name : Text) : Text :=
  let ext := fileExtension name
  if ext.isEmpty then name else name.take (name.length - ext.length - 1)

/-- A text without the periods at its end. -/
def trimPeriods (t : Text) : Text := (t.reverse.dropWhile (· == period)).reverse

/-- A file name with another extension; an empty one removes the extension. Periods left at the end
go too if there was no extension to replace. -/
def replaceExtension (name ext : Text) : Text :=
  let root := fileRoot name
  let root := if root = name then trimPeriods root else root
  let ext := ext.dropWhile (· == period)
  if ext.isEmpty then root else root ++ period :: ext

/-- When a layer's own extension is kept: always, or if it is the target extension. -/
inductive ExtensionMode
  | always
  | ifTarget
  deriving DecidableEq

namespace ExtensionMode

/-- The argument that asks for a mode. -/
def toText : ExtensionMode → Text
  | .always => text "%e"
  | .ifTarget => text "%i"

/-- The mode that an argument asks for. -/
def ofText? (t : Text) : Option ExtensionMode :=
  if t = ExtensionMode.always.toText then some .always
  else if t = ExtensionMode.ifTarget.toText then some .ifTarget
  else none

/-- A layer's name with its extension kept or removed. -/
def apply (mode : Option ExtensionMode) (name target : Text) : Text :=
  let ext := fileExtension name
  match mode with
  | none => fileRoot name
  | some .always => if ext.isEmpty then fileRoot name else name
  | some .ifTarget =>
    if !ext.isEmpty && ext.lower = target.lower then name else fileRoot name

end ExtensionMode

end NamePattern
