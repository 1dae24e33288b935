import NamePattern.Text.Case
import NamePattern.Template
import NamePattern.Field.View

/-!
The tags of an item, shown by their display names: all of them in the order of their lower case, or
the requested ones in the order of the request. The two tags that the host provides are requested by
their display names and not by the tags themselves.
-/

namespace NamePattern.Tags

/-- The description of the field. -/
def spec : FieldSpec where
  kind := .tags
  name := text "tags"
  displayName := text "Tags"
  insertText := text "[tags]"
  minArgs := 0
  maxArgs := none
  examples :=
    [note "Suppose that a layer has tags \"left\", \"middle\" and \"right\".",
      usage "[tags]" "left-middle-right",
      usage "[tags, left, right]" "left-right",
      usage "[tags, _, (%t)]" "(left)_(middle)_(right)",
      usage "[tags, _, (%t), left, right]" "(left)_(right)"]

/-- The tags that the host provides, with their display names. -/
def hostTags : List (Text × Text) :=
  [(text "background", text "Background"), (text "foreground", text "Foreground")]

/-- The name by which a tag is shown. -/
def displayName (tag : Text) : Text :=
  ((hostTags.find? fun host => host.1 = tag).map Prod.snd).getD tag

/-- The tag that a display name asks for. -/
def tagOf (name : Text) : Text :=
  ((hostTags.find? fun host => host.2 = name).map Prod.fst).getD name

/-- Whether a text is a tag that the host provides. -/
def isHostTag (t : Text) : Bool := hostTags.any fun host => host.1 = t

/-- The order of names by their lower case. -/
def notAfter (a b : Text) : Bool := !b.lower.before a.lower

/-- The display name that a request selects from some tags. -/
def requested? (tags : TagSet) (name : Text) : Option Text :=
  if isHostTag name then none
  else if tags.tags.contains (tagOf name) then some (displayName (tagOf name)) else none

/-- The display names of the selected tags: all tags if none is requested. -/
def select (tags : TagSet) (requested : List Text) : List Text :=
  if requested.isEmpty then (tags.tags.map displayName).mergeSort notAfter
  else requested.filterMap (requested? tags)

/-- The place of a tag in a wrapper. -/
def placeholder : Text := text "%t"

/-- The name of the token that stands for a tag. -/
def tokenName : Text := text "t"

/-- How tags are selected and written. -/
structure Layout where
  separator : Text
  wrapper : Text
  requested : List Text
  deriving DecidableEq

/-- Reads the layout. -/
def readLayout (args : List Text) : Except ArgumentFault Layout :=
  let wrapping := splitWrapping placeholder args
  .ok ⟨wrapping.separator.getD (text "-"), wrapping.wrapper.getD placeholder, wrapping.rest⟩

/-- The value of the field. -/
def value (view : View) (layout : Layout) : FieldResult :=
  let wrapped := (select view.item.tags layout.requested).map fun tag =>
    expandTemplate [(tokenName, tag)] layout.wrapper
  .ok (Text.joined layout.separator wrapped)

/-- Evaluates the field. -/
def evaluate : View → List Text → FieldResult := evaluateBy spec readLayout value

end NamePattern.Tags
