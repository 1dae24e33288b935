import NamePattern.Text.Basic
import NamePattern.Number.Binary64

/-!
Items, the things to be named: a layer or a group of layers as it stands in its image.
-/

namespace NamePattern

/-- The image that owns an item; one that was never saved has no name. -/
structure ImageInfo where
  name : Option Text := none
  width : Binary64 := 0
  height : Binary64 := 0
  deriving DecidableEq

/-- A list without later copies of its members. -/
def withoutCopies : List Text → List Text
  | [] => []
  | t :: rest => t :: (withoutCopies rest).filter (· ≠ t)

theorem nodup_withoutCopies (ts : List Text) : (withoutCopies ts).Nodup := by
  induction ts with
  | nil => exact List.nodup_nil
  | cons t rest ih =>
    rw [withoutCopies, List.nodup_cons]
    exact ⟨by simp, ih.filter _⟩

/-- A set of tags in the order in which they were attached. -/
structure TagSet where
  tags : List Text
  nodup : tags.Nodup
  deriving DecidableEq

/-- The set of some tags, each in its first place. -/
def TagSet.ofList (ts : List Text) : TagSet := ⟨withoutCopies ts, nodup_withoutCopies ts⟩

instance : Inhabited TagSet := ⟨.ofList []⟩

/-- An item. Its path holds the names of the groups around it, from the outermost inward. -/
structure Item where
  name : Text
  path : List Text
  tags : TagSet
  isGroup : Bool
  width : Binary64
  height : Binary64
  x : Binary64
  y : Binary64
  image : ImageInfo
  deriving DecidableEq

end NamePattern
