import NamePattern.Item
import NamePattern.Number.Shortest

/-!
Layers listed flat, each with the id of the group it lies in, made into items. The list must be a
forest: ids differ, parents are listed groups, and every layer is reached from a layer without a
parent. Its items are in depth-first order, every group before what it holds.
-/

namespace NamePattern

/-- What a layer is. -/
inductive LayerKind
  | pixels
  | group
  deriving DecidableEq

/-- A layer of an image. -/
structure Layer where
  id : Binary64
  name : Text
  kind : LayerKind
  parent : Option Binary64
  tags : List Text
  width : Binary64
  height : Binary64
  x : Binary64
  y : Binary64
  deriving DecidableEq

/-- Why a list of layers is not a forest. -/
inductive LayerTreeError
  | duplicateId (id : Binary64)
  | unknownParent (id parent : Binary64)
  | notAGroup (parent : Binary64)
  | cycle (id : Binary64)
  deriving DecidableEq

namespace LayerTreeError

/-- The id that an error is about. -/
def layerId : LayerTreeError → Binary64
  | .duplicateId id => id
  | .unknownParent id _ => id
  | .notAGroup parent => parent
  | .cycle id => id

/-- The name of the kind of error. -/
def problem : LayerTreeError → Text
  | .duplicateId _ => text "duplicate_id"
  | .unknownParent _ _ => text "unknown_parent"
  | .notAGroup _ => text "not_a_group"
  | .cycle _ => text "cycle"

/-- The text of an error. -/
def message : LayerTreeError → Text
  | .duplicateId id => text "Duplicate layer id " ++ id.toText ++ text "."
  | .unknownParent id parent =>
    text "Layer " ++ id.toText ++ text " has unknown parent " ++ parent.toText ++ text "."
  | .notAGroup parent =>
    text "Layer " ++ parent.toText ++ text " is not a group layer and cannot be a parent."
  | .cycle id => text "Layer " ++ id.toText ++ text " is part of a parent cycle."

end LayerTreeError

namespace Layer

/-- The item of a layer within the given groups. -/
def toItem (layer : Layer) (path : List Text) (image : ImageInfo) : Item :=
  { name := layer.name
    path := path
    tags := TagSet.ofList layer.tags
    isGroup := layer.kind = .group
    width := layer.width
    height := layer.height
    x := layer.x
    y := layer.y
    image := image }

/-- The first id that an earlier layer already has. -/
def duplicateId? : List Layer → Option Binary64
  | layers => go [] layers
where
  /-- The first id among some layers that is already seen. -/
  go (seen : List Binary64) : List Layer → Option Binary64
    | [] => none
    | layer :: rest => if seen.contains layer.id then some layer.id else go (layer.id :: seen) rest

/-- What is wrong with the parent of a layer. -/
def parentError? (layers : List Layer) (layer : Layer) : Option LayerTreeError :=
  layer.parent.bind fun parent =>
    match layers.find? fun l => l.id = parent with
    | none => some (.unknownParent layer.id parent)
    | some found => if found.kind = .group then none else some (.notAGroup found.id)

/-- The layers below a parent, at most `depth` levels deep, each with the names of the groups around
it. How deep a host lets a walk go, one call for each level, is not asked: the depth only brings the
walk to an end. -/
def below (layers : List Layer) (depth : Nat) (parent : Option Binary64) (path : List Text) :
    List (Layer × List Text) :=
  match depth with
  | 0 => []
  | depth + 1 =>
    (layers.filter fun l => l.parent = parent).flatMap fun l =>
      (l, path) ::
        match l.kind with
        | .group => below layers depth (some l.id) (path ++ [l.name])
        | .pixels => []

/-- The layers reached from those without a parent. No path through a forest is longer than it. -/
def walk (layers : List Layer) : List (Layer × List Text) := below layers layers.length none []

/-- The first layer that is not reached. -/
def unreached? (layers : List Layer) : Option Layer :=
  let reached := (walk layers).map fun visit => visit.1.id
  layers.find? fun l => !reached.contains l.id

/-- What is wrong with a list of layers. -/
def treeError? (layers : List Layer) : Option LayerTreeError :=
  match duplicateId? layers with
  | some id => some (.duplicateId id)
  | none =>
    match layers.findSome? (parentError? layers) with
    | some e => some e
    | none => (unreached? layers).map fun l => .cycle l.id

/-- The items of a list of layers, those of groups only if asked for. -/
def flatten (layers : List Layer) (image : ImageInfo) (includeGroups : Bool) :
    Except LayerTreeError (List Item) :=
  match treeError? layers with
  | some e => .error e
  | none =>
    .ok <| ((walk layers).filter fun visit => includeGroups || visit.1.kind = .pixels).map
      fun (layer, path) => layer.toItem path image

end Layer

end NamePattern
