import NamePattern.Field.Evaluation

/-!
Rendering: a pattern written out for an item, and for all items of a pass. A field whose evaluation
fails puts out its own text, so that only a fault stops a pass. Steps are run one after the other on
the state of the pass; the state after a fault is the one in which it happened.

A field that there is no room for only fails, but the text of an item is put together outside of every
field, so that a want of room there is a fault and stops the pass.
-/

namespace NamePattern

/-- Runs a step for each of some values, up to the first fault, and collects the results. -/
def runAll {σ α β : Type} (step : σ → α → Except Fault β × σ) (state : σ) :
    List α → Except Fault (List β) × σ
  | [] => (.ok [], state)
  | a :: rest =>
    match step state a with
    | (.error fault, state) => (.error fault, state)
    | (.ok b, state) =>
      match runAll step state rest with
      | (.error fault, state) => (.error fault, state)
      | (.ok bs, state) => (.ok (b :: bs), state)

/-- What ends a pass without texts: options that are refused, or a fault. -/
inductive PassError
  | options (issues : List Issue)
  | fault (fault : Fault)
  deriving DecidableEq

/-- The text of an error. -/
def PassError.message : PassError → Text
  | .options issues => issuesMessage issues
  | .fault f => f.message

/-- The pattern of a text under the names of a registry. -/
def Pattern.read (registry : Registry) (source : Text) : Pattern := ofText registry.knows source

namespace Room

/-- The text of a segment for an item. -/
def renderSegment (room : Room) (registry : Registry) (item : Item) (state : PassState) :
    Segment → Except Fault Text × PassState
  | .literal t => (.ok t, state)
  | .field call group =>
    match registry.find? call.name with
    | none => (.error (.unregistered call.name), state)
    | some found =>
      match room.evaluate registry state item found call.name call.args with
      | (.error fault, state) => (.error fault, state)
      | (.ok (.error _), state) => (.ok group.written, state)
      | (.ok (.ok value), state) => (.ok value, state)

/-- The text of some segments for an item, behind a text of some length that is there already. -/
def renderSegments (room : Room) (registry : Registry) (item : Item) (length : Nat)
    (state : PassState) : List Segment → Except Fault Text × PassState
  | [] => (.ok [], state)
  | segment :: rest =>
    match room.renderSegment registry item state segment with
    | (.error fault, state) => (.error fault, state)
    | (.ok t, state) =>
      let length := length + t.length
      if room.holds length then
        match room.renderSegments registry item length state rest with
        | (.error fault, state) => (.error fault, state)
        | (.ok more, state) => (.ok (t ++ more), state)
      else (.error .tooLong, state)

/-- The text of a pattern for an item. -/
def renderItem (room : Room) (registry : Registry) (pattern : Pattern) (state : PassState)
    (item : Item) : Except Fault Text × PassState :=
  room.renderSegments registry item 0 state pattern.segments

/-- The state at the start of a pass, for which the scopes of its items are written. -/
def start (room : Room) (items : List Item) (options : RenderOptions) (now : Option Instant) :
    Except Fault PassState :=
  if items.all fun item => room.holds (scopeKey item).length then .ok (.start items options now)
  else .error .tooLong

/-- The texts of a pattern for the items of a pass, in their order. -/
def render (room : Room) (registry : Registry) (pattern : Pattern) (items : List Item)
    (options : RenderOptions) (now : Option Instant) : Except Fault (List Text) :=
  match room.start items options now with
  | .error fault => .error fault
  | .ok state => (runAll (room.renderItem registry pattern) state items).1

/-- The texts of a pattern for the items of a pass whose options are still a value. -/
def renderWith (room : Room) (registry : Registry) (pattern : Pattern) (items : List Item)
    (options : Option Json) (now : Option Instant) : Except PassError (List Text) :=
  match RenderOptions.resolve options with
  | .invalid issues => .error (.options issues)
  | .valid options =>
    match room.render registry pattern items options now with
    | .error fault => .error (.fault fault)
    | .ok texts => .ok texts

end Room

/-! ### Where there is room for any text -/

/-- The text of a segment for an item. -/
def Segment.render (registry : Registry) (item : Item) (state : PassState) (segment : Segment) :
    Except Fault Text × PassState :=
  Room.unbounded.renderSegment registry item state segment

namespace Pattern

/-- The text of a pattern for an item. -/
def renderItem (registry : Registry) (pattern : Pattern) (state : PassState) (item : Item) :
    Except Fault Text × PassState :=
  Room.unbounded.renderItem registry pattern state item

/-- The texts of a pattern for the items of a pass, in their order. -/
def render (registry : Registry) (pattern : Pattern) (items : List Item) (options : RenderOptions)
    (now : Option Instant) : Except Fault (List Text) :=
  Room.unbounded.render registry pattern items options now

/-- The texts of a pattern for the items of a pass whose options are still a value. -/
def renderWith (registry : Registry) (pattern : Pattern) (items : List Item) (options : Option Json)
    (now : Option Instant) : Except PassError (List Text) :=
  Room.unbounded.renderWith registry pattern items options now

end Pattern

end NamePattern
