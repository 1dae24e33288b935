import NamePattern.Item
import NamePattern.Options
import NamePattern.Calendar.Civil

/-!
The state of a pass over a sequence of items: its options and clock, the scopes of its items, and the
counters of its number fields. A counter is known by a key, is created when it is first used and then
moves by one step at each use.
-/

namespace NamePattern

/-- A counter of a number field. -/
structure Counter where
  next : Int
  padding : Nat
  step : Int
  deriving DecidableEq

/-- The scope that all items share when numbers continue across groups. -/
def globalScope : Text := text "*"

/-- The key of the scope of an item: its path, written as JSON. -/
def scopeKey (item : Item) : Text := (Json.array (item.path.map .string)).toText

/-- The key of the counter of some digits in a scope. -/
def counterKey (digits scope : Text) : Text := digits ++ 0 :: scope

/-- The state of a pass. A date that is out of range is no instant. The clock stands still: one instant
serves every field of a pass that asks for the time, however long the pass takes. -/
structure PassState where
  options : RenderOptions
  now : Option Instant
  scopes : List Text
  counters : List (Text × Counter)
  deriving DecidableEq

/-- The number that a counter gives, with its padding. -/
structure TakenNumber where
  value : Int
  padding : Nat
  deriving DecidableEq

namespace PassState

/-- The state at the start of a pass. -/
def start (items : List Item) (options : RenderOptions) (now : Option Instant) : PassState :=
  ⟨options, now, items.map scopeKey, []⟩

/-- The number of items of the pass in a scope. -/
def scopeTotal (state : PassState) (scope : Text) : Nat :=
  if scope = globalScope then state.scopes.length else state.scopes.count scope

/-- The counter of a key, if it is in use. -/
def counter? (state : PassState) (key : Text) : Option Counter :=
  (state.counters.find? fun entry => entry.1 = key).map Prod.snd

/-- Puts a counter under a key. -/
def setCounter (counters : List (Text × Counter)) (key : Text) (counter : Counter) :
    List (Text × Counter) :=
  match counters with
  | [] => [(key, counter)]
  | entry :: rest =>
    if entry.1 = key then (key, counter) :: rest else entry :: setCounter rest key counter

/-- The next number of the counter of a key, which starts as `initial` if it is new. -/
def takeNumber (state : PassState) (key : Text) (initial : Counter) : TakenNumber × PassState :=
  let counter := (state.counter? key).getD initial
  let moved := { counter with next := counter.next + counter.step }
  (⟨counter.next, counter.padding⟩, { state with counters := setCounter state.counters key moved })

end PassState

end NamePattern
