import Mathlib.Control.Monad.Basic
import NamePattern.Proofs.Rendering.Segments

/-!
Runs on the state of a pass: patterns rendered for items and fields evaluated for them, in any order.
A fault ends the rendering it occurs in, not the run. The evaluations of a run are listed in their
order, each on the state that the ones before it left; the text of a pattern is put together from its
literals and from them.
-/

namespace NamePattern

/-- An evaluation: the call, the item it was evaluated for and what it gave. -/
structure Evaluation where
  item : Item
  call : Call
  result : FieldResult
  deriving DecidableEq

/-- The evaluation of a call, in a list because a fault is none. -/
def Call.evaluations (registry : Registry) (state : PassState) (item : Item) (call : Call) :
    List Evaluation :=
  match (call.evaluate registry state item).1 with
  | .error _ => []
  | .ok result => [⟨item, call, result⟩]

/-- The evaluations of some segments, up to the first fault. -/
def Segment.evaluations (registry : Registry) (item : Item) (state : PassState) :
    List Segment → List Evaluation
  | [] => []
  | .literal _ :: rest => evaluations registry item state rest
  | .field call _ :: rest =>
    match call.evaluate registry state item with
    | (.error _, _) => []
    | (.ok result, state) => ⟨item, call, result⟩ :: evaluations registry item state rest

/-- What is done with the state of a pass. -/
inductive Operation
  | render (pattern : Pattern) (item : Item)
  | evaluate (call : Call) (item : Item)

namespace Operation

/-- The state after an operation. -/
def next (registry : Registry) (state : PassState) : Operation → PassState
  | .render pattern item => (pattern.renderItem registry state item).2
  | .evaluate call item => (call.evaluate registry state item).2

/-- The evaluations of an operation. -/
def evaluations (registry : Registry) (state : PassState) : Operation → List Evaluation
  | .render pattern item => Segment.evaluations registry item state pattern.segments
  | .evaluate call item => call.evaluations registry state item

end Operation

/-- The state after some operations. -/
def stateAfter (registry : Registry) (state : PassState) (operations : List Operation) : PassState :=
  operations.foldl (Operation.next registry) state

/-- The evaluations of a run. -/
def evaluationsFrom (registry : Registry) (state : PassState) : List Operation → List Evaluation
  | [] => []
  | operation :: rest =>
    operation.evaluations registry state
      ++ evaluationsFrom registry (operation.next registry state) rest

theorem evaluationsFrom_append (registry : Registry) (state : PassState)
    (done later : List Operation) :
    evaluationsFrom registry state (done ++ later)
      = evaluationsFrom registry state done
        ++ evaluationsFrom registry (stateAfter registry state done) later := by
  induction done generalizing state with
  | nil => rfl
  | cons operation rest ih =>
    rw [List.cons_append, evaluationsFrom, evaluationsFrom, ih, List.append_assoc, stateAfter,
      stateAfter, List.foldl_cons]

/-! ### Segments -/

/-- The text of an evaluated group: the value, or the group as written if there is none. -/
def Evaluation.textFor (group : Group) (e : Evaluation) : Text :=
  match e.result with
  | .ok value => value
  | .error _ => group.written

theorem Segment.render_field (registry : Registry) (item : Item) (state : PassState) (call : Call)
    (group : Group) :
    Segment.render registry item state (.field call group)
      = match call.evaluate registry state item with
        | (.error fault, next) => (.error fault, next)
        | (.ok result, next) => (.ok (Evaluation.textFor group ⟨item, call, result⟩), next) := by
  rw [Segment.render_call]
  rcases call.evaluate registry state item with ⟨_ | _ | _, next⟩ <;> rfl

/-- The text of segments whose fields were evaluated as listed. -/
def filled : List Segment → List Evaluation → Text
  | [], _ => []
  | .literal t :: rest, log => t ++ filled rest log
  | .field _ _ :: _, [] => []
  | .field _ group :: rest, e :: log => e.textFor group ++ filled rest log

theorem renderItem_snd (registry : Registry) (pattern : Pattern) (state : PassState) (item : Item) :
    (pattern.renderItem registry state item).2
      = (runAll (Segment.render registry item) state pattern.segments).2 := by
  rw [Segment.renderItem_eq_renderAll, Segment.renderAll]

/-- Texts of segments that are all there make up the filled segments. -/
theorem flatten_runAll {registry : Registry} {item : Item} {segments : List Segment}
    {state : PassState} {texts : List Text}
    (h : (runAll (Segment.render registry item) state segments).1 = .ok texts) :
    texts.flatten = filled segments (Segment.evaluations registry item state segments) := by
  induction segments generalizing state texts with
  | nil => cases h; rfl
  | cons segment rest ih =>
    obtain ⟨t, next, more, hsegment, hmore, rfl⟩ := runAll_cons_eq_ok h
    rw [List.flatten_cons, ih hmore]
    cases segment with
    | literal u =>
      cases hsegment
      rw [Segment.evaluations, filled]
    | field call group =>
      rw [Segment.render_field] at hsegment
      rw [Segment.evaluations]
      rcases hcall : call.evaluate registry state item with ⟨fault | result, middle⟩
      · rw [hcall] at hsegment
        cases hsegment
      · rw [hcall] at hsegment
        cases hsegment
        rw [filled]

/-- The text of a pattern is made of its literals and its evaluations. -/
theorem renderItem_eq_filled {registry : Registry} {pattern : Pattern} {state : PassState}
    {item : Item} {t : Text} (h : (pattern.renderItem registry state item).1 = .ok t) :
    t = filled pattern.segments (Segment.evaluations registry item state pattern.segments) := by
  rw [Segment.renderItem_eq_renderAll, Segment.renderAll] at h
  rcases hrun : runAll (Segment.render registry item) state pattern.segments with ⟨fault | texts, next⟩
  · rw [hrun] at h; cases h
  · rw [hrun] at h
    cases h
    exact flatten_runAll (congrArg Prod.fst hrun)

end NamePattern
