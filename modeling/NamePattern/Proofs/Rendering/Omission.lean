import NamePattern.Proofs.Evaluation.Target
import NamePattern.Proofs.Pattern.Scan
import NamePattern.Proofs.Rendering.Segments

/-!
A registry may leave out fields that always fail. Where such a field is called, its group is shown
either way: as the group of a failed field, or as the group of an unknown name. Where it is the target
of a replace field, that one fails either way; the reasons differ, but no text shows them.
-/

namespace NamePattern

/-- A call by a name fails in a room whatever its arguments are, and leaves the state as it is. -/
def Registry.AlwaysFails (registry : Registry) (room : Room) (name : Text) : Prop :=
  ∀ state item raw, ∃ failure,
    room.evaluateCall registry state item ⟨name, raw⟩ = (.ok (.error failure), state)

/-- A registry that knows the fields of another one by the same names, apart from some that always fail
in a room. -/
def Registry.Omits (smaller registry : Registry) (room : Room) : Prop :=
  ∀ name, smaller.find? name = registry.find? name ∨
    smaller.find? name = none ∧ registry.AlwaysFails room name

/-- The field that was registered last may be left out if it always fails: no other one goes by a name
that it took. -/
theorem Registry.omits_last {smaller registry : Registry} {room : Room} (field : Field)
    (hfields : registry.fields = smaller.fields ++ [field])
    (hfails : ∀ state item name raw, ∃ failure,
      room.evaluate registry state item field name raw = (.ok (.error failure), state)) :
    smaller.Omits registry room := by
  intro name
  have hfind : registry.find? name = (smaller.find? name).or ([field].find? (·.goesBy name)) := by
    rw [Registry.find?, hfields, List.find?_append]
    rfl
  cases hsmaller : smaller.find? name with
  | some found => exact .inl (by rw [hfind, hsmaller, Option.some_or])
  | none =>
    rw [hsmaller, Option.none_or, List.find?_singleton] at hfind
    cases hname : field.goesBy name with
    | false => exact .inl (by rw [hfind, hname]; rfl)
    | true =>
      refine .inr ⟨rfl, fun state item raw => ?_⟩
      rw [Room.evaluateCall, hfind, hname]
      exact hfails state item name raw

/-- Two evaluations that no text can tell apart: they are the same, or both are failures, for whatever
reason, that leave the same state. -/
inductive Alike :
    Except Fault FieldResult × PassState → Except Fault FieldResult × PassState → Prop
  | same {e} : Alike e e
  | failed {f g state} : Alike (.ok (.error f), state) (.ok (.error g), state)

variable {smaller registry : Registry} {room : Room} (homits : smaller.Omits registry room)

/-- A name that always fails belongs to a field. -/
theorem Registry.AlwaysFails.knows {name : Text} (h : registry.AlwaysFails room name) (item : Item)
    (state : PassState) : registry.knows name = true := by
  obtain ⟨failure, hcall⟩ := h state item []
  rw [Room.evaluateCall] at hcall
  rw [Registry.knows]
  cases hfind : registry.find? name with
  | none => rw [hfind] at hcall; cases hcall
  | some field => rfl

include homits

theorem evaluateTarget_alike {request : Replace.Request} {state : PassState} {item : Item}
    (h : ∀ target, Alike
      (room.evaluate smaller state item target request.targetCall.name request.targetCall.args)
      (room.evaluate registry state item target request.targetCall.name request.targetCall.args)) :
    Alike (room.evaluateTarget smaller state item request)
      (room.evaluateTarget registry state item request) := by
  rcases homits request.targetCall.name with hsame | ⟨hnone, hfails⟩
  · rw [Room.evaluateTarget, Room.evaluateTarget, hsame]
    cases registry.find? request.targetCall.name with
    | none => exact .same
    | some target =>
      dsimp only
      split
      · exact .same
      · exact h target
  · rw [room.evaluateTarget_of_none state item hnone]
    obtain ⟨failure, hrefused⟩ | ⟨target, hfind, -, htarget⟩ :=
      room.evaluateTarget_cases registry request
    · rw [hrefused]
      exact .failed
    · obtain ⟨failure, hcall⟩ := hfails state item request.targetCall.args
      rw [Room.evaluateCall, hfind] at hcall
      dsimp only at hcall
      rw [htarget, hcall]
      exact .failed

theorem evaluate_alike (field : Field) (name : Text) (raw : List Text) (state : PassState)
    (item : Item) :
    Alike (room.evaluate smaller state item field name raw)
      (room.evaluate registry state item field name raw) := by
  induction field, name, raw using evaluation_induction with
  | custom definition name raw =>
    rw [Room.evaluate_custom, Room.evaluate_custom]
    exact .same
  | number name raw =>
    rw [Room.evaluate_number, Room.evaluate_number]
    exact .same
  | plain kind name raw hnumber hreplace =>
    rw [Room.evaluate_plain _ _ _ _ _ hnumber hreplace, Room.evaluate_plain _ _ _ _ _ hnumber hreplace]
    exact .same
  | refused name raw failure hparse =>
    rw [Room.evaluate_replace_of_error _ _ _ _ _ hparse,
      Room.evaluate_replace_of_error _ _ _ _ _ hparse]
    exact .same
  | replace name raw request hparse ih =>
    rw [Room.evaluate_replace_of_request _ _ _ _ _ hparse,
      Room.evaluate_replace_of_request _ _ _ _ _ hparse]
    have htarget := evaluateTarget_alike homits ih
    generalize room.evaluateTarget smaller state item request = a at htarget ⊢
    generalize room.evaluateTarget registry state item request = b at htarget ⊢
    cases htarget with
    | same => exact .same
    | failed => exact .failed

theorem evaluateCall_alike {call : Call}
    (hsame : smaller.find? call.name = registry.find? call.name) (state : PassState) (item : Item) :
    Alike (room.evaluateCall smaller state item call)
      (room.evaluateCall registry state item call) := by
  rw [Room.evaluateCall, Room.evaluateCall, hsame]
  cases registry.find? call.name with
  | none => exact .same
  | some field => exact evaluate_alike homits field call.name call.args state item

/-- The segments of the same pieces under the names of either registry have the same text. -/
theorem renderAll_omits (item : Item) (pieces : List Piece) (state : PassState) :
    room.renderAll smaller item state (pieces.foldr (Segment.prependPiece smaller.knows) [])
      = room.renderAll registry item state
          (pieces.foldr (Segment.prependPiece registry.knows) []) := by
  induction pieces generalizing state with
  | nil => rfl
  | cons piece rest ih =>
    rw [List.foldr_cons, List.foldr_cons]
    cases piece with
    | literal t =>
      rw [Segment.prependPiece, Segment.prependPiece, Room.renderAll_prependLiteral,
        Room.renderAll_prependLiteral, ih]
    | group g =>
      rcases homits (Call.ofSource g.source).name with hsame | ⟨hnone, hfails⟩
      · have hknows : smaller.knows (Call.ofSource g.source).name
            = registry.knows (Call.ofSource g.source).name := by
          rw [Registry.knows, Registry.knows, hsame]
        cases hk : registry.knows (Call.ofSource g.source).name with
        | true =>
          rw [Segment.prependPiece_known (hknows.trans hk), Segment.prependPiece_known hk,
            Room.renderAll_field, Room.renderAll_field]
          have halike := evaluateCall_alike homits hsame state item
          generalize room.evaluateCall smaller state item (Call.ofSource g.source) = a at halike ⊢
          generalize room.evaluateCall registry state item (Call.ofSource g.source) = b at halike ⊢
          cases halike with
          | same => rcases a with ⟨_ | _ | _, next⟩ <;> simp only [ih]
          | failed => simp only [ih]
        | false =>
          rw [Segment.prependPiece_unknown (hknows.trans hk), Segment.prependPiece_unknown hk,
            Room.renderAll_prependLiteral, Room.renderAll_prependLiteral, ih]
      · have hunknown : smaller.knows (Call.ofSource g.source).name = false := by
          rw [Registry.knows, hnone]
          rfl
        obtain ⟨failure, hcall⟩ := hfails state item (Call.ofSource g.source).args
        rw [Segment.prependPiece_unknown hunknown,
          Segment.prependPiece_known (hfails.knows item state), Room.renderAll_prependLiteral,
          Room.renderAll_field, hcall, ih]

/-- Leaving out fields that always fail changes no text of an item. -/
theorem renderAll_read_omits (source : Text) (item : Item) (state : PassState) :
    room.renderAll smaller item state (Pattern.read smaller source).segments
      = room.renderAll registry item state (Pattern.read registry source).segments :=
  renderAll_omits homits item (Piece.scan source) state

end NamePattern
