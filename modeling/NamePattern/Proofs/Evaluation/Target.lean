import NamePattern.Field.Evaluation

/-!
The evaluation of calls and of each kind of field, one equation a kind. The replace field evaluates its
target, any known field but a number, and then applies its request to the value. `evaluation_induction`
is the induction along nested targets, with one case for each way in which a field is evaluated.
-/

namespace NamePattern

/-- An item within some groups, with nothing else to tell of it. -/
def Item.within (path : List Text) : Item where
  name := text "layer"
  path := path
  tags := .ofList []
  isGroup := false
  width := 0
  height := 0
  x := 0
  y := 0
  image := {}

/-- Evaluates a call for an item. -/
def Call.evaluate (registry : Registry) (state : PassState) (item : Item) (call : Call) :
    Except Fault FieldResult × PassState :=
  match registry.find? call.name with
  | none => (.error (.unregistered call.name), state)
  | some field => NamePattern.evaluate registry state item field call.name call.args

/-- Evaluates the target of a request. -/
def Replace.Request.evaluateTarget (registry : Registry) (state : PassState) (item : Item)
    (request : Replace.Request) : Except Fault FieldResult × PassState :=
  match registry.find? request.targetCall.name with
  | none => (.ok (.error (.unknownTarget request.targetCall.name)), state)
  | some target =>
    if target.kind = .number then (.ok (.error .numberTarget), state)
    else evaluate registry state item target request.targetCall.name request.targetCall.args

theorem Registry.find_mem {registry : Registry} {name : Text} {field : Field}
    (h : registry.find? name = some field) : field ∈ registry.fields :=
  List.mem_of_find?_eq_some h

theorem Registry.goesBy_of_find {registry : Registry} {name : Text} {field : Field}
    (h : registry.find? name = some field) : field.goesBy name = true := by
  have hgoes := List.find?_some h
  exact hgoes

theorem Call.knows_of_evaluate {registry : Registry} {state : PassState} {item : Item} {call : Call}
    {result : FieldResult} (h : (call.evaluate registry state item).1 = .ok result) :
    registry.knows call.name = true := by
  rw [Call.evaluate] at h
  cases hfind : registry.find? call.name with
  | none =>
    rw [hfind] at h
    cases h
  | some field => rw [Registry.knows, hfind, Option.isSome_some]

/-! ### In a room -/

namespace Room

@[simp] theorem holds_unbounded (length : Nat) : unbounded.holds length = true := rfl

@[simp] theorem fit_unbounded (result : FieldResult) : unbounded.fit result = result := by
  cases result <;> rfl

@[simp] theorem fitted_unbounded (evaluated : Except Fault FieldResult × PassState) :
    unbounded.fitted evaluated = evaluated := by
  rcases evaluated with ⟨_ | result, next⟩
  · rfl
  · exact congrArg (fun result => (Except.ok result, next)) (fit_unbounded result)

/-- Evaluates the target of a request in a room. -/
def evaluateTarget (room : Room) (registry : Registry) (state : PassState) (item : Item)
    (request : Replace.Request) : Except Fault FieldResult × PassState :=
  match registry.find? request.targetCall.name with
  | none => (.ok (.error (.unknownTarget request.targetCall.name)), state)
  | some target =>
    if target.kind = .number then (.ok (.error .numberTarget), state)
    else room.evaluate registry state item target request.targetCall.name request.targetCall.args

/-- Evaluates a call for an item in a room. -/
def evaluateCall (room : Room) (registry : Registry) (state : PassState) (item : Item) (call : Call) :
    Except Fault FieldResult × PassState :=
  match registry.find? call.name with
  | none => (.error (.unregistered call.name), state)
  | some field => room.evaluate registry state item field call.name call.args

variable (room : Room) (registry : Registry) (state : PassState) (item : Item) (name : Text)

theorem evaluate_custom (definition : CustomField) (raw : List Text) :
    room.evaluate registry state item (.custom definition) name raw
      = room.fitted (definition.evaluate state item name raw) := by
  rw [evaluate]

theorem evaluate_number (raw : List Text) :
    room.evaluate registry state item (.builtin .number) name raw
      = room.fitted (Number.evaluateNamed state item name raw) := by
  rw [evaluate]

theorem evaluate_plain {kind : FieldKind} (hnumber : kind ≠ .number) (hreplace : kind ≠ .replace)
    (raw : List Text) :
    room.evaluate registry state item (.builtin kind) name raw
      = room.fitted (.ok (kind.evaluatePlain (state.view item) raw), state) := by
  rw [evaluate]
  · exact hnumber
  · exact hreplace

theorem evaluate_replace_of_error {raw : List Text} {failure : Failure}
    (h : parseArguments Replace.spec Replace.readRequest raw = .error failure) :
    room.evaluate registry state item (.builtin .replace) name raw
      = (.ok (.error failure), state) := by
  rw [evaluate]
  split
  · next found hfound => rw [h] at hfound; cases hfound; rfl
  · next request hrequest => rw [h] at hrequest; cases hrequest

theorem evaluate_replace_of_request {raw : List Text} {request : Replace.Request}
    (h : parseArguments Replace.spec Replace.readRequest raw = .ok request) :
    room.evaluate registry state item (.builtin .replace) name raw
      = match room.evaluateTarget registry state item request with
        | (.ok (.ok value), next) => (.ok (room.fit (request.apply value)), next)
        | other => other := by
  rw [evaluate]
  split
  · next found hfound => rw [h] at hfound; cases hfound
  · next found hfound =>
    rw [h] at hfound
    cases hfound
    rw [evaluateTarget]
    cases hfind : registry.find? request.targetCall.name with
    | none => simp only [hfind]
    | some target =>
      simp only [hfind]
      split
      · rfl
      · rfl

section
variable {registry} {request : Replace.Request}

theorem evaluateTarget_of_none (hfind : registry.find? request.targetCall.name = none) :
    room.evaluateTarget registry state item request
      = (.ok (.error (.unknownTarget request.targetCall.name)), state) := by
  rw [evaluateTarget, hfind]

variable {target : Field} (hfind : registry.find? request.targetCall.name = some target)
include hfind

theorem evaluateTarget_of_number (hnumber : target.kind = .number) :
    room.evaluateTarget registry state item request = (.ok (.error .numberTarget), state) := by
  rw [evaluateTarget, hfind]
  exact if_pos hnumber

theorem evaluateTarget_of_target (hnumber : target.kind ≠ .number) :
    room.evaluateTarget registry state item request
      = room.evaluate registry state item target request.targetCall.name
          request.targetCall.args := by
  rw [evaluateTarget, hfind]
  exact if_neg hnumber

end

/-- A target is refused, whatever the state, or it is a field that is no number and is evaluated. -/
theorem evaluateTarget_cases (request : Replace.Request) :
    (∃ failure, ∀ state item,
      room.evaluateTarget registry state item request = (.ok (.error failure), state)) ∨
    ∃ target, registry.find? request.targetCall.name = some target ∧ target.kind ≠ .number ∧
      ∀ state item, room.evaluateTarget registry state item request
        = room.evaluate registry state item target request.targetCall.name
            request.targetCall.args := by
  cases hfind : registry.find? request.targetCall.name with
  | none => exact .inl ⟨_, fun state item => room.evaluateTarget_of_none state item hfind⟩
  | some target =>
    by_cases hnumber : target.kind = .number
    · exact .inl ⟨_, fun state item => room.evaluateTarget_of_number state item hfind hnumber⟩
    · exact .inr ⟨target, rfl, hnumber,
        fun state item => room.evaluateTarget_of_target state item hfind hnumber⟩

end Room

/-- The number field as patterns call it, by digits. -/
theorem Number.evaluateNamed_of_isNumeral {name : Text} (h : name.isNumeral = true)
    (state : PassState) (item : Item) (raw : List Text) :
    Number.evaluateNamed state item name raw
      = (.ok (Number.evaluate state item name raw).1, (Number.evaluate state item name raw).2) := by
  rw [Number.evaluateNamed]
  rcases Number.evaluate state item name raw with ⟨_ | t, next⟩
  · rfl
  · exact if_pos h

/-! ### Where there is room for any text -/

section
variable (registry : Registry) (state : PassState) (item : Item) (name : Text)

theorem evaluate_custom (definition : CustomField) (raw : List Text) :
    evaluate registry state item (.custom definition) name raw
      = definition.evaluate state item name raw := by
  rw [evaluate, Room.evaluate_custom, Room.fitted_unbounded]

theorem evaluate_number (raw : List Text) :
    evaluate registry state item (.builtin .number) name raw
      = Number.evaluateNamed state item name raw := by
  rw [evaluate, Room.evaluate_number, Room.fitted_unbounded]

theorem evaluate_number_of_isNumeral {name : Text} (h : name.isNumeral = true) (raw : List Text) :
    evaluate registry state item (.builtin .number) name raw
      = (.ok (Number.evaluate state item name raw).1, (Number.evaluate state item name raw).2) := by
  rw [evaluate_number, Number.evaluateNamed_of_isNumeral h]

theorem evaluate_plain {kind : FieldKind} (hnumber : kind ≠ .number) (hreplace : kind ≠ .replace)
    (raw : List Text) :
    evaluate registry state item (.builtin kind) name raw
      = (.ok (kind.evaluatePlain (state.view item) raw), state) := by
  rw [evaluate, Room.evaluate_plain _ _ _ _ _ hnumber hreplace, Room.fitted_unbounded]

theorem evaluate_replace_of_error {raw : List Text} {failure : Failure}
    (h : parseArguments Replace.spec Replace.readRequest raw = .error failure) :
    evaluate registry state item (.builtin .replace) name raw = (.ok (.error failure), state) :=
  Room.evaluate_replace_of_error _ _ _ _ _ h

theorem evaluate_replace_of_request {raw : List Text} {request : Replace.Request}
    (h : parseArguments Replace.spec Replace.readRequest raw = .ok request) :
    evaluate registry state item (.builtin .replace) name raw
      = match request.evaluateTarget registry state item with
        | (.ok (.ok value), next) => (.ok (request.apply value), next)
        | other => other := by
  rw [evaluate, Room.evaluate_replace_of_request _ _ _ _ _ h]
  simp only [Room.fit_unbounded]
  rfl

/-- A replace field has a value where its target has one that the request can be applied to. -/
theorem evaluate_replace_value_iff (raw : List Text) (value : Text) :
    (evaluate registry state item (.builtin .replace) name raw).1 = .ok (.ok value) ↔
      ∃ request inner, parseArguments Replace.spec Replace.readRequest raw = .ok request ∧
        (request.evaluateTarget registry state item).1 = .ok (.ok inner) ∧
        request.apply inner = .ok value := by
  cases hparse : parseArguments Replace.spec Replace.readRequest raw with
  | error failure =>
    rw [evaluate_replace_of_error _ _ _ _ hparse]
    simp
  | ok request =>
    rw [evaluate_replace_of_request _ _ _ _ hparse]
    simp only [Except.ok.injEq, exists_and_left, exists_eq_left']
    rcases request.evaluateTarget registry state item with ⟨_ | _ | inner, next⟩ <;> simp

end

theorem Replace.Request.evaluateTarget_eq (registry : Registry) (state : PassState) (item : Item)
    (request : Replace.Request) : request.evaluateTarget registry state item
      = Room.unbounded.evaluateTarget registry state item request := rfl

/-- A target is refused, whatever the state, or it is a field that is no number and is evaluated. -/
theorem Replace.Request.evaluateTarget_cases (registry : Registry) (request : Replace.Request) :
    (∃ failure, ∀ state item,
      request.evaluateTarget registry state item = (.ok (.error failure), state)) ∨
    ∃ target, registry.find? request.targetCall.name = some target ∧ target.kind ≠ .number ∧
      ∀ state item, request.evaluateTarget registry state item
        = evaluate registry state item target request.targetCall.name request.targetCall.args :=
  Room.unbounded.evaluateTarget_cases registry request

/-- Induction along nested targets. -/
theorem evaluation_induction {motive : Field → Text → List Text → Prop}
    (custom : ∀ definition name raw, motive (.custom definition) name raw)
    (number : ∀ name raw, motive (.builtin .number) name raw)
    (plain : ∀ kind name raw, kind ≠ .number → kind ≠ .replace → motive (.builtin kind) name raw)
    (refused : ∀ name raw failure,
      parseArguments Replace.spec Replace.readRequest raw = .error failure →
      motive (.builtin .replace) name raw)
    (replace : ∀ name raw request,
      parseArguments Replace.spec Replace.readRequest raw = .ok request →
      (∀ target, motive target request.targetCall.name request.targetCall.args) →
      motive (.builtin .replace) name raw)
    (field : Field) (name : Text) (raw : List Text) : motive field name raw := by
  -- the arguments of a target take up less than those of its call
  induction hlen : totalLength raw using Nat.strongRecOn generalizing field name raw with
  | ind length ih =>
    subst hlen
    cases field with
    | custom definition => exact custom definition name raw
    | builtin kind =>
      by_cases hnumber : kind = .number
      · subst hnumber
        exact number name raw
      by_cases hreplace : kind = .replace
      · subst hreplace
        cases hparse : parseArguments Replace.spec Replace.readRequest raw with
        | error failure => exact refused name raw failure hparse
        | ok request =>
          refine replace name raw request hparse fun target => ?_
          exact ih _ (Replace.totalLength_targetCall_lt hparse) target _ _ rfl
      · exact plain kind name raw hnumber hreplace

namespace Room

theorem fit_cases (room : Room) (result : FieldResult) :
    room.fit result = result ∨ room.fit result = .error (.outOfRange tooLongMessage) := by
  cases result with
  | error failure => exact .inl rfl
  | ok value =>
    rw [fit]
    split
    · exact .inl rfl
    · exact .inr rfl

theorem fitted_cases (room : Room) (evaluated : Except Fault FieldResult × PassState) :
    room.fitted evaluated = evaluated ∨
      room.fitted evaluated = (.ok (.error (.outOfRange tooLongMessage)), evaluated.2) := by
  rcases evaluated with ⟨fault | result, next⟩
  · exact .inl rfl
  · refine (room.fit_cases result).imp (fun h => ?_) fun h => ?_
    · exact congrArg (fun result => (Except.ok result, next)) h
    · exact congrArg (fun result => (Except.ok result, next)) h

/-- In a room a field is evaluated as it is where there is room for any text, or it fails because it is
too long. It leaves the same state either way. -/
theorem evaluate_cases (room : Room) (registry : Registry) (state : PassState) (item : Item)
    (field : Field) (name : Text) (raw : List Text) :
    room.evaluate registry state item field name raw
        = NamePattern.evaluate registry state item field name raw ∨
      room.evaluate registry state item field name raw
        = (.ok (.error (.outOfRange tooLongMessage)),
          (NamePattern.evaluate registry state item field name raw).2) := by
  induction field, name, raw using evaluation_induction with
  | custom definition name raw =>
    rw [evaluate_custom, NamePattern.evaluate_custom]
    exact room.fitted_cases _
  | number name raw =>
    rw [evaluate_number, NamePattern.evaluate_number]
    exact room.fitted_cases _
  | plain kind name raw hnumber hreplace =>
    rw [evaluate_plain _ _ _ _ _ hnumber hreplace,
      NamePattern.evaluate_plain _ _ _ _ hnumber hreplace]
    exact room.fitted_cases _
  | refused name raw failure hparse =>
    rw [evaluate_replace_of_error _ _ _ _ _ hparse,
      NamePattern.evaluate_replace_of_error _ _ _ _ hparse]
    exact .inl rfl
  | replace name raw request hparse ih =>
    have htarget : room.evaluateTarget registry state item request
          = request.evaluateTarget registry state item ∨
        room.evaluateTarget registry state item request
          = (.ok (.error (.outOfRange tooLongMessage)),
            (request.evaluateTarget registry state item).2) := by
      rw [evaluateTarget, Replace.Request.evaluateTarget]
      cases registry.find? request.targetCall.name with
      | none => exact .inl rfl
      | some target =>
        dsimp only
        split
        · exact .inl rfl
        · exact ih target
    rw [evaluate_replace_of_request _ _ _ _ _ hparse,
      NamePattern.evaluate_replace_of_request _ _ _ _ hparse]
    obtain htarget | htarget := htarget
    · rw [htarget]
      rcases request.evaluateTarget registry state item with ⟨fault | failure | value, next⟩
      · exact .inl rfl
      · exact .inl rfl
      · refine (room.fit_cases (request.apply value)).imp (fun h => ?_) fun h => ?_
        · exact congrArg (fun result => (Except.ok result, next)) h
        · exact congrArg (fun result => (Except.ok result, next)) h
    · -- the target that is too long for the room may have had a value
      rw [htarget]
      rcases request.evaluateTarget registry state item with ⟨fault | failure | value, next⟩
      · exact .inr rfl
      · exact .inr rfl
      · exact .inr rfl

end Room

end NamePattern
