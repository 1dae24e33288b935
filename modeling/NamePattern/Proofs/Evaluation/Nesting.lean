import Mathlib.Control.Monad.Basic
import NamePattern.Proofs.Evaluation.Target

/-!
How deep targets nest. The rules of evaluation say nothing about an end: the target of a replace field may
be a replace field again, and a registry may give any name to it. What brings evaluation to an end is room.
Between the arguments of a call and those of its target there is at least a comma, whatever the texts are,
so each call within another uses up a unit of the arguments.
-/

namespace NamePattern

/-- What a replace field makes of the evaluation of its target. -/
def Replace.Request.finish (request : Replace.Request) :
    Except Fault FieldResult × PassState → Except Fault FieldResult × PassState
  | (.ok (.ok value), next) => (.ok (request.apply value), next)
  | other => other

/-- How a field is evaluated, rule by rule, with the number of calls that are made within one another for
the sake of targets, and with what comes of it. -/
inductive Evaluates (registry : Registry) (state : PassState) (item : Item) :
    Field → Text → List Text → Nat → Except Fault FieldResult × PassState → Prop
  | custom {definition name raw} :
      Evaluates registry state item (.custom definition) name raw 0
        (definition.evaluate state item name raw)
  | number {name raw} :
      Evaluates registry state item (.builtin .number) name raw 0
        (Number.evaluateNamed state item name raw)
  | plain {kind name raw} (hnumber : kind ≠ .number) (hreplace : kind ≠ .replace) :
      Evaluates registry state item (.builtin kind) name raw 0
        (.ok (kind.evaluatePlain (state.view item) raw), state)
  | refused {name raw failure}
      (hparse : parseArguments Replace.spec Replace.readRequest raw = .error failure) :
      Evaluates registry state item (.builtin .replace) name raw 0 (.ok (.error failure), state)
  | unknownTarget {name raw request}
      (hparse : parseArguments Replace.spec Replace.readRequest raw = .ok request)
      (hfind : registry.find? request.targetCall.name = none) :
      Evaluates registry state item (.builtin .replace) name raw 0
        (.ok (.error (.unknownTarget request.targetCall.name)), state)
  | numberTarget {name raw request target}
      (hparse : parseArguments Replace.spec Replace.readRequest raw = .ok request)
      (hfind : registry.find? request.targetCall.name = some target)
      (hnumber : target.kind = .number) :
      Evaluates registry state item (.builtin .replace) name raw 0
        (.ok (.error .numberTarget), state)
  | target {name raw request target calls outcome}
      (hparse : parseArguments Replace.spec Replace.readRequest raw = .ok request)
      (hfind : registry.find? request.targetCall.name = some target)
      (hnumber : target.kind ≠ .number)
      (htarget : Evaluates registry state item target request.targetCall.name
        request.targetCall.args calls outcome) :
      Evaluates registry state item (.builtin .replace) name raw (calls + 1) (request.finish outcome)

section
variable {registry : Registry} {state : PassState} {item : Item}

/-- A replace field finishes the evaluation of its target. -/
theorem evaluate_replace_eq_finish {raw : List Text} {request : Replace.Request}
    (hparse : parseArguments Replace.spec Replace.readRequest raw = .ok request) (name : Text) :
    evaluate registry state item (.builtin .replace) name raw
      = request.finish (Room.unbounded.evaluateTarget registry state item request) := by
  rw [evaluate_replace_of_request _ _ _ _ hparse, Replace.Request.evaluateTarget_eq]
  rcases Room.unbounded.evaluateTarget registry state item request with ⟨_ | _ | _, next⟩ <;> rfl

namespace Evaluates
variable {field : Field} {name : Text} {raw : List Text}

/-- The rules give nothing but what evaluation gives. -/
theorem outcome_eq {calls : Nat} {outcome : Except Fault FieldResult × PassState}
    (h : Evaluates registry state item field name raw calls outcome) :
    outcome = evaluate registry state item field name raw := by
  induction h with
  | custom => rw [evaluate_custom]
  | number => rw [evaluate_number]
  | plain hnumber hreplace => rw [evaluate_plain _ _ _ _ hnumber hreplace]
  | refused hparse => rw [evaluate_replace_of_error _ _ _ _ hparse]
  | unknownTarget hparse hfind =>
    rw [evaluate_replace_eq_finish hparse, Room.evaluateTarget_of_none _ _ _ hfind]
    rfl
  | numberTarget hparse hfind hnumber =>
    rw [evaluate_replace_eq_finish hparse, Room.evaluateTarget_of_number _ _ _ hfind hnumber]
    rfl
  | target hparse hfind hnumber _ ih =>
    rw [evaluate_replace_eq_finish hparse, Room.evaluateTarget_of_target _ _ _ hfind hnumber, ih,
      evaluate]

/-- Each call within another takes up less room than the one around it. -/
theorem calls_le {calls : Nat} {outcome : Except Fault FieldResult × PassState}
    (h : Evaluates registry state item field name raw calls outcome) : calls ≤ totalLength raw := by
  induction h with
  | custom | number | plain | refused | unknownTarget | numberTarget => exact Nat.zero_le _
  | target hparse _ _ _ ih =>
    have hshorter := Replace.totalLength_targetCall_lt hparse
    omega

/-- By the rules every evaluation comes to an end. -/
theorem exists_calls (registry : Registry) (state : PassState) (item : Item) (field : Field)
    (name : Text) (raw : List Text) :
    ∃ calls, Evaluates registry state item field name raw calls
      (evaluate registry state item field name raw) := by
  induction field, name, raw using evaluation_induction with
  | custom definition name raw =>
    rw [evaluate_custom]
    exact ⟨0, .custom⟩
  | number name raw =>
    rw [evaluate_number]
    exact ⟨0, .number⟩
  | plain kind name raw hnumber hreplace =>
    rw [evaluate_plain _ _ _ _ hnumber hreplace]
    exact ⟨0, .plain hnumber hreplace⟩
  | refused name raw failure hparse =>
    rw [evaluate_replace_of_error _ _ _ _ hparse]
    exact ⟨0, .refused hparse⟩
  | replace name raw request hparse ih =>
    rw [evaluate_replace_eq_finish hparse]
    cases hfind : registry.find? request.targetCall.name with
    | none =>
      rw [Room.evaluateTarget_of_none _ _ _ hfind]
      exact ⟨0, .unknownTarget hparse hfind⟩
    | some target =>
      by_cases hnumber : target.kind = .number
      · rw [Room.evaluateTarget_of_number _ _ _ hfind hnumber]
        exact ⟨0, .numberTarget hparse hfind hnumber⟩
      · rw [Room.evaluateTarget_of_target _ _ _ hfind hnumber]
        obtain ⟨calls, htarget⟩ := ih target
        exact ⟨calls + 1, .target hparse hfind hnumber htarget⟩

end Evaluates

end

/-- The arguments of a target take up less than those that a replace field accepts, so that evaluation comes
to an end in any registry and with any arguments: it makes no more calls within one another than there are
units in the arguments, and what comes of it is what the rules give. -/
theorem nested_targets_use_up_arguments (registry : Registry) (state : PassState) (item : Item) :
    (∀ raw request, parseArguments Replace.spec Replace.readRequest raw = .ok request →
      totalLength (Call.ofSource request.target).args < totalLength raw) ∧
    ∀ field name raw,
      (∃ calls, Evaluates registry state item field name raw calls
        (evaluate registry state item field name raw)) ∧
      ∀ calls outcome, Evaluates registry state item field name raw calls outcome →
        calls ≤ totalLength raw ∧ outcome = evaluate registry state item field name raw := by
  refine ⟨fun raw request hparse => Replace.totalLength_targetCall_lt hparse, ?_⟩
  intro field name raw
  refine ⟨Evaluates.exists_calls registry state item field name raw, ?_⟩
  intro calls outcome h
  exact ⟨h.calls_le, h.outcome_eq⟩

/-- The target of the target is a name, so two calls are made within the first. -/
theorem replace_within_replace_makes_two_calls :
    let raw := [text " [replace, [[layer name]], [[a]], [[b]] ]", text " [b]", text " [c] "]
    let state := PassState.start [] {} none
    let item := Item.within []
    (∃ request, parseArguments Replace.spec Replace.readRequest raw = .ok request ∧
      totalLength (Call.ofSource request.target).args < totalLength raw) ∧
    Evaluates .builtin state item (.builtin .replace) (text "replace") raw 2
      (.ok (.ok (text "lcyer")), state) ∧
    2 ≤ totalLength raw := by
  intro raw state item
  have houter : parseArguments Replace.spec Replace.readRequest raw
      = .ok ⟨text "replace, [layer name], [a], [b] ", text "b", text "c", 0, { global := true }⟩ := by
    decide +kernel
  have hinner : parseArguments Replace.spec Replace.readRequest
      (Call.ofSource (text "replace, [layer name], [a], [b] ")).args
      = .ok ⟨text "layer name", text "a", text "b", 0, { global := true }⟩ := by
    decide +kernel
  obtain ⟨hshorter, hends⟩ := nested_targets_use_up_arguments .builtin state item
  have hreplace : Registry.builtin.find? (text "replace") = some (.builtin .replace) := rfl
  have hname : Registry.builtin.find? (text "layer name") = some (.builtin .layerName) := rfl
  have hcalls : Evaluates .builtin state item (.builtin .replace) (text "replace") raw 2 _ :=
    .target houter hreplace (by decide)
      (.target hinner hname (by decide) (.plain (by decide) (by decide)))
  obtain ⟨hle, houtcome⟩ := (hends (.builtin .replace) (text "replace") raw).2 _ _ hcalls
  have hvalue : evaluate .builtin state item (.builtin .replace) (text "replace") raw
      = (.ok (.ok (text "lcyer")), state) := by
    decide +kernel
  rw [houtcome, hvalue] at hcalls
  exact ⟨⟨_, houter, hshorter raw _ houter⟩, hcalls, hle⟩

end NamePattern
