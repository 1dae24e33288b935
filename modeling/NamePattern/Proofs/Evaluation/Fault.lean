import NamePattern.Proofs.Evaluation.Frame

/-!
Evaluation in a registry none of whose custom fields breaks: it gives a value or a failure and never
stops a pass, whatever is nested in the targets. A name without a field could stop it too, but a target
is looked up before it is evaluated.
-/

namespace NamePattern

/-- A custom field that never breaks. -/
def CustomField.Unbroken (definition : CustomField) : Prop :=
  ∀ state item name values message,
    (definition.answer.run state item name values).1 ≠ .broken message

/-- A registry none of whose custom fields breaks. -/
def Registry.Unbroken (registry : Registry) : Prop :=
  ∀ definition, .custom definition ∈ registry.fields → definition.Unbroken

/-- A registry without custom fields has none that breaks. -/
theorem Registry.Standard.unbroken {registry : Registry} (standard : registry.Standard) :
    registry.Unbroken := by
  intro definition hmem
  obtain ⟨kind, hkind⟩ := standard _ hmem
  cases hkind

theorem CustomField.Unbroken.evaluate {definition : CustomField} (h : definition.Unbroken)
    (state : PassState) (item : Item) (name : Text) (raw : List Text) :
    ∃ result, (definition.evaluate state item name raw).1 = .ok result := by
  rw [CustomField.evaluate]
  cases parseArguments definition.spec .ok raw with
  | error failure => exact ⟨_, rfl⟩
  | ok values =>
    dsimp only
    have hbroken := h state item name values
    rcases hrun : definition.answer.run state item name values with ⟨_ | _ | _ | message, next⟩
    · exact ⟨_, rfl⟩
    · exact ⟨_, rfl⟩
    · exact ⟨_, rfl⟩
    · rw [hrun] at hbroken
      exact absurd rfl (hbroken message)

theorem Room.fitted_fst_eq_ok (room : Room) {evaluated : Except Fault FieldResult × PassState}
    (h : ∃ result, evaluated.1 = .ok result) : ∃ result, (room.fitted evaluated).1 = .ok result := by
  obtain ⟨result, hresult⟩ := h
  exact ⟨room.fit result, by rw [fitted, hresult]; rfl⟩

/-- Evaluation gives a value or a failure in any room, the number field's if it is called by digits. -/
theorem Registry.Unbroken.evaluate {registry : Registry} (h : registry.Unbroken) (room : Room)
    (state : PassState) (item : Item) {field : Field} (hfield : field ∈ registry.fields) {name : Text}
    (hdigits : field = .builtin .number → name.isNumeral = true) (raw : List Text) :
    ∃ result, (room.evaluate registry state item field name raw).1 = .ok result := by
  induction field, name, raw using evaluation_induction with
  | custom definition name raw =>
    rw [Room.evaluate_custom]
    exact room.fitted_fst_eq_ok ((h definition hfield).evaluate state item name raw)
  | number name raw =>
    rw [Room.evaluate_number, Number.evaluateNamed_of_isNumeral (hdigits rfl)]
    exact ⟨_, rfl⟩
  | plain kind name raw hnumber hreplace =>
    rw [Room.evaluate_plain _ _ _ _ _ hnumber hreplace]
    exact ⟨_, rfl⟩
  | refused name raw failure hparse =>
    rw [Room.evaluate_replace_of_error _ _ _ _ _ hparse]
    exact ⟨_, rfl⟩
  | replace name raw request hparse ih =>
    have htarget : ∃ result, (room.evaluateTarget registry state item request).1 = .ok result := by
      obtain ⟨failure, hrefused⟩ | ⟨target, hfind, hnumber, htarget⟩ :=
        room.evaluateTarget_cases registry request
      · exact ⟨_, congrArg Prod.fst (hrefused state item)⟩
      · rw [htarget]
        exact ih target (Registry.find_mem hfind) fun hkind => absurd (congrArg Field.kind hkind) hnumber
    obtain ⟨result, hresult⟩ := htarget
    rw [Room.evaluate_replace_of_request _ _ _ _ _ hparse]
    rcases hrun : room.evaluateTarget registry state item request with ⟨_ | _ | _, next⟩
    · rw [hrun] at hresult
      cases hresult
    · exact ⟨_, rfl⟩
    · exact ⟨_, rfl⟩

end NamePattern
