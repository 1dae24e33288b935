import NamePattern.Proofs.Evaluation.Target

/-!
What evaluation moves and what it leaves alone. A number field that succeeds moves the counter of its
key by one step; arguments that it refuses are refused before the counter is looked up. Every other
built-in field answers from the item, the options and the clock, and leaves the state as it found it.
The replace field needs an induction: its target is evaluated on the same state and may itself be a
replace field, but it takes up less room, and a number is refused before it is evaluated.
-/

namespace NamePattern

/-! ### Numbers -/

/-- A counter one step further. -/
def Counter.moved (counter : Counter) : Counter :=
  { counter with next := counter.next + counter.step }

/-- A number was taken from the counter of a key, begun as `initial` if it was not in use: that counter
is one step further, and there is no other change. -/
structure PassState.Takes (key : Text) (initial : Counter) (before after : PassState) : Prop where
  counter : after.counter? key = some ((before.counter? key).getD initial).moved
  others : ∀ other, other ≠ key → after.counter? other = before.counter? other
  scopes : after.scopes = before.scopes
  options : after.options = before.options
  now : after.now = before.now

namespace PassState

theorem find_setCounter (counters : List (Text × Counter)) (key other : Text) (counter : Counter) :
    ((setCounter counters key counter).find? fun entry => entry.1 = other).map Prod.snd
      = if other = key then some counter
        else (counters.find? fun entry => entry.1 = other).map Prod.snd := by
  induction counters with
  | nil =>
    by_cases h : key = other
    · simp [setCounter, h]
    · simp [setCounter, h, Ne.symm h]
  | cons entry rest ih =>
    rw [setCounter]
    by_cases hentry : entry.1 = key
    · rw [if_pos hentry]
      by_cases h : key = other
      · simp [h]
      · simp [h, Ne.symm h, hentry]
    · rw [if_neg hentry]
      by_cases h : entry.1 = other
      · have hne : other ≠ key := fun hkey => hentry (h.trans hkey)
        simp [h, hne]
      · simpa [h] using ih

theorem counter_takeNumber (state : PassState) (key other : Text) (initial : Counter) :
    (state.takeNumber key initial).2.counter? other
      = if other = key then
          some { (state.counter? key).getD initial with
            next := ((state.counter? key).getD initial).next
              + ((state.counter? key).getD initial).step }
        else state.counter? other :=
  find_setCounter state.counters key other _

theorem takes_takeNumber (state : PassState) (key : Text) (initial : Counter) :
    Takes key initial state (state.takeNumber key initial).2 :=
  ⟨(counter_takeNumber state key key initial).trans (if_pos rfl),
    fun other h => (counter_takeNumber state key other initial).trans (if_neg h), rfl, rfl, rfl⟩

end PassState

theorem Number.evaluate_of_parse {raw : List Text} {options : Number.Options}
    (h : parseArguments Number.spec Number.readOptions raw = .ok options) (state : PassState)
    (item : Item) (digits : Text) :
    Number.evaluate state item digits raw
      = let taken := state.takeNumber (counterKey digits (options.scope item))
          (options.counter digits (state.scopeTotal (options.scope item)))
        (.ok (Number.format taken.1.value taken.1.padding), taken.2) := by
  rw [Number.evaluate, h]

/-- A number field that fails changes nothing; one that succeeds takes its number from one counter. -/
theorem Number.evaluate_effect (state : PassState) (item : Item) (digits : Text) (raw : List Text) :
    (∃ failure, Number.evaluate state item digits raw = (.error failure, state)) ∨
    ∃ options, Number.readOptions (argumentValues raw) = .ok options ∧
      let key := counterKey digits (options.scope item)
      let initial := options.counter digits (state.scopeTotal (options.scope item))
      let counter := (state.counter? key).getD initial
      (Number.evaluate state item digits raw).1 = .ok (Number.format counter.next counter.padding) ∧
        state.Takes key initial (Number.evaluate state item digits raw).2 := by
  cases hparse : parseArguments Number.spec Number.readOptions raw with
  | error failure => exact .inl ⟨failure, by rw [Number.evaluate, hparse]⟩
  | ok options =>
    refine .inr ⟨options, read_of_parseArguments hparse, ?_⟩
    rw [Number.evaluate_of_parse hparse]
    exact ⟨rfl, PassState.takes_takeNumber state _ _⟩

/-- Called by anything but digits, a number field has no value and changes nothing. -/
theorem Number.evaluateNamed_of_not_isNumeral {name : Text} (h : name.isNumeral = false)
    (state : PassState) (item : Item) (raw : List Text) :
    (∀ value, (Number.evaluateNamed state item name raw).1 ≠ .ok (.ok value)) ∧
      (Number.evaluateNamed state item name raw).2 = state := by
  rw [Number.evaluateNamed, h]
  obtain ⟨failure, hfails⟩ | ⟨options, -, hvalue, -⟩ := Number.evaluate_effect state item name raw
  · rw [hfails]
    refine ⟨fun value hrefused => ?_, rfl⟩
    cases hrefused
  · rcases hrun : Number.evaluate state item name raw with ⟨failure | t, next⟩
    · rw [hrun] at hvalue
      cases hvalue
    · refine ⟨fun value hbroken => ?_, rfl⟩
      cases hbroken

/-- By whatever name it is called, a number field has no value and changes nothing, or it takes its number from
one counter. -/
theorem Number.evaluateNamed_effect (state : PassState) (item : Item) (name : Text) (raw : List Text) :
    ((∀ value, (Number.evaluateNamed state item name raw).1 ≠ .ok (.ok value)) ∧
      (Number.evaluateNamed state item name raw).2 = state) ∨
    ∃ options, Number.readOptions (argumentValues raw) = .ok options ∧
      let key := counterKey name (options.scope item)
      let initial := options.counter name (state.scopeTotal (options.scope item))
      let counter := (state.counter? key).getD initial
      (Number.evaluateNamed state item name raw).1
          = .ok (.ok (Number.format counter.next counter.padding)) ∧
        state.Takes key initial (Number.evaluateNamed state item name raw).2 := by
  cases hname : name.isNumeral with
  | false => exact .inl (Number.evaluateNamed_of_not_isNumeral hname state item raw)
  | true =>
    rw [Number.evaluateNamed_of_isNumeral hname]
    obtain ⟨failure, hfails⟩ | ⟨options, hread, hvalue, htakes⟩ :=
      Number.evaluate_effect state item name raw
    · rw [hfails]
      refine .inl ⟨fun value hrefused => ?_, rfl⟩
      cases hrefused
    · exact .inr ⟨options, hread, congrArg Except.ok hvalue, htakes⟩

namespace Registry

/-- A name made of digits is the number field's. -/
theorem find_builtin_numeral {name : Text} (h : name.isNumeral = true) :
    builtin.find? name = some (.builtin .number) := by
  simp [find?, builtin, Field.goesBy, h]

theorem ne_number_of_find_builtin {name : Text} {field : Field} (h : name.isNumeral = false)
    (hfind : builtin.find? name = some field) : field ≠ .builtin .number := by
  rintro rfl
  have hgoes := goesBy_of_find hfind
  rw [Field.goesBy, h] at hgoes
  cases hgoes

end Registry

/-! ### Other fields -/

/-- A registry without custom fields. -/
def Registry.Standard (registry : Registry) : Prop :=
  ∀ field ∈ registry.fields, ∃ kind, field = .builtin kind

theorem Registry.standard_builtin : Registry.builtin.Standard := by
  intro field hfield
  obtain ⟨kind, -, rfl⟩ := List.mem_map.1 hfield
  exact ⟨kind, rfl⟩

/-- Only the number field is of the kind of numbers. -/
theorem Registry.Standard.kind_ne_number {registry : Registry} (standard : registry.Standard)
    {field : Field} (hfield : field ∈ registry.fields) (hne : field ≠ .builtin .number) :
    field.kind ≠ .number := by
  obtain ⟨kind, rfl⟩ := standard field hfield
  exact fun h => hne (congrArg Field.builtin h)

/-- A target has the value of the call that it is read as, unless that is a number's. -/
theorem Replace.Request.evaluateTarget_value_iff {registry : Registry} (standard : registry.Standard)
    (request : Replace.Request) (state : PassState) (item : Item) (value : Text) :
    (request.evaluateTarget registry state item).1 = .ok (.ok value) ↔
      registry.find? request.targetCall.name ≠ some (.builtin .number) ∧
        (request.targetCall.evaluate registry state item).1 = .ok (.ok value) := by
  rw [Replace.Request.evaluateTarget, Call.evaluate]
  cases hfind : registry.find? request.targetCall.name with
  | none => simp
  | some target =>
    by_cases hnumber : target = .builtin .number
    · subst hnumber
      simp [Field.kind]
    · have hkind := standard.kind_ne_number (Registry.find_mem hfind) hnumber
      simp [hkind, hnumber]

/-- A field that is no number gives the same on every state with the same options and clock, and it
leaves each as it is. -/
theorem evaluate_eq_of_view {registry : Registry} (standard : registry.Standard)
    {state other : PassState} {item : Item} (hview : state.view item = other.view item)
    {field : Field} (hfield : field ∈ registry.fields) (hkind : field.kind ≠ .number) (name : Text)
    (raw : List Text) :
    evaluate registry state item field name raw
      = ((evaluate registry other item field name raw).1, state) := by
  induction field, name, raw using evaluation_induction with
  | custom definition name raw =>
    obtain ⟨kind, hcustom⟩ := standard _ hfield
    cases hcustom
  | number name raw => exact absurd rfl hkind
  | plain kind name raw hnumber hreplace =>
    rw [evaluate_plain _ _ _ _ hnumber hreplace, evaluate_plain _ _ _ _ hnumber hreplace, hview]
  | refused name raw failure hparse =>
    rw [evaluate_replace_of_error _ _ _ _ hparse, evaluate_replace_of_error _ _ _ _ hparse]
  | replace name raw request hparse ih =>
    have htarget : request.evaluateTarget registry state item
        = ((request.evaluateTarget registry other item).1, state) := by
      obtain ⟨failure, hrefused⟩ | ⟨target, hfind, hnumber, htarget⟩ :=
        request.evaluateTarget_cases registry
      · rw [hrefused, hrefused]
      · rw [htarget, htarget]
        exact ih target (Registry.find_mem hfind) hnumber
    rw [evaluate_replace_of_request _ _ _ _ hparse, evaluate_replace_of_request _ _ _ _ hparse,
      htarget]
    rcases request.evaluateTarget registry other item with ⟨_ | _ | _, _⟩ <;> rfl

/-- A field that is no number moves nothing. -/
theorem evaluate_snd_of_ne_number {registry : Registry} (standard : registry.Standard)
    (state : PassState) (item : Item) {field : Field} (hfield : field ∈ registry.fields)
    (hne : field ≠ .builtin .number) (name : Text) (raw : List Text) :
    (evaluate registry state item field name raw).2 = state := by
  rw [evaluate_eq_of_view standard rfl hfield (standard.kind_ne_number hfield hne)]

end NamePattern
