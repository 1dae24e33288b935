import NamePattern.Proofs.Numbering.Isolation

/-!
Patterns with one number. Such a pattern writes literal text, a number and literal text again for each item.
The number is told by how many items its scope has and how many of them came before. `Counted` says so of
the counters of a state: an item moves the counter of its own scope by one step, and no other counter. So
the texts of a pass are known from its items alone.
-/

namespace NamePattern

/-- The only number field of a pattern and the literal text around it. -/
structure SoleNumber where
  before : Text
  number : NumberUse
  after : Text
  deriving DecidableEq

namespace Segment

/-- The text of segments that are all literal. -/
def literalText? : List Segment → Option Text
  | [] => some []
  | .literal t :: rest => (literalText? rest).map (t ++ ·)
  | .field _ _ :: _ => none

/-- The number of segments that are literal but for one number field. -/
def soleNumber? : List Segment → Option SoleNumber
  | [] => none
  | .literal t :: rest =>
    (soleNumber? rest).map fun sole => { sole with before := t ++ sole.before }
  | .field call g :: rest =>
    match (field call g).number?, literalText? rest with
    | some number, some after => some ⟨[], number, after⟩
    | _, _ => none

end Segment

/-- The number of a pattern that has one number field, with readable arguments, and no other field. -/
def Pattern.soleNumber? (pattern : Pattern) : Option SoleNumber :=
  Segment.soleNumber? pattern.segments

/-- A counter after so many numbers were taken from it. -/
def Counter.after (counter : Counter) (count : Nat) : Counter :=
  { counter with next := counter.next + count * counter.step }

namespace NumberUse

/-- How many of some items are numbered in a scope. -/
def countIn (number : NumberUse) (items : List Item) (scope : Option (List Text)) : Nat :=
  items.countP fun item => number.path item = scope

/-- How wide a number is written. -/
def width (number : NumberUse) : Nat := number.options.padding.getD number.digits.length

/-- The number that follows `count` others in a scope of `total` items. -/
def valueAt (number : NumberUse) (total count : Nat) : Int :=
  ((number.counter total).after count).next

/-- The text of the number that follows `count` others in a scope of `total` items. -/
def textAt (number : NumberUse) (total count : Nat) : Text :=
  Number.format (number.valueAt total count) number.width

end NumberUse

/-- The text of an item in a scope of `total` items that follows `count` of them. -/
def SoleNumber.textAt (sole : SoleNumber) (total count : Nat) : Text :=
  sole.before ++ sole.number.textAt total count ++ sole.after

/-! ### One item -/

namespace Segment

theorem renderAll_of_literalText {segments : List Segment} {t : Text}
    (h : literalText? segments = some t) (registry : Registry) (item : Item) (state : PassState) :
    renderAll registry item state segments = (.ok t, state) := by
  induction segments generalizing t with
  | nil => cases h; rfl
  | cons segment rest ih =>
    cases segment with
    | literal s =>
      obtain ⟨more, hmore, rfl⟩ := Option.map_eq_some_iff.1 h
      rw [renderAll_literal, ih hmore]
      rfl
    | field call g => cases h

theorem soleNumber_field_eq_some {call : Call} {g : Group} {rest : List Segment} {sole : SoleNumber}
    (h : soleNumber? (.field call g :: rest) = some sole) :
    (field call g).number? = some sole.number ∧ literalText? rest = some sole.after ∧
      sole.before = [] := by
  rw [soleNumber?] at h
  split at h
  · next number after hnumber hafter =>
    cases h
    exact ⟨hnumber, hafter, rfl⟩
  · cases h

/-- Segments with one number write the next number of the item's scope between their literal texts. -/
theorem renderAll_of_soleNumber {segments : List Segment} {sole : SoleNumber}
    (h : soleNumber? segments = some sole) (item : Item) (state : PassState) :
    renderAll .builtin item state segments
      = let key := sole.number.keyFor item
        let taken := state.takeNumber key.toText (sole.number.counter (state.scopeTotal key.scope))
        (.ok (sole.before ++ Number.format taken.1.value taken.1.padding ++ sole.after), taken.2) := by
  induction segments generalizing sole with
  | nil => cases h
  | cons segment rest ih =>
    cases segment with
    | literal t =>
      obtain ⟨inner, hinner, rfl⟩ := Option.map_eq_some_iff.1 h
      rw [renderAll_literal, ih hinner]
      simp only [prependText, Except.map, List.append_assoc]
    | field call g =>
      obtain ⟨hnumber, hafter, hbefore⟩ := soleNumber_field_eq_some h
      rw [renderAll_field, Call.evaluate_takes_number hnumber]
      dsimp only
      rw [renderAll_of_literalText hafter, hbefore]
      rfl

theorem isNumeral_of_soleNumber {segments : List Segment} {sole : SoleNumber}
    (h : soleNumber? segments = some sole) : sole.number.digits.isNumeral = true := by
  induction segments generalizing sole with
  | nil => cases h
  | cons segment rest ih =>
    cases segment with
    | literal t =>
      obtain ⟨inner, hinner, rfl⟩ := Option.map_eq_some_iff.1 h
      have hnumeral := ih hinner
      exact hnumeral
    | field call g =>
      obtain ⟨hnumber, -, -⟩ := soleNumber_field_eq_some h
      obtain ⟨hnumeral, hdigits, -⟩ := number_eq_some hnumber
      rw [hdigits]
      exact hnumeral

end Segment

/-! ### Counting -/

theorem Counter.after_succ (counter : Counter) (count : Nat) :
    counter.after (count + 1)
      = { counter.after count with
          next := (counter.after count).next + (counter.after count).step } := by
  simp only [after, Counter.mk.injEq, and_true]
  rw [Int.natCast_succ, Int.add_mul, Int.one_mul, Int.add_assoc]

theorem NumberUse.countIn_concat (number : NumberUse) (done : List Item) (item : Item)
    (scope : Option (List Text)) :
    number.countIn (done ++ [item]) scope
      = number.countIn done scope + if number.path item = scope then 1 else 0 := by
  simp [countIn, List.countP_append, List.countP_singleton]

theorem NumberUse.countIn_cons (number : NumberUse) (item : Item) (rest : List Item)
    (scope : Option (List Text)) :
    number.countIn (item :: rest) scope
      = number.countIn rest scope + if number.path item = scope then 1 else 0 := by
  simp [countIn, List.countP_cons]

/-- The total of the scope of an item. -/
theorem NumberUse.scopeTotal_eq_countIn (number : NumberUse) {items : List Item} {state : PassState}
    (h : state.scopes = items.map scopeKey) (item : Item) :
    state.scopeTotal (number.keyFor item).scope = number.countIn items (number.path item) := by
  rw [NumberKey.scopeTotal_eq_total h, NumberKey.total, keyFor, countIn, path]
  cases hacross : number.options.acrossGroups <;> simp [path, scopePath, hacross]

/-- The state of a pass over `items` in which a number was taken for each of the items in `done`: the
counter of a scope is where the items of that scope among them have brought it. -/
structure Counted (number : NumberUse) (items done : List Item) (state : PassState) : Prop where
  scopes : state.scopes = items.map scopeKey
  counters : ∀ scope,
    let initial := number.counter (number.countIn items scope)
    (state.counter? (NumberKey.mk number.digits scope).toText).getD initial
      = initial.after (number.countIn done scope)

namespace Counted
variable {number : NumberUse} {items done : List Item} {state : PassState}

theorem start (number : NumberUse) (items : List Item) (options : RenderOptions)
    (now : Option Instant) : Counted number items [] (.start items options now) := by
  refine ⟨rfl, fun scope => ?_⟩
  simp [PassState.start, PassState.counter?, NumberUse.countIn, Counter.after]

/-- An item takes the number that the items of its scope before it leave, and the counter of its scope, and
no other, moves on. -/
theorem take (hdigits : number.digits.all isDigit = true) (h : Counted number items done state)
    (item : Item) :
    let total := number.countIn items (number.path item)
    let taken := state.takeNumber (number.keyFor item).toText (number.counter total)
    taken.1 = ⟨number.valueAt total (number.countIn done (number.path item)), number.width⟩ ∧
      Counted number items (done ++ [item]) taken.2 := by
  intro total taken
  have hcounter := h.counters (number.path item)
  refine ⟨?_, h.scopes, fun scope => ?_⟩
  · rw [TakenNumber.mk.injEq]
    exact ⟨congrArg Counter.next hcounter, congrArg Counter.padding hcounter⟩
  · intro initial
    rw [NumberKey.counter_takeNumber hdigits hdigits, NumberUse.countIn_concat]
    by_cases hscope : number.path item = scope
    · subst hscope
      have hkey : NumberKey.mk number.digits (number.path item) = number.keyFor item := rfl
      rw [if_pos hkey, if_pos rfl, Counter.after_succ, ← hcounter]
      rfl
    · have hkey : NumberKey.mk number.digits scope ≠ number.keyFor item :=
        fun hkey => hscope (congrArg NumberKey.path hkey).symm
      rw [if_neg hkey, if_neg hscope]
      exact h.counters scope

variable {pattern : Pattern} {sole : SoleNumber} (hsole : pattern.soleNumber? = some sole)
include hsole

theorem renderItem (h : Counted sole.number items done state) (item : Item) :
    ∃ next, pattern.renderItem .builtin state item
        = (.ok (sole.textAt (sole.number.countIn items (sole.number.path item))
            (sole.number.countIn done (sole.number.path item))), next) ∧
      Counted sole.number items (done ++ [item]) next := by
  have hnumeral := Segment.isNumeral_of_soleNumber hsole
  obtain ⟨htaken, hnext⟩ := h.take (NumberKey.all_of_isNumeral hnumeral) item
  refine ⟨_, ?_, hnext⟩
  rw [Segment.renderItem_eq_renderAll, Segment.renderAll_of_soleNumber hsole]
  dsimp only
  rw [NumberUse.scopeTotal_eq_countIn _ h.scopes, htaken]
  rfl

/-- The items that are left take the numbers that follow those of the items in `done`. -/
theorem runAll (h : Counted sole.number items done state) (rest : List Item) :
    (runAll (pattern.renderItem .builtin) state rest).1
      = .ok (rest.mapIdx fun i item =>
          sole.textAt (sole.number.countIn items (sole.number.path item))
            (sole.number.countIn (done ++ rest.take i) (sole.number.path item))) := by
  induction rest generalizing done state with
  | nil => rfl
  | cons item more ih =>
    obtain ⟨next, hitem, hnext⟩ := h.renderItem hsole item
    rw [runAll_cons, hitem]
    dsimp only
    rw [ih hnext, List.mapIdx_cons, List.take_zero, List.append_nil]
    simp only [List.take_succ_cons, List.append_assoc, List.singleton_append]
    rfl

end Counted

/-- The texts of a pattern with one number: that of an item is told by the number of items in its scope and
the number of those before it. -/
theorem Pattern.render_of_soleNumber {pattern : Pattern} {sole : SoleNumber}
    (hsole : pattern.soleNumber? = some sole) (items : List Item) (options : RenderOptions)
    (now : Option Instant) :
    pattern.render .builtin items options now
      = .ok (items.mapIdx fun i item =>
          sole.textAt (sole.number.countIn items (sole.number.path item))
            (sole.number.countIn (items.take i) (sole.number.path item))) :=
  (render_eq_runAll ..).trans ((Counted.start sole.number items options now).runAll hsole items)

/-! ### One scope -/

/-- The texts that go to the items of a scope. -/
def textsIn (acrossGroups : Bool) (scope : Option (List Text)) (items : List Item)
    (texts : List Text) : List Text :=
  ((items.zip texts).filter fun named => scopePath acrossGroups named.1 = scope).map Prod.snd

/-- The items of a scope are counted one after the other, whatever items stand between them. -/
theorem NumberUse.textsIn_mapIdx (number : NumberUse) (textOf : Option (List Text) → Nat → Text)
    (scope : Option (List Text)) (done rest : List Item) :
    textsIn number.options.acrossGroups scope rest (rest.mapIdx fun i item =>
        textOf (number.path item) (number.countIn (done ++ rest.take i) (number.path item)))
      = (List.range' (number.countIn done scope) (number.countIn rest scope)).map (textOf scope) := by
  induction rest generalizing done with
  | nil => rfl
  | cons item more ih =>
    have hmore := ih (done ++ [item])
    simp only [countIn_concat, List.append_assoc, List.singleton_append] at hmore
    rw [List.mapIdx_cons, List.take_zero, List.append_nil, textsIn, List.zip_cons_cons, countIn_cons]
    simp only [List.take_succ_cons]
    by_cases hscope : number.path item = scope
    · subst hscope
      rw [if_pos rfl] at hmore ⊢
      rw [List.filter_cons_of_pos (by simp [path]), List.map_cons, List.range'_succ, List.map_cons,
        ← hmore]
      rfl
    · rw [if_neg hscope] at hmore ⊢
      rw [List.filter_cons_of_neg (by simpa [path] using hscope), Nat.add_zero]
      exact hmore

/-- The texts of a scope are its numbers in order. -/
theorem Pattern.textsIn_of_soleNumber {pattern : Pattern} {sole : SoleNumber}
    (hsole : pattern.soleNumber? = some sole) (items : List Item) (options : RenderOptions)
    (now : Option Instant) :
    ∃ texts, pattern.render .builtin items options now = .ok texts ∧
      texts.length = items.length ∧
      ∀ scope, textsIn sole.number.options.acrossGroups scope items texts
        = (List.range (sole.number.countIn items scope)).map
            (sole.textAt (sole.number.countIn items scope)) := by
  refine ⟨_, render_of_soleNumber hsole items options now, List.length_mapIdx, fun scope => ?_⟩
  rw [List.range_eq_range']
  exact sole.number.textsIn_mapIdx (fun scope => sole.textAt (sole.number.countIn items scope)) scope
    [] items

end NamePattern
