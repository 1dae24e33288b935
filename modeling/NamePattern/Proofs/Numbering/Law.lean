import NamePattern.Proofs.Numbering.Key
import NamePattern.Proofs.Numbering.Options
import NamePattern.Proofs.Numbering.Run

/-!
The law of numbering. In any run on the state of a pass, the numbers of one key are an arithmetic
sequence that its first successful evaluation fixes: where it begins, which way it goes and how wide its
numbers are written. What carries the proof is that the counters of the state can be told from the
evaluations so far (`Numbered`): the counter of a key stands as many steps after its first number as
numbers were taken from it, whatever else was evaluated in between.
-/

namespace NamePattern

namespace Evaluation

/-- The key of the counter that a number was taken from; none if no number was taken. -/
def key? (e : Evaluation) : Option NumberKey :=
  match e.result with
  | .error _ => none
  | .ok _ =>
    if e.call.name.isNumeral then
      some ⟨e.call.name, if (argumentValues e.call.args).contains Number.acrossGroupsArgument
        then none else some e.item.path⟩
    else none

/-- Whether a number was taken from the counter of a key. -/
def takesFrom (key : NumberKey) (e : Evaluation) : Bool := e.key? = some key

/-- Whether one of the arguments counts down. -/
def descends (e : Evaluation) : Bool := Number.countsDown (argumentValues e.call.args)

/-- How wide numbers are written: by the last padding given, or else as wide as the digits. -/
def width (e : Evaluation) : Nat :=
  (Number.lastPadding? (argumentValues e.call.args)).getD e.call.name.length

/-- The first number: the one that the digits spell. All zeros with an argument that counts down spell
the number of items in the scope. -/
def firstNumber (items : List Item) (key : NumberKey) (e : Evaluation) : Int :=
  if e.descends && e.call.name.all (· == digit 0) then key.total items else e.call.name.toNat

/-- The number that is `count` steps after the first one. -/
def numberAt (items : List Item) (key : NumberKey) (e : Evaluation) (count : Nat) : Int :=
  if e.descends then e.firstNumber items key - count else e.firstNumber items key + count

/-- The counter from which `count` numbers were taken, the first one by the evaluation. -/
def counterAt (items : List Item) (key : NumberKey) (e : Evaluation) (count : Nat) : Counter where
  next := e.numberAt items key count
  padding := e.width
  step := if e.descends then -1 else 1

/-- The evaluation obeys the law after those before it: a number is the one that the first evaluation
of its key and the count of the earlier ones say. -/
def Obeys (items : List Item) (before : List Evaluation) (e : Evaluation) : Prop :=
  ∀ key, e.key? = some key →
    ∃ first, (before ++ [e]).find? (takesFrom key) = some first ∧
      e.result = .ok (Number.format (first.numberAt items key (before.countP (takesFrom key)))
        first.width)

theorem numberAt_zero (items : List Item) (key : NumberKey) (e : Evaluation) :
    e.numberAt items key 0 = e.firstNumber items key := by
  simp [numberAt]

theorem counterAt_moved (items : List Item) (key : NumberKey) (e : Evaluation) (count : Nat) :
    { e.counterAt items key count with
        next := (e.counterAt items key count).next + (e.counterAt items key count).step }
      = e.counterAt items key (count + 1) := by
  simp only [counterAt, numberAt, Counter.mk.injEq, and_true]
  split <;> omega

/-- The counter that digits and readable arguments begin. -/
theorem counter_eq_counterAt (items : List Item) (key : NumberKey) (item : Item) {name : Text}
    (raw : List Text) (result : FieldResult) {options : Number.Options}
    (hname : name.isNumeral = true)
    (hoptions : options = ⟨(argumentValues raw).contains Number.acrossGroupsArgument,
      Number.countsDown (argumentValues raw), Number.lastPadding? (argumentValues raw)⟩) :
    options.counter name (key.total items) = counterAt items key ⟨item, ⟨name, raw⟩, result⟩ 0 := by
  have hzero := Number.toNat_eq_zero hname
  subst hoptions
  rw [Number.Options.counter, counterAt, numberAt_zero, firstNumber, Counter.mk.injEq]
  refine ⟨?_, rfl, rfl⟩
  by_cases hall : name.all (· == digit 0) = true
  · rw [hzero.2 hall, hall, Bool.and_true]
    rfl
  · have hne : name.toNat ≠ 0 := fun h => hall (hzero.1 h)
    simp [hall, hne]

theorem isNumeral_of_key {e : Evaluation} {key : NumberKey} (h : e.key? = some key) :
    key.digits.isNumeral = true := by
  rw [key?] at h
  split at h
  · cases h
  split at h
  · next hname =>
    cases h
    exact hname
  · cases h

theorem takesFrom_iff {key : NumberKey} {e : Evaluation} :
    e.takesFrom key = true ↔ e.key? = some key := decide_eq_true_iff

/-- An evaluation under another key leaves the first one and the count as they are. -/
theorem find_append_of_ne {key : NumberKey} {e : Evaluation} (h : e.key? ≠ some key)
    (log : List Evaluation) :
    (log ++ [e]).find? (takesFrom key) = log.find? (takesFrom key) ∧
      (log ++ [e]).countP (takesFrom key) = log.countP (takesFrom key) := by
  have hnot : e.takesFrom key = false := decide_eq_false h
  simp [List.find?_append, List.countP_append, hnot]

/-- An evaluation under a key is its first one, or the first one was before it. -/
theorem find_append_of_key {key : NumberKey} {e : Evaluation} (h : e.key? = some key)
    (log : List Evaluation) :
    (log ++ [e]).find? (takesFrom key) = some ((log.find? (takesFrom key)).getD e) ∧
      (log ++ [e]).countP (takesFrom key) = log.countP (takesFrom key) + 1 := by
  have htakes := takesFrom_iff.2 h
  rw [List.find?_append, List.countP_append]
  cases log.find? (takesFrom key) <;> simp [htakes]

end Evaluation

open Evaluation (takesFrom)

/-- The counter of a key as the evaluations so far leave it. -/
def expectedCounter? (items : List Item) (log : List Evaluation) (key : NumberKey) : Option Counter :=
  (log.find? (takesFrom key)).map fun first =>
    first.counterAt items key (log.countP (takesFrom key))

/-- The counter that an evaluation finds or, if it is the first of its key, begins. -/
theorem expectedCounter_getD (items : List Item) (log : List Evaluation) (key : NumberKey)
    (e : Evaluation) :
    (expectedCounter? items log key).getD (e.counterAt items key 0)
      = ((log.find? (takesFrom key)).getD e).counterAt items key (log.countP (takesFrom key)) := by
  rw [expectedCounter?]
  cases hfind : log.find? (takesFrom key) with
  | none =>
    have hcount : log.countP (takesFrom key) = 0 :=
      List.countP_eq_zero.2 (List.find?_eq_none.1 hfind)
    rw [hcount]
    rfl
  | some first => rfl

/-- An evaluation under another key leaves the counter where it is. -/
theorem expectedCounter_append_of_ne {key : NumberKey} {e : Evaluation} (h : e.key? ≠ some key)
    (items : List Item) (log : List Evaluation) :
    expectedCounter? items (log ++ [e]) key = expectedCounter? items log key := by
  obtain ⟨hfirst, hcount⟩ := Evaluation.find_append_of_ne h log
  rw [expectedCounter?, hfirst, hcount, expectedCounter?]

/-- An evaluation under the key moves the counter by one step, or begins it one step after its own
number. -/
theorem expectedCounter_append_of_key {key : NumberKey} {e : Evaluation} (h : e.key? = some key)
    (items : List Item) (log : List Evaluation) :
    expectedCounter? items (log ++ [e]) key
      = some (((log.find? (takesFrom key)).getD e).counterAt items key
          (log.countP (takesFrom key) + 1)) := by
  obtain ⟨hfirst, hcount⟩ := Evaluation.find_append_of_key h log
  rw [expectedCounter?, hfirst, hcount]
  rfl

/-- The state of a pass over `items` after the evaluations in `log`, which obey the law. -/
structure Numbered (items : List Item) (log : List Evaluation) (state : PassState) : Prop where
  scopes : state.scopes = items.map scopeKey
  counters : ∀ key : NumberKey, key.digits.isNumeral = true →
    state.counter? key.toText = expectedCounter? items log key
  obeys : ∀ before e after, log = before ++ e :: after → e.Obeys items before

/-! ### One evaluation -/

namespace Numbered
variable {items : List Item} {log : List Evaluation} {state : PassState}

theorem start (items : List Item) (options : RenderOptions) (now : Option Instant) :
    Numbered items [] (PassState.start items options now) :=
  ⟨rfl, fun _ _ => rfl, fun before e after h => by simp at h⟩

theorem obeys_append {e : Evaluation} (h : Numbered items log state) (he : e.Obeys items log) :
    ∀ before e' after, log ++ [e] = before ++ e' :: after → e'.Obeys items before := by
  intro before e' after heq
  rcases List.eq_nil_or_concat after with rfl | ⟨after', last, rfl⟩
  · obtain ⟨rfl, hlast⟩ := List.append_inj' heq rfl
    cases hlast
    exact he
  · rw [List.concat_eq_append, ← List.cons_append, ← List.append_assoc] at heq
    obtain ⟨hlog, -⟩ := List.append_inj' heq rfl
    exact h.obeys before e' after' hlog

/-- An evaluation that takes no number leaves every counter where it is. -/
theorem skip {e : Evaluation} (h : Numbered items log state) (he : e.key? = none) :
    Numbered items (log ++ [e]) state := by
  refine ⟨h.scopes, fun key hkey => ?_, h.obeys_append fun key hsome => ?_⟩
  · have hne : e.key? ≠ some key := by
      rw [he]
      simp
    rw [h.counters key hkey, expectedCounter_append_of_ne hne]
  · rw [he] at hsome
    cases hsome

/-- A number that is taken is the next one of its key, and the counter of its key alone moves. -/
theorem take {e : Evaluation} (key : NumberKey) {initial : Counter} (h : Numbered items log state)
    (he : e.key? = some key) (hinitial : initial = e.counterAt items key 0)
    (hresult : e.result
      = let taken := (state.takeNumber key.toText initial).1
        .ok (Number.format taken.value taken.padding)) :
    Numbered items (log ++ [e]) (state.takeNumber key.toText initial).2 := by
  subst hinitial
  have hnumeral := Evaluation.isNumeral_of_key he
  have hcounter := expectedCounter_getD items log key e
  rw [← h.counters key hnumeral] at hcounter
  refine ⟨h.scopes, fun other hother => ?_, h.obeys_append fun other hsome => ?_⟩
  · rw [NumberKey.counter_takeNumber (NumberKey.all_of_isNumeral hnumeral)
      (NumberKey.all_of_isNumeral hother), hcounter]
    by_cases hkey : other = key
    · subst hkey
      rw [if_pos rfl, Evaluation.counterAt_moved, expectedCounter_append_of_key he]
    · have hne : e.key? ≠ some other := by
        rw [he]
        exact fun hsome => hkey (Option.some.inj hsome).symm
      rw [if_neg hkey, h.counters other hother, expectedCounter_append_of_ne hne]
  · obtain rfl : key = other := Option.some.inj (he.symm.trans hsome)
    refine ⟨_, (Evaluation.find_append_of_key he log).1, ?_⟩
    rw [hresult, PassState.takeNumber, hcounter]
    rfl

/-- The number field with arguments that it can read takes a number under the key of the evaluation,
from a counter that begins as the evaluation says. -/
theorem number (h : Numbered items log state) (item : Item) {name : Text}
    (hname : name.isNumeral = true) (raw : List Text) :
    Numbered items (log ++ [⟨item, ⟨name, raw⟩, (Number.evaluate state item name raw).1⟩])
      (Number.evaluate state item name raw).2 := by
  cases hparse : parseArguments Number.spec Number.readOptions raw with
  | error failure =>
    rw [Number.evaluate, hparse]
    exact h.skip rfl
  | ok options =>
    have hoptions := Number.readOptions_eq (read_of_parseArguments hparse)
    rw [Number.evaluate_of_parse hparse, NumberKey.scope_eq options item name,
      NumberKey.scopeTotal_eq_total h.scopes]
    refine h.take ⟨name, scopePath options.acrossGroups item⟩ ?_ ?_ rfl
    · rw [Evaluation.key?, if_pos hname, hoptions]
      rfl
    · exact Evaluation.counter_eq_counterAt items _ item raw _ hname hoptions

/-- Any call keeps the state in step with the evaluations. -/
theorem evaluate (h : Numbered items log state) (item : Item) (call : Call) :
    Numbered items (log ++ call.evaluations Registry.builtin state item)
      (call.evaluate Registry.builtin state item).2 := by
  rw [Call.evaluations, Call.evaluate]
  cases hname : call.name.isNumeral with
  | true =>
    rw [Registry.find_builtin_numeral hname]
    simp only [evaluate_number_of_isNumeral _ _ _ hname]
    exact h.number item hname call.args
  | false =>
    cases hfind : Registry.builtin.find? call.name with
    | none => simpa using h
    | some field =>
      have hne := Registry.ne_number_of_find_builtin hname hfind
      have hstate := evaluate_snd_of_ne_number Registry.standard_builtin state item
        (Registry.find_mem hfind) hne call.name call.args
      simp only [hstate]
      split
      · simpa using h
      · next result _ =>
        refine h.skip ?_
        cases result with
        | error failure => rfl
        | ok value => exact if_neg (by simp [hname])

/-- Rendering segments keeps the state in step with the evaluations, up to a fault. -/
theorem segments (item : Item) (segments : List Segment) (h : Numbered items log state) :
    Numbered items (log ++ Segment.evaluations Registry.builtin item state segments)
      (runAll (Segment.render Registry.builtin item) state segments).2 := by
  induction segments generalizing log state with
  | nil => simpa [Segment.evaluations, runAll] using h
  | cons segment rest ih =>
    rw [runAll_cons]
    cases segment with
    | literal t => exact ih h
    | field call group =>
      have hcall := h.evaluate item call
      rw [Call.evaluations] at hcall
      rw [Segment.render_field, Segment.evaluations]
      rcases hrun : call.evaluate Registry.builtin state item with ⟨fault | result, next⟩
      · rw [hrun] at hcall
        exact hcall
      · rw [hrun] at hcall
        dsimp only
        rw [List.append_cons]
        exact ih hcall

theorem operation (operation : Operation) (h : Numbered items log state) :
    Numbered items (log ++ operation.evaluations Registry.builtin state)
      (operation.next Registry.builtin state) := by
  cases operation with
  | render pattern item =>
    rw [Operation.evaluations, Operation.next, renderItem_snd]
    exact h.segments item pattern.segments
  | evaluate call item => exact h.evaluate item call

theorem run (operations : List Operation) (h : Numbered items log state) :
    Numbered items (log ++ evaluationsFrom Registry.builtin state operations)
      (stateAfter Registry.builtin state operations) := by
  induction operations generalizing log state with
  | nil => simpa [evaluationsFrom, stateAfter] using h
  | cons operation rest ih =>
    rw [evaluationsFrom, ← List.append_assoc]
    exact ih (h.operation operation)

end Numbered

/-- In a run on the state of a pass over `items`, every number is the one that the first successful
evaluation of its key and the count of the earlier ones say, and every text that is rendered is made
of the evaluations in the run. -/
theorem numbers_follow_first_of_key (items : List Item) (options : RenderOptions)
    (now : Option Instant) (operations : List Operation) :
    let start := PassState.start items options now
    let log := evaluationsFrom Registry.builtin start operations
    (∀ before e after key, log = before ++ e :: after → e.key? = some key →
      ∃ first, (before ++ [e]).find? (takesFrom key) = some first ∧
        e.result = .ok (Number.format (first.numberAt items key (before.countP (takesFrom key)))
          first.width)) ∧
      ∀ done pattern item later t, operations = done ++ .render pattern item :: later →
        (pattern.renderItem Registry.builtin (stateAfter Registry.builtin start done) item).1 = .ok t →
        ∃ rendered after, log = evaluationsFrom Registry.builtin start done ++ rendered ++ after ∧
          t = filled pattern.segments rendered := by
  intro start log
  have hlog := (Numbered.start items options now).run operations
  rw [List.nil_append] at hlog
  refine ⟨fun before e after key heq => hlog.obeys before e after heq key, ?_⟩
  rintro done pattern item later t rfl hrender
  refine ⟨_, evaluationsFrom Registry.builtin (Operation.next Registry.builtin
    (stateAfter Registry.builtin start done) (.render pattern item)) later, ?_,
    renderItem_eq_filled hrender⟩
  exact (evaluationsFrom_append Registry.builtin start done _).trans (List.append_assoc _ _ _).symm

/-- A call without arguments counts down and pads to three units, as the first call of its key did in
a rendered pattern. Other scopes and a failed evaluation in between change nothing. -/
theorem later_call_keeps_direction_and_width :
    let a := Item.within [text "a"]
    let b := Item.within [text "b"]
    let pattern := Pattern.read .builtin (text "[01, %d3][2]")
    let log := evaluationsFrom .builtin (.start [a, b] {} none)
      [.render pattern a, .evaluate ⟨text "01", [text "%n"]⟩ b, .evaluate ⟨text "01", [text "?"]⟩ a,
        .evaluate ⟨text "01", []⟩ b, .evaluate ⟨text "01", []⟩ a]
    let key : NumberKey := ⟨text "01", some [text "a"]⟩
    (∃ before first, log = before ++ [⟨a, ⟨text "01", []⟩, .ok (text "000")⟩] ∧
      (before ++ [⟨a, ⟨text "01", []⟩, .ok (text "000")⟩]).find? (takesFrom key) = some first ∧
      Except.ok (text "000")
        = (.ok (Number.format (first.numberAt [a, b] key (before.countP (takesFrom key)))
          first.width) : FieldResult)) ∧
      ∃ rendered after, log = [] ++ rendered ++ after ∧
        text "0012" = filled pattern.segments rendered := by
  intro a b pattern log key
  have hlog : log = [⟨a, ⟨text "01", [text " %d3"]⟩, .ok (text "001")⟩,
      ⟨a, ⟨text "2", []⟩, .ok (text "2")⟩, ⟨b, ⟨text "01", [text "%n"]⟩, .ok (text "01")⟩,
      ⟨a, ⟨text "01", [text "?"]⟩,
        .error (.arguments (text "number") (.numberOption (text "?")))⟩,
      ⟨b, ⟨text "01", []⟩, .ok (text "01")⟩] ++ [⟨a, ⟨text "01", []⟩, .ok (text "000")⟩] := by
    decide +kernel
  have hrender : (pattern.renderItem .builtin (.start [a, b] {} none) a).1 = .ok (text "0012") := by
    decide +kernel
  obtain ⟨hnumbers, htexts⟩ := numbers_follow_first_of_key [a, b] {} none
    [.render pattern a, .evaluate ⟨text "01", [text "%n"]⟩ b, .evaluate ⟨text "01", [text "?"]⟩ a,
      .evaluate ⟨text "01", []⟩ b, .evaluate ⟨text "01", []⟩ a]
  obtain ⟨first, hfirst, hresult⟩ := hnumbers _ _ [] key hlog (by decide +kernel)
  exact ⟨⟨_, first, hlog, hfirst, hresult⟩, htexts [] pattern a _ _ rfl hrender⟩

end NamePattern
