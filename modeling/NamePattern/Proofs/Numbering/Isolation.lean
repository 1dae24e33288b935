import NamePattern.Proofs.Numbering.Key
import NamePattern.Proofs.Numbering.Options
import NamePattern.Proofs.Numbering.Run
import NamePattern.Proofs.Rendering.Steady

/-!
Numbering within groups. All counters of a pass are in one list, but a counter that restarts in every group
is known by the path of its group. So an item can tell two states apart only by the counters of its own
path, and by the total of its group where a counter begins with it. `Agree` is that relation; items of
the path keep it, and items of other paths do not touch it.
-/

namespace NamePattern

/-- A number field that can be evaluated: its digits and its options. -/
structure NumberUse where
  digits : Text
  options : Number.Options
  deriving DecidableEq

/-- The number field of a segment, if it is one and its arguments can be read. -/
def Segment.number? : Segment → Option NumberUse
  | .literal _ => none
  | .field call _ =>
    if call.name.isNumeral then
      match parseArguments Number.spec Number.readOptions call.args with
      | .error _ => none
      | .ok options => some ⟨call.name, options⟩
    else none

namespace Pattern

/-- The number fields of a pattern whose arguments can be read. -/
def numbers (pattern : Pattern) : List NumberUse := pattern.segments.filterMap Segment.number?

/-- No number of a pattern continues across groups. -/
def WithinGroups (pattern : Pattern) : Prop :=
  ∀ number ∈ pattern.numbers, number.options.acrossGroups = false

/-- No number of a pattern counts down from the number of items in its scope. -/
def CountsFromDigits (pattern : Pattern) : Prop :=
  ∀ number ∈ pattern.numbers, number.digits.all (· == digit 0) = true →
    number.options.descending = false

instance (pattern : Pattern) : Decidable pattern.WithinGroups :=
  inferInstanceAs (Decidable (∀ number ∈ pattern.numbers, number.options.acrossGroups = false))

instance (pattern : Pattern) : Decidable pattern.CountsFromDigits :=
  inferInstanceAs (Decidable (∀ number ∈ pattern.numbers,
    number.digits.all (· == digit 0) = true → number.options.descending = false))

end Pattern

namespace NumberUse

/-- The path of the scope in which a number field counts an item. -/
def path (number : NumberUse) (item : Item) : Option (List Text) :=
  scopePath number.options.acrossGroups item

/-- The key under which a number field is counted for an item. -/
def keyFor (number : NumberUse) (item : Item) : NumberKey := ⟨number.digits, number.path item⟩

/-- The counter that a number field begins in a scope of so many items. -/
def counter (number : NumberUse) (total : Nat) : Counter :=
  number.options.counter number.digits total

/-- The key under which a number field is counted for the items of a path. -/
def key (number : NumberUse) (path : List Text) : NumberKey := ⟨number.digits, some path⟩

/-- The counter that a number field begins for the items of a path. -/
def initial (number : NumberUse) (state : PassState) (path : List Text) : Counter :=
  number.options.counter number.digits (state.scopeTotal (pathKey path))

/-- Digits that do not stand for the total of the scope begin the same counter in every pass. -/
theorem initial_eq {number : NumberUse} (hnumeral : number.digits.isNumeral = true)
    (h : number.digits.all (· == digit 0) = true → number.options.descending = false)
    (a b : PassState) (path : List Text) : number.initial a path = number.initial b path := by
  rw [initial, initial, Number.Options.counter, Number.Options.counter, Counter.mk.injEq]
  refine ⟨?_, rfl, rfl⟩
  by_cases hzero : number.digits.toNat = 0
  · rw [h ((Number.toNat_eq_zero hnumeral).1 hzero), Bool.and_false]
    rfl
  · simp [hzero]

end NumberUse

theorem Segment.number_eq_some {call : Call} {g : Group} {number : NumberUse}
    (h : (Segment.field call g).number? = some number) :
    call.name.isNumeral = true ∧ number.digits = call.name ∧
      parseArguments Number.spec Number.readOptions call.args = .ok number.options := by
  rw [number?] at h
  split at h
  · next hnumeral =>
    split at h
    · cases h
    · next options hparse =>
      cases h
      exact ⟨hnumeral, rfl, hparse⟩
  · cases h

/-- Two states of passes that a pattern cannot tell apart by items of a path. -/
structure Agree (pattern : Pattern) (path : List Text) (a b : PassState) : Prop where
  options : a.options = b.options
  now : a.now = b.now
  counters : ∀ number ∈ pattern.numbers,
    a.counter? (number.key path).toText = b.counter? (number.key path).toText
  initial : ∀ number ∈ pattern.numbers, number.initial a path = number.initial b path

/-! ### One call -/

section
variable {pattern : Pattern} {path : List Text} {a b : PassState}

theorem Pattern.isNumeral_of_mem_numbers {number : NumberUse} (h : number ∈ pattern.numbers) :
    number.digits.isNumeral = true := by
  obtain ⟨segment, -, hnumber⟩ := List.mem_filterMap.1 h
  cases segment with
  | literal t => cases hnumber
  | field call g =>
    obtain ⟨hnumeral, hdigits, -⟩ := Segment.number_eq_some hnumber
    rw [hdigits]
    exact hnumeral

/-- A number field takes the next number of the item's scope. -/
theorem Call.evaluate_takes_number {call : Call} {g : Group} {number : NumberUse}
    (hnumber : (Segment.field call g).number? = some number) (state : PassState) (item : Item) :
    call.evaluate .builtin state item
      = let key := number.keyFor item
        let taken := state.takeNumber key.toText (number.counter (state.scopeTotal key.scope))
        (.ok (.ok (Number.format taken.1.value taken.1.padding)), taken.2) := by
  obtain ⟨hnumeral, hdigits, hparse⟩ := Segment.number_eq_some hnumber
  rw [Call.evaluate, Registry.find_builtin_numeral hnumeral]
  dsimp only
  rw [evaluate_number_of_isNumeral _ _ _ hnumeral, Number.evaluate_of_parse hparse,
    NumberKey.scope_eq number.options item number.digits, ← hdigits]
  rfl

/-- A number that restarts in every group takes the next one of the item's path. -/
theorem Call.evaluate_of_number {call : Call} {g : Group} {number : NumberUse}
    (hnumber : (Segment.field call g).number? = some number)
    (hacross : number.options.acrossGroups = false) (state : PassState) (item : Item) :
    call.evaluate .builtin state item
      = let taken := state.takeNumber (number.key item.path).toText (number.initial state item.path)
        (.ok (.ok (Number.format taken.1.value taken.1.padding)), taken.2) := by
  have hkey : number.keyFor item = number.key item.path := by
    rw [NumberUse.keyFor, NumberUse.path, scopePath, hacross]
    rfl
  rw [evaluate_takes_number hnumber, hkey]
  rfl

/-- Any other call gives the same on every state with the same options and clock. -/
theorem Call.evaluate_of_no_number {call : Call} {g : Group}
    (hnone : (Segment.field call g).number? = none) (item : Item) (options : RenderOptions)
    (now : Option Instant) :
    ∃ result, ∀ state : PassState, state.options = options → state.now = now →
      call.evaluate .builtin state item = (result, state) := by
  cases hnumeral : call.name.isNumeral with
  | false =>
    refine Call.evaluate_steady Registry.standard_builtin item options now fun hfind => ?_
    exact Registry.ne_number_of_find_builtin hnumeral hfind rfl
  | true =>
    rw [Segment.number?, if_pos hnumeral] at hnone
    split at hnone
    · next failure hparse =>
      refine ⟨.ok (.error failure), fun state _ _ => ?_⟩
      rw [Call.evaluate, Registry.find_builtin_numeral hnumeral]
      dsimp only
      rw [evaluate_number_of_isNumeral _ _ _ hnumeral, Number.evaluate, hparse]
    · cases hnone

namespace Agree

/-- Taking the same number keeps two states in agreement. -/
theorem take {number : NumberUse} (hmem : number ∈ pattern.numbers) (h : Agree pattern path a b) :
    let left := a.takeNumber (number.key path).toText (number.initial a path)
    let right := b.takeNumber (number.key path).toText (number.initial b path)
    left.1 = right.1 ∧ Agree pattern path left.2 right.2 := by
  intro left right
  have hcounter := h.counters number hmem
  have hinitial := h.initial number hmem
  refine ⟨?_, h.options, h.now, fun other hother => ?_, h.initial⟩
  · simp only [left, right, PassState.takeNumber, hcounter, hinitial]
  · rw [PassState.counter_takeNumber, PassState.counter_takeNumber, hcounter, hinitial,
      h.counters other hother]

/-- A number that is taken for another path is out of sight. -/
theorem take_apart {number : NumberUse} (hmem : number ∈ pattern.numbers) {other : List Text}
    (hpath : other ≠ path) (initial : Counter) (h : Agree pattern path a b) :
    Agree pattern path (a.takeNumber (number.key other).toText initial).2 b := by
  refine ⟨h.options, h.now, fun seen hseen => ?_, h.initial⟩
  rw [NumberKey.counter_takeNumber
    (NumberKey.all_of_isNumeral (Pattern.isNumeral_of_mem_numbers hmem))
    (NumberKey.all_of_isNumeral (Pattern.isNumeral_of_mem_numbers hseen)), if_neg,
    h.counters seen hseen]
  exact fun hkey => hpath (Option.some.inj (congrArg NumberKey.path hkey)).symm

variable (hgroups : pattern.WithinGroups) {call : Call} {g : Group}
  (hmem : .field call g ∈ pattern.segments) {x y : Item}
include hgroups hmem

/-- Items of the path evaluate a call alike: it moves the same counter in the same way, whatever else they
differ in. -/
theorem evaluate (hx : x.path = path) (hy : y.path = path) (h : Agree pattern path a b) :
    (x = y → (call.evaluate .builtin a x).1 = (call.evaluate .builtin b y).1) ∧
      Agree pattern path (call.evaluate .builtin a x).2 (call.evaluate .builtin b y).2 := by
  cases hnumber : (Segment.field call g).number? with
  | none =>
    obtain ⟨left, hleft⟩ := Call.evaluate_of_no_number hnumber x b.options b.now
    obtain ⟨right, hright⟩ := Call.evaluate_of_no_number hnumber y b.options b.now
    rw [hleft a h.options h.now, hright b rfl rfl]
    refine ⟨?_, h⟩
    rintro rfl
    exact (Prod.mk.inj ((hleft b rfl rfl).symm.trans (hright b rfl rfl))).1
  | some number =>
    have hused : number ∈ pattern.numbers := List.mem_filterMap.2 ⟨_, hmem, hnumber⟩
    have hacross := hgroups number hused
    obtain ⟨htaken, hagree⟩ := h.take hused
    rw [Call.evaluate_of_number hnumber hacross, Call.evaluate_of_number hnumber hacross, hx, hy]
    exact ⟨fun _ => by simp only [htaken], hagree⟩

/-- An item of another path leaves the agreement as it is. -/
theorem evaluate_apart (hx : x.path ≠ path) (h : Agree pattern path a b) :
    Agree pattern path (call.evaluate .builtin a x).2 b := by
  cases hnumber : (Segment.field call g).number? with
  | none =>
    obtain ⟨result, hresult⟩ := Call.evaluate_of_no_number hnumber x b.options b.now
    rw [hresult a h.options h.now]
    exact h
  | some number =>
    have hused : number ∈ pattern.numbers := List.mem_filterMap.2 ⟨_, hmem, hnumber⟩
    rw [Call.evaluate_of_number hnumber (hgroups number hused)]
    exact h.take_apart hused hx _

end Agree

end

/-! ### Runs -/

section
variable {source : Text} {path : List Text} {a b : PassState}
  (hgroups : (Pattern.read .builtin source).WithinGroups)

namespace Segment

theorem renderAll_field_of_ok {registry : Registry} {item : Item} {state next : PassState}
    {call : Call} {result : FieldResult}
    (hcall : call.evaluate registry state item = (.ok result, next)) (g : Group)
    (rest : List Segment) :
    renderAll registry item state (.field call g :: rest)
      = prependText (Evaluation.textFor g ⟨item, call, result⟩)
          (renderAll registry item next rest) := by
  rw [renderAll_field, hcall]
  cases result <;> rfl

end Segment

include hgroups

/-- Items of a path render alike on states that agree: the states agree afterwards and, if it is the
same item, the texts are the same. -/
theorem Agree.renderAll {segments : List Segment}
    (hmem : ∀ segment ∈ segments, segment ∈ (Pattern.read .builtin source).segments) {x y : Item}
    (hx : x.path = path) (hy : y.path = path) (h : Agree (.read .builtin source) path a b) :
    ∃ s t, (Segment.renderAll .builtin x a segments).1 = .ok s ∧
      (Segment.renderAll .builtin y b segments).1 = .ok t ∧ (x = y → s = t) ∧
      Agree (.read .builtin source) path (Segment.renderAll .builtin x a segments).2
        (Segment.renderAll .builtin y b segments).2 := by
  induction segments generalizing a b with
  | nil => exact ⟨[], [], rfl, rfl, fun _ => rfl, h⟩
  | cons segment rest ih =>
    obtain ⟨hsegment, hrest⟩ := List.forall_mem_cons.1 hmem
    cases segment with
    | literal u =>
      obtain ⟨s, t, hs, ht, heq, hagree⟩ := ih hrest h
      rw [Segment.renderAll_literal, Segment.renderAll_literal]
      refine ⟨u ++ s, u ++ t, ?_, ?_, fun hxy => by rw [heq hxy], hagree⟩
      · rw [prependText, hs]; rfl
      · rw [prependText, ht]; rfl
    | field call g =>
      have hknows := (placed_of_read hsegment).known
      obtain ⟨left, na, hleft⟩ := Call.evaluate_of_knows Registry.standard_builtin.unbroken x a hknows
      obtain ⟨right, nb, hright⟩ := Call.evaluate_of_knows Registry.standard_builtin.unbroken y b hknows
      have hcall := h.evaluate hgroups hsegment hx hy
      rw [hleft, hright] at hcall
      obtain ⟨hresult, hnext⟩ := hcall
      obtain ⟨s, t, hs, ht, heq, hagree⟩ := ih hrest hnext
      rw [Segment.renderAll_field_of_ok hleft, Segment.renderAll_field_of_ok hright]
      refine ⟨Evaluation.textFor g ⟨x, call, left⟩ ++ s, Evaluation.textFor g ⟨y, call, right⟩ ++ t,
        ?_, ?_, ?_, hagree⟩
      · rw [prependText, hs]; rfl
      · rw [prependText, ht]; rfl
      · intro hxy
        rw [Except.ok.inj (hresult hxy), heq hxy, hxy]

/-- Rendering an item of another path goes unnoticed. -/
theorem Agree.renderAll_apart {segments : List Segment}
    (hmem : ∀ segment ∈ segments, segment ∈ (Pattern.read .builtin source).segments) {x : Item}
    (hx : x.path ≠ path) (h : Agree (.read .builtin source) path a b) :
    Agree (.read .builtin source) path (Segment.renderAll .builtin x a segments).2 b := by
  induction segments generalizing a with
  | nil => exact h
  | cons segment rest ih =>
    obtain ⟨hsegment, hrest⟩ := List.forall_mem_cons.1 hmem
    cases segment with
    | literal u =>
      rw [Segment.renderAll_literal]
      exact ih hrest h
    | field call g =>
      have hknows := (placed_of_read hsegment).known
      obtain ⟨result, next, hresult⟩ := Call.evaluate_of_knows Registry.standard_builtin.unbroken x a hknows
      have hnext := h.evaluate_apart hgroups hsegment hx
      rw [hresult] at hnext
      rw [Segment.renderAll_field_of_ok hresult]
      exact ih hrest hnext

theorem Agree.renderItem {x y : Item} (hx : x.path = path) (hy : y.path = path)
    (h : Agree (.read .builtin source) path a b) :
    ∃ s t na nb, (Pattern.read .builtin source).renderItem .builtin a x = (.ok s, na) ∧
      (Pattern.read .builtin source).renderItem .builtin b y = (.ok t, nb) ∧ (x = y → s = t) ∧
      Agree (.read .builtin source) path na nb := by
  obtain ⟨s, t, hs, ht, heq, hagree⟩ := h.renderAll hgroups (fun _ hmem => hmem) hx hy
  rw [Segment.renderItem_eq_renderAll, Segment.renderItem_eq_renderAll]
  exact ⟨s, t, _, _, Prod.ext hs rfl, Prod.ext ht rfl, heq, hagree⟩

theorem Agree.renderItem_apart {x : Item} (hx : x.path ≠ path)
    (h : Agree (.read .builtin source) path a b) :
    Agree (.read .builtin source) path
      ((Pattern.read .builtin source).renderItem .builtin a x).2 b := by
  rw [Segment.renderItem_eq_renderAll]
  exact h.renderAll_apart hgroups (fun _ hmem => hmem) hx

/-- The texts of a path's items are those of a run over these items alone. -/
theorem runAll_filter {items : List Item} {texts : List Text}
    (h : Agree (.read .builtin source) path a b)
    (hrun : (runAll ((Pattern.read .builtin source).renderItem .builtin) a items).1 = .ok texts) :
    (runAll ((Pattern.read .builtin source).renderItem .builtin) b
        (items.filter fun item => item.path = path)).1
      = .ok (((items.zip texts).filter fun named => named.1.path = path).map Prod.snd) := by
  induction items generalizing a b texts with
  | nil => cases hrun; rfl
  | cons item rest ih =>
    obtain ⟨s, next, more, hitem, hmore, rfl⟩ := runAll_cons_eq_ok hrun
    by_cases hpath : item.path = path
    · obtain ⟨s', t, na, nb, hs, ht, heq, hagree⟩ := h.renderItem hgroups hpath hpath
      cases hitem.symm.trans hs
      rw [List.filter_cons_of_pos (by simpa using hpath), List.zip_cons_cons,
        List.filter_cons_of_pos (by simpa using hpath), runAll_cons, ht]
      dsimp only
      rw [ih hagree hmore, heq rfl]
      rfl
    · have hagree := h.renderItem_apart hgroups hpath
      rw [hitem] at hagree
      rw [List.filter_cons_of_neg (by simpa using hpath), List.zip_cons_cons,
        List.filter_cons_of_neg (by simpa using hpath), ih hagree hmore]

/-- The state of a pass after so many renderings of one item. -/
def stateAfterCopies (source : Text) (options : RenderOptions) (now : Option Instant) (item : Item)
    (count : Nat) : PassState :=
  stateAfter .builtin (.start [] options now)
    (List.replicate count (.render (.read .builtin source) item))

omit hgroups in
theorem stateAfterCopies_succ (options : RenderOptions) (now : Option Instant) (item : Item)
    (count : Nat) :
    stateAfterCopies source options now item (count + 1)
      = ((Pattern.read .builtin source).renderItem .builtin
          (stateAfterCopies source options now item count) item).2 := by
  rw [stateAfterCopies, List.replicate_succ', stateAfter, List.foldl_append]
  rfl

/-- The text of an item after so many copies of itself. -/
def textAfterCopies (source : Text) (options : RenderOptions) (now : Option Instant) (item : Item)
    (count : Nat) : Text :=
  match ((Pattern.read .builtin source).renderItem .builtin
      (stateAfterCopies source options now item count) item).1 with
  | .error _ => []
  | .ok t => t

/-- Earlier items of other paths might as well not be there, and those of its own path might as well be
copies of the item. -/
theorem runAll_mapIdx (options : RenderOptions) (now : Option Instant) (before items : List Item)
    {state : PassState}
    (h : ∀ item, Agree (.read .builtin source) item.path state
      (stateAfterCopies source options now item (before.countP fun x => x.path = item.path))) :
    (runAll ((Pattern.read .builtin source).renderItem .builtin) state items).1
      = .ok (items.mapIdx fun i item => textAfterCopies source options now item
          ((before ++ items.take i).countP fun x => x.path = item.path)) := by
  induction items generalizing before state with
  | nil => rfl
  | cons item rest ih =>
    obtain ⟨s, t, next, own, hs, ht, heq, -⟩ := (h item).renderItem hgroups rfl rfl
    have hnext : ∀ other, Agree (.read .builtin source) other.path next
        (stateAfterCopies source options now other
          ((before ++ [item]).countP fun x => x.path = other.path)) := by
      intro other
      rw [List.countP_append, List.countP_singleton]
      by_cases hpath : item.path = other.path
      · obtain ⟨_, _, na, nb, hna, hnb, -, hagree⟩ := (h other).renderItem hgroups hpath rfl
        cases hs.symm.trans hna
        rw [if_pos (by simpa using hpath), stateAfterCopies_succ, hnb]
        exact hagree
      · have hagree := (h other).renderItem_apart hgroups hpath
        rw [hs] at hagree
        rw [if_neg (by simpa using hpath)]
        exact hagree
    have htext : textAfterCopies source options now item
        (before.countP fun x => x.path = item.path) = s := by
      rw [textAfterCopies, ht, heq rfl]
    rw [runAll_cons, hs]
    dsimp only
    rw [ih (before ++ [item]) hnext, List.mapIdx_cons, List.take_zero, List.append_nil, htext]
    simp only [List.take_succ_cons, List.append_assoc, List.singleton_append]
    rfl

end

/-! ### Passes -/

/-- A pass over the items of a path begins in agreement with a pass that they are part of. -/
theorem agree_start_filter (pattern : Pattern) (path : List Text) (items : List Item)
    (options : RenderOptions) (now : Option Instant) :
    Agree pattern path (.start items options now)
      (.start (items.filter fun item => item.path = path) options now) := by
  have htotal : ∀ pass : List Item, (PassState.start pass options now).scopeTotal (pathKey path)
      = pass.countP fun item => item.path = path := by
    intro pass
    have hscopes : (PassState.start pass options now).scopes = pass.map scopeKey := rfl
    exact NumberKey.scopeTotal_eq_total hscopes ⟨[], some path⟩
  refine ⟨rfl, rfl, fun _ _ => rfl, fun number _ => ?_⟩
  rw [NumberUse.initial, NumberUse.initial, htotal, htotal, List.countP_filter]
  simp

/-- Passes begin in agreement if no number counts down from a total. -/
theorem agree_start {pattern : Pattern} (hdigits : pattern.CountsFromDigits) (path : List Text)
    (items others : List Item) (options : RenderOptions) (now : Option Instant) :
    Agree pattern path (.start items options now) (.start others options now) :=
  ⟨rfl, rfl, fun _ _ => rfl, fun number hnumber =>
    NumberUse.initial_eq (Pattern.isNumeral_of_mem_numbers hnumber) (hdigits number hnumber) _ _ _⟩

/-- If no number continues across groups, the texts of the items of a path are those of a pass over these
items alone. If besides no number counts down from the number of items in its group, the text of an item
depends on nothing but the item and the number of earlier ones with its path, whatever the pass. -/
theorem groups_are_numbered_apart (source : Text) (options : RenderOptions) (now : Option Instant)
    (hgroups : (Pattern.read .builtin source).WithinGroups) :
    let pattern := Pattern.read .builtin source
    (∀ items, ∃ texts, pattern.render .builtin items options now = .ok texts ∧
      texts.length = items.length ∧
      ∀ path, pattern.render .builtin (items.filter fun item => item.path = path) options now
        = .ok (((items.zip texts).filter fun named => named.1.path = path).map Prod.snd)) ∧
      (pattern.CountsFromDigits → ∃ textOf : Item → Nat → Text, ∀ items,
        pattern.render .builtin items options now
          = .ok (items.mapIdx fun i item =>
              textOf item ((items.take i).countP fun x => x.path = item.path))) := by
  intro pattern
  refine ⟨fun items => ?_, fun hdigits => ⟨textAfterCopies source options now, fun items => ?_⟩⟩
  · obtain ⟨texts, htexts, hlength⟩ :=
      exists_texts Registry.standard_builtin.unbroken source items options now
    refine ⟨texts, htexts, hlength, fun path => ?_⟩
    rw [Pattern.render_eq_runAll] at htexts ⊢
    exact runAll_filter hgroups (agree_start_filter pattern path items options now) htexts
  · rw [Pattern.render_eq_runAll]
    exact runAll_mapIdx hgroups options now [] items fun item =>
      agree_start hdigits item.path items [] options now

/-- Totals are those of the groups, so each group counts down by itself; an argument that goes on across
groups has no part in it if it is refused. Digits that are not all zero give one text for each place in
a group, in any pass. -/
theorem interleaved_groups_count_down_apart :
    let a := Item.within [text "a"]
    let b := Item.within [text "b"]
    let totals := Pattern.read .builtin (text "[00, %d][1, %n, %x]")
    let digits := Pattern.read .builtin (text "[9, %d2]")
    totals.render .builtin [a, b, a] {} none
        = .ok [text "02[1, %n, %x]", text "01[1, %n, %x]", text "01[1, %n, %x]"] ∧
      totals.render .builtin [a, a] {} none = .ok [text "02[1, %n, %x]", text "01[1, %n, %x]"] ∧
      ∃ textOf : Item → Nat → Text,
        digits.render .builtin [a, b, a] {} none = .ok [textOf a 0, textOf b 0, textOf a 1] ∧
        digits.render .builtin [b, b, a] {} none = .ok [textOf b 0, textOf b 1, textOf a 0] ∧
        textOf a 1 = text "08" := by
  intro a b totals digits
  obtain ⟨hparts, -⟩ := groups_are_numbered_apart (text "[00, %d][1, %n, %x]") {} none
    (by decide +kernel)
  obtain ⟨-, htextOf⟩ := groups_are_numbered_apart (text "[9, %d2]") {} none (by decide +kernel)
  obtain ⟨textOf, htext⟩ := htextOf (by decide +kernel)
  have hwhole : totals.render .builtin [a, b, a] {} none
      = .ok [text "02[1, %n, %x]", text "01[1, %n, %x]", text "01[1, %n, %x]"] := by
    decide +kernel
  obtain ⟨texts, htexts, -, hpart⟩ := hparts [a, b, a]
  obtain rfl := Except.ok.inj (htexts.symm.trans hwhole)
  have hlast : digits.render .builtin [a, b, a] {} none
      = .ok [text "09", text "09", text "08"] := by
    decide +kernel
  have hread : digits.render .builtin [a, b, a] {} none
      = .ok [textOf a 0, textOf b 0, textOf a 1] := htext [a, b, a]
  refine ⟨hwhole, hpart [text "a"], textOf, hread, htext [b, b, a], ?_⟩
  have hthree := Except.ok.inj (hread.symm.trans hlast)
  simp only [List.cons.injEq] at hthree
  exact hthree.2.2.1

end NamePattern
