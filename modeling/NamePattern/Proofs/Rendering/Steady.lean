import Mathlib.Tactic.Choose
import NamePattern.Proofs.Evaluation.Frame
import NamePattern.Proofs.Rendering.FailOpen

/-!
Rendering without numbers. An evaluation moves the counter that it takes a number from, and nothing
else. So a pattern without number fields leaves the state as it is, and its text for an item is told by
the item alone: neither the order of a pass nor the other items in it have a part in it.
-/

namespace NamePattern

/-- A pattern none of whose fields is a number. -/
def Pattern.Unnumbered (registry : Registry) (pattern : Pattern) : Prop :=
  ∀ call g, .field call g ∈ pattern.segments → registry.find? call.name ≠ some (.builtin .number)

section
variable {registry : Registry} (standard : registry.Standard) (item : Item) (options : RenderOptions)
  (now : Option Instant)
include standard

/-- A call of a field that is no number gives the same on every state with the same options and
clock. -/
theorem Call.evaluate_steady {call : Call}
    (hnumber : registry.find? call.name ≠ some (.builtin .number)) :
    ∃ result, ∀ state : PassState, state.options = options → state.now = now →
      call.evaluate registry state item = (result, state) := by
  refine ⟨(call.evaluate registry (.start [] options now) item).1, ?_⟩
  rintro state rfl rfl
  rw [Call.evaluate, Call.evaluate]
  cases hfind : registry.find? call.name with
  | none => rfl
  | some field =>
    have hfield := Registry.find_mem hfind
    have hkind : field.kind ≠ .number := by
      refine standard.kind_ne_number hfield ?_
      rintro rfl
      exact hnumber hfind
    have hview : state.view item = (PassState.start [] state.options state.now).view item := rfl
    exact evaluate_eq_of_view standard hview hfield hkind call.name call.args

theorem Segment.renderAll_steady {segments : List Segment}
    (hnumber : ∀ call g, .field call g ∈ segments →
      registry.find? call.name ≠ some (.builtin .number)) :
    ∃ rendered, ∀ state : PassState, state.options = options → state.now = now →
      renderAll registry item state segments = (rendered, state) := by
  induction segments with
  | nil => exact ⟨.ok [], fun _ _ _ => rfl⟩
  | cons segment rest ih =>
    obtain ⟨rendered, hrendered⟩ := ih fun call g h => hnumber call g (List.mem_cons_of_mem _ h)
    cases segment with
    | literal t =>
      refine ⟨rendered.map (t ++ ·), fun state hoptions hnow => ?_⟩
      rw [renderAll_literal, hrendered state hoptions hnow]
      rfl
    | field call g =>
      obtain ⟨result, hresult⟩ :=
        Call.evaluate_steady standard item options now (hnumber call g List.mem_cons_self)
      rcases result with fault | failure | value
      · refine ⟨.error fault, fun state hoptions hnow => ?_⟩
        rw [renderAll_field, hresult state hoptions hnow]
      · refine ⟨rendered.map (g.written ++ ·), fun state hoptions hnow => ?_⟩
        rw [renderAll_field, hresult state hoptions hnow]
        dsimp only
        rw [hrendered state hoptions hnow]
        rfl
      · refine ⟨rendered.map (value ++ ·), fun state hoptions hnow => ?_⟩
        rw [renderAll_field, hresult state hoptions hnow]
        dsimp only
        rw [hrendered state hoptions hnow]
        rfl

/-- The text of a pattern without numbers for an item. -/
theorem Pattern.renderItem_steady {source : Text}
    (hnumber : (Pattern.read registry source).Unnumbered registry) :
    ∃ t, ∀ state : PassState, state.options = options → state.now = now →
      (Pattern.read registry source).renderItem registry state item = (.ok t, state) := by
  obtain ⟨rendered, hrendered⟩ := Segment.renderAll_steady standard item options now hnumber
  obtain ⟨t, next, ht, -⟩ := shows_renderAll standard.unbroken .unbounded item _
    (fun _ _ h => placed_of_read h) (PassState.start [] options now)
  obtain ⟨rfl, -⟩ := Prod.mk.inj ((hrendered (.start [] options now) rfl rfl).symm.trans ht)
  exact ⟨t, fun state hoptions hnow =>
    (Segment.renderItem_eq_renderAll ..).trans (hrendered state hoptions hnow)⟩

end

theorem runAll_steady {σ α β : Type} {step : σ → α → Except Fault β × σ} {state : σ} {f : α → β}
    (h : ∀ a, step state a = (.ok (f a), state)) (as : List α) :
    runAll step state as = (.ok (as.map f), state) := by
  induction as with
  | nil => rfl
  | cons a rest ih =>
    rw [runAll_cons, h]
    dsimp only
    rw [ih]
    rfl

/-- A pattern that leaves the state as it is for every item has the texts of the items in their order. -/
theorem Pattern.render_of_steady {registry : Registry} {pattern : Pattern} {items : List Item}
    {options : RenderOptions} {now : Option Instant} {f : Item → Text}
    (h : ∀ item, pattern.renderItem registry (.start items options now) item
      = (.ok (f item), .start items options now)) :
    pattern.render registry items options now = .ok (items.map f) := by
  rw [render_eq_runAll, runAll_steady h]

/-- An evaluation that fails and one of a field that is no number change nothing, and a number is taken
from one counter. So a pattern without numbers has a text for each item, whatever the pass. -/
theorem evaluation_moves_one_counter :
    (∀ state item field, field ∈ Registry.builtin.fields → ∀ name raw,
      let after := evaluate .builtin state item field name raw
      ((∀ value, after.1 ≠ .ok (.ok value)) → after.2 = state) ∧
      (field ≠ .builtin .number → after.2 = state) ∧
      ∀ value, field = .builtin .number → after.1 = .ok (.ok value) →
        ∃ options, Number.readOptions (argumentValues raw) = .ok options ∧
          let key := counterKey name (options.scope item)
          let initial := options.counter name (state.scopeTotal (options.scope item))
          let counter := (state.counter? key).getD initial
          value = Number.format counter.next counter.padding ∧ state.Takes key initial after.2) ∧
      ∀ source, (Pattern.read .builtin source).Unnumbered .builtin → ∀ options now,
        ∃ textOf : Item → Text,
          (∀ items, (Pattern.read .builtin source).render .builtin items options now
            = .ok (items.map textOf)) ∧
          ∀ (state : PassState) item, state.options = options → state.now = now →
            (Pattern.read .builtin source).renderItem .builtin state item
              = (.ok (textOf item), state) := by
  have hstandard := Registry.standard_builtin
  refine ⟨fun state item field hfield name raw => ?_, fun source hnumber options now => ?_⟩
  · intro after
    by_cases hne : field = .builtin .number
    · subst hne
      have hafter : after = Number.evaluateNamed state item name raw :=
        evaluate_number .builtin state item name raw
      rw [hafter]
      obtain ⟨hvalue, hstate⟩ | ⟨options, hread, hvalue, htakes⟩ :=
        Number.evaluateNamed_effect state item name raw
      · exact ⟨fun _ => hstate, fun _ => hstate, fun value _ h => absurd h (hvalue value)⟩
      · refine ⟨fun h => absurd hvalue (h _), fun h => absurd rfl h, ?_⟩
        intro value _ h
        rw [hvalue] at h
        cases h
        exact ⟨options, hread, rfl, htakes⟩
    · have hstate := evaluate_snd_of_ne_number hstandard state item hfield hne name raw
      exact ⟨fun _ => hstate, fun _ => hstate, fun _ h => absurd h hne⟩
  · choose textOf htext using fun item =>
      Pattern.renderItem_steady hstandard item options now hnumber
    refine ⟨textOf, fun items => ?_, fun state item => htext item state⟩
    exact Pattern.render_of_steady fun item => htext item (.start items options now) rfl rfl

/-- A number that counts down from the number of all items moves the counter that it begins; the same
digits as a target are refused and move nothing, so that a pattern with them has one text for each
item. -/
theorem targets_take_no_numbers :
    let a := Item.within [text "a"]
    let b := Item.within [text "b"]
    let state := PassState.start [a, b] {} none
    let number := evaluate .builtin state a (.builtin .number) (text "00") [text "%d", text "%n"]
    let replaced := evaluate .builtin state a (.builtin .replace) (text "replace")
      [text "00", text "0", text "1"]
    let source := text "[layer name][replace, [00], [0], [1] ]"
    number.1 = .ok (.ok (text "02")) ∧
      state.Takes (counterKey (text "00") globalScope) ⟨2, 2, -1⟩ number.2 ∧
      replaced.2 = state ∧
      ∃ textOf : Item → Text,
        (Pattern.read .builtin source).render .builtin [a, b] {} none = .ok [textOf a, textOf b] ∧
        (Pattern.read .builtin source).render .builtin [b] {} none = .ok [textOf b] := by
  intro a b state number replaced source
  obtain ⟨heffect, hsteady⟩ := evaluation_moves_one_counter
  have hnumber : number.1 = .ok (.ok (text "02")) := by decide +kernel
  obtain ⟨-, -, htakes⟩ := heffect state a (.builtin .number) List.mem_cons_self (text "00")
    [text "%d", text "%n"]
  obtain ⟨options, hread, -, hcounter⟩ := htakes _ rfl hnumber
  obtain rfl : options = ⟨true, true, none⟩ := by
    have hoptions : Number.readOptions (argumentValues [text "%d", text "%n"])
        = .ok ⟨true, true, none⟩ := by decide +kernel
    exact Except.ok.inj (hread.symm.trans hoptions)
  obtain ⟨-, hreplaced, -⟩ := heffect state a (.builtin .replace)
    (List.mem_map_of_mem (by decide)) (text "replace") [text "00", text "0", text "1"]
  have hunnumbered : (Pattern.read .builtin source).Unnumbered .builtin := by
    have hsegments : (Pattern.read .builtin source).segments
        = [.field ⟨text "layer name", []⟩ ⟨text "layer name", 0⟩,
            .field ⟨text "replace", [text " [00]", text " [0]", text " [1] "]⟩
              ⟨text "replace, [00], [0], [1] ", 12⟩] := by
      decide +kernel
    intro call g h hfind
    have hname : call.name.isNumeral = false := by
      rw [hsegments] at h
      simp only [List.mem_cons, Segment.field.injEq, List.not_mem_nil, or_false] at h
      obtain ⟨rfl, -⟩ | ⟨rfl, -⟩ := h
      · decide
      · decide
    exact Registry.ne_number_of_find_builtin hname hfind rfl
  obtain ⟨textOf, hrender, -⟩ := hsteady source hunnumbered {} none
  exact ⟨hnumber, hcounter, hreplaced (by simp), textOf, hrender [a, b], hrender [b]⟩

end NamePattern
