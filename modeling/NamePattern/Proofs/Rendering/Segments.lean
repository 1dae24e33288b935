import NamePattern.Proofs.Evaluation.Target
import NamePattern.Render

/-!
The text of some segments, one segment at a time. Literal text goes through unchanged, whether it stands
in a segment of its own or is part of one; a field puts out its value or, if it fails, its group.
-/

namespace NamePattern

theorem runAll_cons {σ α β : Type} (step : σ → α → Except Fault β × σ) (state : σ) (a : α)
    (rest : List α) :
    runAll step state (a :: rest)
      = match step state a with
        | (.error fault, next) => (.error fault, next)
        | (.ok b, next) =>
          ((runAll step next rest).1.map (b :: ·), (runAll step next rest).2) := by
  rw [runAll]
  rcases step state a with ⟨_ | b, next⟩
  · rfl
  · simp only
    rcases runAll step next rest with ⟨_ | bs, last⟩ <;> rfl

/-- Results that are all there are those of the first step and of the rest after it. -/
theorem runAll_cons_eq_ok {σ α β : Type} {step : σ → α → Except Fault β × σ} {state : σ} {a : α}
    {rest : List α} {bs : List β} (h : (runAll step state (a :: rest)).1 = .ok bs) :
    ∃ b next more, step state a = (.ok b, next) ∧ (runAll step next rest).1 = .ok more ∧
      bs = b :: more := by
  rw [runAll_cons] at h
  rcases hstep : step state a with ⟨fault | b, next⟩
  · rw [hstep] at h; cases h
  · rw [hstep] at h
    dsimp only at h
    cases hrest : (runAll step next rest).1 with
    | error fault => rw [hrest] at h; cases h
    | ok more =>
      rw [hrest] at h
      cases h
      exact ⟨b, next, more, rfl, hrest, rfl⟩

/-- A text in front of what is rendered. -/
def prependText (t : Text) (rendered : Except Fault Text × PassState) :
    Except Fault Text × PassState :=
  (rendered.1.map (t ++ ·), rendered.2)

theorem prependText_append (s t : Text) (rendered : Except Fault Text × PassState) :
    prependText s (prependText t rendered) = prependText (s ++ t) rendered := by
  obtain ⟨_ | more, next⟩ := rendered
  · rfl
  · simp [prependText, Except.map]

namespace Room

/-- The text of some segments for an item, evaluated one after the other on the state of a pass. How long
it becomes is not asked. -/
def renderAll (room : Room) (registry : Registry) (item : Item) (state : PassState)
    (segments : List Segment) : Except Fault Text × PassState :=
  ((runAll (room.renderSegment registry item) state segments).1.map List.flatten,
    (runAll (room.renderSegment registry item) state segments).2)

section
variable (room : Room) (registry : Registry) (item : Item) (state : PassState)

theorem renderSegment_call (call : Call) (group : Group) :
    room.renderSegment registry item state (.field call group)
      = match room.evaluateCall registry state item call with
        | (.error fault, next) => (.error fault, next)
        | (.ok (.ok value), next) => (.ok value, next)
        | (.ok (.error _), next) => (.ok group.written, next) := by
  rw [renderSegment, evaluateCall]
  cases registry.find? call.name with
  | none => rfl
  | some field =>
    dsimp only
    rcases room.evaluate registry state item field call.name call.args with ⟨_ | _ | _, next⟩ <;> rfl

theorem renderAll_cons (segment : Segment) (rest : List Segment) :
    room.renderAll registry item state (segment :: rest)
      = match room.renderSegment registry item state segment with
        | (.error fault, next) => (.error fault, next)
        | (.ok t, next) => prependText t (room.renderAll registry item next rest) := by
  rw [renderAll, runAll_cons]
  rcases room.renderSegment registry item state segment with ⟨_ | t, next⟩
  · rfl
  · simp only [renderAll, prependText]
    rcases runAll (room.renderSegment registry item) next rest with ⟨_ | texts, last⟩ <;> rfl

theorem renderAll_literal (t : Text) (rest : List Segment) :
    room.renderAll registry item state (.literal t :: rest)
      = prependText t (room.renderAll registry item state rest) := by
  rw [renderAll_cons, renderSegment]

theorem renderAll_field (call : Call) (g : Group) (rest : List Segment) :
    room.renderAll registry item state (.field call g :: rest)
      = match room.evaluateCall registry state item call with
        | (.error fault, next) => (.error fault, next)
        | (.ok (.ok value), next) => prependText value (room.renderAll registry item next rest)
        | (.ok (.error _), next) =>
          prependText g.written (room.renderAll registry item next rest) := by
  rw [renderAll_cons, renderSegment_call]
  rcases room.evaluateCall registry state item call with ⟨_ | _ | _, next⟩ <;> rfl

/-- Merging literal text with what follows changes no output. -/
theorem renderAll_prependLiteral (t : Text) (rest : List Segment) :
    room.renderAll registry item state (Segment.prependLiteral t rest)
      = prependText t (room.renderAll registry item state rest) := by
  rcases rest with _ | ⟨s | ⟨call, g⟩, rest⟩
  · exact renderAll_literal room registry item state t []
  · rw [Segment.prependLiteral, renderAll_literal, renderAll_literal, prependText_append]
  · exact renderAll_literal room registry item state t (.field call g :: rest)

/-! ### The length of the text -/

theorem holds_zero : room.holds 0 = true := by
  cases room with
  | mk longest => cases longest <;> simp [holds]

variable {room} in
theorem holds_of_le {length longer : Nat} (hle : length ≤ longer) (h : room.holds longer = true) :
    room.holds length = true := by
  cases room with
  | mk longest =>
    cases longest with
    | none => rfl
    | some n => exact decide_eq_true (Nat.le_trans hle (of_decide_eq_true h))

/-- Segments that have a text are rendered behind another one if there is room for both. -/
theorem renderSegments_of_renderAll {segments : List Segment} {t : Text} {next : PassState}
    (h : room.renderAll registry item state segments = (.ok t, next)) {length : Nat}
    (hlength : room.holds length = true) :
    if room.holds (length + t.length) then
      room.renderSegments registry item length state segments = (.ok t, next)
    else ∃ stopped, room.renderSegments registry item length state segments
      = (.error .tooLong, stopped) := by
  induction segments generalizing state length t with
  | nil =>
    cases h
    exact (if_pos hlength).mpr rfl
  | cons segment rest ih =>
    rw [renderAll_cons] at h
    rcases hsegment : room.renderSegment registry item state segment with ⟨fault | s, middle⟩
    · rw [hsegment] at h
      cases h
    · rw [hsegment] at h
      dsimp only at h
      rcases hrest : room.renderAll registry item middle rest with ⟨fault | more, last⟩
      · rw [hrest] at h
        cases h
      · rw [hrest] at h
        cases h
        have htotal : length + (s ++ more).length = length + s.length + more.length := by
          rw [List.length_append, Nat.add_assoc]
        simp only [renderSegments, hsegment, htotal]
        by_cases hs : room.holds (length + s.length) = true
        · have hmore := ih middle hrest hs
          rw [if_pos hs]
          split
          · next hfits =>
            rw [if_pos hfits] at hmore
            rw [hmore]
          · next hfits =>
            rw [if_neg hfits] at hmore
            obtain ⟨stopped, hstopped⟩ := hmore
            exact ⟨stopped, by rw [hstopped]⟩
        · rw [if_neg hs, if_neg fun hfits => hs (holds_of_le (Nat.le_add_right ..) hfits)]
          exact ⟨middle, rfl⟩

theorem renderSegments_unbounded (length : Nat) (segments : List Segment) :
    unbounded.renderSegments registry item length state segments
      = unbounded.renderAll registry item state segments := by
  induction segments generalizing state length with
  | nil => rfl
  | cons segment rest ih =>
    rw [renderSegments, renderAll_cons]
    rcases unbounded.renderSegment registry item state segment with ⟨_ | t, next⟩
    · rfl
    · simp only [holds_unbounded, if_true, ih]
      rcases unbounded.renderAll registry item next rest with ⟨_ | more, last⟩ <;> rfl

end

/-- Where every item has a text, the texts are rendered if there is room for each of them. -/
theorem runAll_renderItem {room : Room} {registry : Registry} {pattern : Pattern} {items : List Item}
    {state : PassState} {texts : List Text}
    (h : (runAll (fun state item => room.renderAll registry item state pattern.segments) state items).1
      = .ok texts) :
    (runAll (room.renderItem registry pattern) state items).1
      = if ∀ t ∈ texts, room.holds t.length = true then .ok texts else .error .tooLong := by
  induction items generalizing state texts with
  | nil =>
    cases h
    exact (if_pos fun t ht => absurd ht List.not_mem_nil).symm
  | cons item rest ih =>
    obtain ⟨t, next, more, ht, hmore, rfl⟩ := runAll_cons_eq_ok h
    have hitem := room.renderSegments_of_renderAll registry item state ht room.holds_zero
    rw [Nat.zero_add] at hitem
    rw [runAll_cons, renderItem]
    by_cases hfits : room.holds t.length = true
    · rw [if_pos hfits] at hitem
      simp only [hitem, ih hmore, List.forall_mem_cons, hfits, true_and]
      split <;> rfl
    · rw [if_neg hfits] at hitem
      obtain ⟨stopped, hstopped⟩ := hitem
      rw [hstopped, if_neg fun hall => hfits (hall t List.mem_cons_self)]

/-- Whether there is room for what a pass builds outside of its fields: the scopes of its items and their
texts. -/
def HoldsPass (room : Room) (items : List Item) (texts : List Text) : Prop :=
  (∀ item ∈ items, room.holds (scopeKey item).length = true) ∧ ∀ t ∈ texts, room.holds t.length = true

instance (room : Room) (items : List Item) (texts : List Text) : Decidable (room.HoldsPass items texts) :=
  inferInstanceAs (Decidable (_ ∧ _))

theorem holdsPass_unbounded (items : List Item) (texts : List Text) : unbounded.HoldsPass items texts :=
  ⟨fun _ _ => rfl, fun _ _ => rfl⟩

/-- A pass in which every item has a text gives the texts if there is room for them and for the scopes of
the items. -/
theorem render_of_runAll {room : Room} {registry : Registry} {pattern : Pattern} {items : List Item}
    {options : RenderOptions} {now : Option Instant} {texts : List Text}
    (h : (runAll (fun state item => room.renderAll registry item state pattern.segments)
      (.start items options now) items).1 = .ok texts) :
    room.render registry pattern items options now
      = if room.HoldsPass items texts then .ok texts else .error .tooLong := by
  rw [render, start]
  by_cases hscopes : ∀ item ∈ items, room.holds (scopeKey item).length = true
  · rw [if_pos (List.all_eq_true.2 hscopes)]
    simp only [HoldsPass, and_iff_right hscopes]
    exact runAll_renderItem h
  · rw [if_neg fun hall => hscopes (List.all_eq_true.1 hall), if_neg fun hboth => hscopes hboth.1]

end Room

/-! ### Where there is room for any text -/

namespace Segment

/-- The text of some segments for an item, evaluated one after the other on the state of a pass. -/
def renderAll (registry : Registry) (item : Item) (state : PassState) (segments : List Segment) :
    Except Fault Text × PassState :=
  ((runAll (render registry item) state segments).1.map List.flatten,
    (runAll (render registry item) state segments).2)

section
variable (registry : Registry) (item : Item) (state : PassState)

theorem render_call (call : Call) (group : Group) :
    render registry item state (.field call group)
      = match call.evaluate registry state item with
        | (.error fault, next) => (.error fault, next)
        | (.ok (.ok value), next) => (.ok value, next)
        | (.ok (.error _), next) => (.ok group.written, next) :=
  Room.renderSegment_call .unbounded registry item state call group

theorem renderItem_eq_renderAll (pattern : Pattern) :
    pattern.renderItem registry state item = renderAll registry item state pattern.segments :=
  Room.renderSegments_unbounded registry item state 0 pattern.segments

theorem renderAll_literal (t : Text) (rest : List Segment) :
    renderAll registry item state (.literal t :: rest)
      = prependText t (renderAll registry item state rest) :=
  Room.renderAll_literal .unbounded registry item state t rest

theorem renderAll_field (call : Call) (g : Group) (rest : List Segment) :
    renderAll registry item state (.field call g :: rest)
      = match call.evaluate registry state item with
        | (.error fault, next) => (.error fault, next)
        | (.ok (.ok value), next) => prependText value (renderAll registry item next rest)
        | (.ok (.error _), next) => prependText g.written (renderAll registry item next rest) :=
  Room.renderAll_field .unbounded registry item state call g rest

/-- A field alone is rendered as its value, if it has one. -/
theorem renderAll_of_value {call : Call} {value : Text} {next : PassState}
    (h : call.evaluate registry state item = (.ok (.ok value), next)) (g : Group) :
    renderAll registry item state [.field call g] = (.ok value, next) := by
  rw [renderAll_field, h]
  exact congrArg (fun t => (Except.ok t, next)) (List.append_nil value)

end

end Segment

/-- The texts of a pattern for the items of a pass are those of its items, one after the other. -/
theorem Pattern.render_eq_runAll (registry : Registry) (pattern : Pattern) (items : List Item)
    (options : RenderOptions) (now : Option Instant) :
    pattern.render registry items options now
      = (runAll (pattern.renderItem registry) (PassState.start items options now) items).1 := by
  have hstart : Room.unbounded.start items options now = .ok (.start items options now) :=
    if_pos (List.all_eq_true.2 fun _ _ => rfl)
  rw [render, Room.render, hstart]
  rfl

end NamePattern
