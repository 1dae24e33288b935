import Mathlib.Order.Filter.AtTopBot.Basic
import NamePattern.Proofs.Rendering.Segments

/-!
Room enough. What is said of a host with room for any text is said of every host that is large enough: an
evaluation and a pass build finitely many texts, so there is a length beyond which more room makes no
difference to them.
-/

namespace NamePattern.Room
open Filter

/-! ### Texts and evaluations -/

theorem eventually_holds (length : Nat) : ∀ᶠ n in atTop, (upTo n).holds length = true :=
  (eventually_ge_atTop length).mono fun _ hn => decide_eq_true hn

theorem eventually_fit (result : FieldResult) : ∀ᶠ n in atTop, (upTo n).fit result = result := by
  cases result with
  | error failure => exact .of_forall fun _ => rfl
  | ok value => exact (eventually_holds value.length).mono fun _ hn => if_pos hn

theorem eventually_fitted (evaluated : Except Fault FieldResult × PassState) :
    ∀ᶠ n in atTop, (upTo n).fitted evaluated = evaluated := by
  rcases evaluated with ⟨fault | result, next⟩
  · exact .of_forall fun _ => rfl
  · refine (eventually_fit result).mono fun n hn => ?_
    exact congrArg (fun result => (Except.ok result, next)) hn

section
variable (registry : Registry)

theorem eventually_evaluate (state : PassState) (item : Item) (field : Field) (name : Text)
    (raw : List Text) :
    ∀ᶠ n in atTop, (upTo n).evaluate registry state item field name raw
      = unbounded.evaluate registry state item field name raw := by
  induction field, name, raw using evaluation_induction with
  | custom definition name raw =>
    simp only [evaluate_custom, fitted_unbounded]
    exact eventually_fitted _
  | number name raw =>
    simp only [evaluate_number, fitted_unbounded]
    exact eventually_fitted _
  | plain kind name raw hnumber hreplace =>
    simp only [evaluate_plain _ _ _ _ _ hnumber hreplace, fitted_unbounded]
    exact eventually_fitted _
  | refused name raw failure hparse =>
    simp only [evaluate_replace_of_error _ _ _ _ _ hparse]
    exact .of_forall fun _ => trivial
  | replace name raw request hparse ih =>
    have htarget : ∀ᶠ n in atTop, (upTo n).evaluateTarget registry state item request
        = unbounded.evaluateTarget registry state item request := by
      simp only [evaluateTarget]
      cases registry.find? request.targetCall.name with
      | none => exact .of_forall fun _ => rfl
      | some target =>
        dsimp only
        split
        · exact .of_forall fun _ => rfl
        · exact ih target
    simp only [evaluate_replace_of_request _ _ _ _ _ hparse, fit_unbounded]
    rcases hrun : unbounded.evaluateTarget registry state item request with ⟨fault | failure | value, next⟩
    · exact htarget.mono fun n hn => by rw [hn, hrun]
    · exact htarget.mono fun n hn => by rw [hn, hrun]
    · filter_upwards [htarget, eventually_fit (request.apply value)] with n hn hfit
      rw [hn, hrun]
      simp only [hfit]

/-! ### Passes -/

theorem eventually_renderSegment (item : Item) (state : PassState) (segment : Segment) :
    ∀ᶠ n in atTop, (upTo n).renderSegment registry item state segment
      = unbounded.renderSegment registry item state segment := by
  cases segment with
  | literal t => exact .of_forall fun _ => rfl
  | field call group =>
    simp only [renderSegment]
    cases registry.find? call.name with
    | none => exact .of_forall fun _ => rfl
    | some found =>
      refine (eventually_evaluate registry state item found call.name call.args).mono fun n hn => ?_
      simp only [hn]

theorem eventually_renderSegments (item : Item) (length : Nat) (state : PassState)
    (segments : List Segment) :
    ∀ᶠ n in atTop, (upTo n).renderSegments registry item length state segments
      = unbounded.renderSegments registry item length state segments := by
  induction segments generalizing length state with
  | nil => exact .of_forall fun _ => rfl
  | cons segment rest ih =>
    have hsegment := eventually_renderSegment registry item state segment
    simp only [renderSegments]
    rcases hrun : unbounded.renderSegment registry item state segment with ⟨fault | t, next⟩
    · exact hsegment.mono fun n hn => by rw [hn, hrun]
    · filter_upwards [hsegment, eventually_holds (length + t.length), ih (length + t.length) next]
        with n hn hfits hrest
      rw [hn, hrun]
      simp only [hfits, hrest, holds_unbounded]

theorem eventually_runAll (pattern : Pattern) (state : PassState) (items : List Item) :
    ∀ᶠ n in atTop, runAll ((upTo n).renderItem registry pattern) state items
      = runAll (unbounded.renderItem registry pattern) state items := by
  induction items generalizing state with
  | nil => exact .of_forall fun _ => rfl
  | cons item rest ih =>
    have hitem := eventually_renderSegments registry item 0 state pattern.segments
    simp only [runAll, renderItem]
    rcases hrun : unbounded.renderSegments registry item 0 state pattern.segments with ⟨fault | t, next⟩
    · exact hitem.mono fun n hn => by rw [hn, hrun]
    · filter_upwards [hitem, ih next] with n hn hrest
      rw [hn, hrun]
      simp only [hrest]

theorem eventually_holds_scopes (items : List Item) :
    ∀ᶠ n in atTop, ∀ item ∈ items, (upTo n).holds (scopeKey item).length = true := by
  induction items with
  | nil => exact .of_forall fun _ _ hitem => absurd hitem List.not_mem_nil
  | cons item rest ih =>
    filter_upwards [eventually_holds (scopeKey item).length, ih] with n hn hrest
    exact List.forall_mem_cons.2 ⟨hn, hrest⟩

theorem eventually_render (pattern : Pattern) (items : List Item) (options : RenderOptions)
    (now : Option Instant) :
    ∀ᶠ n in atTop, (upTo n).render registry pattern items options now
      = pattern.render registry items options now := by
  filter_upwards [eventually_holds_scopes items,
    eventually_runAll registry pattern (.start items options now) items] with n hscopes hrun
  rw [Pattern.render_eq_runAll, render, start, if_pos (List.all_eq_true.2 hscopes)]
  exact congrArg Prod.fst hrun

/-- For every evaluation and for every pass there is a length from which on a room for texts of that length
gives what a room for any text gives. -/
theorem enough_room_makes_no_difference :
    (∀ state item field name raw, ∃ least, ∀ n ≥ least,
      (upTo n).evaluate registry state item field name raw
        = NamePattern.evaluate registry state item field name raw) ∧
      ∀ (pattern : Pattern) items options now, ∃ least, ∀ n ≥ least,
        (upTo n).render registry pattern items options now
          = pattern.render registry items options now :=
  ⟨fun state item field name raw =>
      eventually_atTop.1 (eventually_evaluate registry state item field name raw),
    fun pattern items options now =>
      eventually_atTop.1 (eventually_render registry pattern items options now)⟩

end

end NamePattern.Room
