import Mathlib.Data.List.DropRight
import NamePattern.Text.Basic

/-!
Cutting a text at the first unit of a kind. What stands before the cut has no such unit, and with it and
what stands behind it makes up the text. Dropping the units of a kind at the end of a text leaves the text
without them.
-/

namespace NamePattern

theorem cutAt_of_notMem {u : CodeUnit} {t : Text} (h : u ∉ t) : t.cutAt u = (t, none) := by
  induction t with
  | nil => rfl
  | cons v rest ih =>
    rw [List.mem_cons, not_or] at h
    obtain ⟨hv, hrest⟩ := h
    rw [Text.cutAt, if_neg (Ne.symm hv), ih hrest]

theorem cutAt_append {u : CodeUnit} {before : Text} (h : u ∉ before) (after : Text) :
    (before ++ u :: after).cutAt u = (before, some after) := by
  induction before with
  | nil => rw [List.nil_append, Text.cutAt, if_pos rfl]
  | cons v rest ih =>
    rw [List.mem_cons, not_or] at h
    obtain ⟨hv, hrest⟩ := h
    rw [List.cons_append, Text.cutAt, if_neg (Ne.symm hv), ih hrest]

theorem eq_of_cutAt {u : CodeUnit} {t before after : Text}
    (h : t.cutAt u = (before, some after)) : t = before ++ u :: after ∧ u ∉ before := by
  by_cases hu : u ∈ t
  · obtain ⟨front, back, rfl, hfront⟩ := List.eq_append_cons_of_mem hu
    rw [cutAt_append hfront] at h
    cases h
    exact ⟨rfl, hfront⟩
  · rw [cutAt_of_notMem hu] at h
    cases h

/-- The units of a kind at the end of a text are a run. -/
theorem rtakeWhile_eq_replicate (u : CodeUnit) (t : Text) :
    t.rtakeWhile (· == u) = List.replicate (t.rtakeWhile (· == u)).length u := by
  refine List.eq_replicate_length.2 fun v hv => ?_
  have hunit := List.mem_rtakeWhile_imp hv
  simpa using hunit

theorem rdropWhile_append_replicate (u : CodeUnit) (t : Text) :
    ∃ count, t = t.rdropWhile (· == u) ++ List.replicate count u := by
  refine ⟨(t.rtakeWhile (· == u)).length, ?_⟩
  rw [← rtakeWhile_eq_replicate]
  exact List.rdropWhile_append_rtakeWhile.symm

end NamePattern
