import Mathlib.Data.List.Sort
import NamePattern.Field.Tags

/-!
The order of all tags. Tags that are not requested by name come in the order of the lower case of their
display names, and names with the same lower case in the order in which their tags were attached. Where
no two different names share a lower case the order of attachment has no part in it.
-/

namespace NamePattern.Tags

/-- Names in the order of their lower case, those with the same lower case as they were given. -/
structure SortedStably (names sorted : List Text) : Prop where
  perm : sorted.Perm names
  ordered : sorted.Pairwise fun a b => a.lower ≤ b.lower
  stable : ∀ key, (sorted.filter fun name => name.lower = key)
    = names.filter fun name => name.lower = key

/-! ### There is one such order -/

section
variable {first second : List Text}

theorem mem_iff_of_filter_lower
    (h : ∀ key, (first.filter fun name => name.lower = key)
      = second.filter fun name => name.lower = key) (name : Text) :
    name ∈ first ↔ name ∈ second := by
  have hkey : name ∈ first.filter (fun other => other.lower = name.lower) ↔ _ :=
    iff_of_eq (congrArg (name ∈ ·) (h name.lower))
  simpa using hkey

theorem lower_le_of_mem {a b : Text} {rest : List Text}
    (h : (a :: rest).Pairwise fun a b => a.lower ≤ b.lower) (hb : b ∈ a :: rest) : a.lower ≤ b.lower := by
  rcases List.mem_cons.1 hb with rfl | hb
  · exact List.le_refl _
  · exact List.rel_of_pairwise_cons h hb

/-- The first names of two such lists are in both, so none of them comes before the other, and among the
names with their lower case each of them is the first. -/
theorem eq_of_filter_lower (hfirst : first.Pairwise fun a b => a.lower ≤ b.lower)
    (hsecond : second.Pairwise fun a b => a.lower ≤ b.lower)
    (h : ∀ key, (first.filter fun name => name.lower = key)
      = second.filter fun name => name.lower = key) : first = second := by
  induction first generalizing second with
  | nil =>
    symm
    exact List.eq_nil_iff_forall_not_mem.2 fun name hname =>
      List.not_mem_nil ((mem_iff_of_filter_lower h name).2 hname)
  | cons a rest ih =>
    have hmem := mem_iff_of_filter_lower h
    cases second with
    | nil => exact absurd ((hmem a).1 List.mem_cons_self) List.not_mem_nil
    | cons b more =>
      have hlower : a.lower = b.lower :=
        List.le_antisymm (lower_le_of_mem hfirst ((hmem b).2 List.mem_cons_self))
          (lower_le_of_mem hsecond ((hmem a).1 List.mem_cons_self))
      obtain rfl : a = b := by
        have hheads := h a.lower
        rw [List.filter_cons_of_pos (by simp), List.filter_cons_of_pos (by simp [hlower])] at hheads
        exact List.head_eq_of_cons_eq hheads
      refine congrArg (a :: ·) (ih hfirst.of_cons hsecond.of_cons fun key => ?_)
      -- the name taken off stands at the front of both filtered lists, or in neither
      have hkey := h key
      by_cases ha : a.lower = key
      · rw [List.filter_cons_of_pos (by simp [ha]), List.filter_cons_of_pos (by simp [ha])] at hkey
        exact List.tail_eq_of_cons_eq hkey
      · rwa [List.filter_cons_of_neg (by simp [ha]), List.filter_cons_of_neg (by simp [ha])] at hkey

end

theorem SortedStably.unique {names sorted other : List Text} (h : SortedStably names sorted)
    (hother : SortedStably names other) : sorted = other :=
  eq_of_filter_lower h.ordered hother.ordered fun key =>
    (h.stable key).trans (hother.stable key).symm

/-! ### Sorting gives it -/

theorem notAfter_iff {a b : Text} : notAfter a b = true ↔ a.lower ≤ b.lower := by
  simp [notAfter, Text.before, List.not_lt]

theorem notAfter_trans (a b c : Text) (hab : notAfter a b = true) (hbc : notAfter b c = true) :
    notAfter a c = true :=
  notAfter_iff.2 (List.le_trans (notAfter_iff.1 hab) (notAfter_iff.1 hbc))

theorem notAfter_total (a b : Text) : (notAfter a b || notAfter b a) = true := by
  rw [Bool.or_eq_true, notAfter_iff, notAfter_iff]
  exact List.le_total a.lower b.lower

theorem ordered_mergeSort (names : List Text) :
    (names.mergeSort notAfter).Pairwise fun a b => a.lower ≤ b.lower :=
  (List.pairwise_mergeSort notAfter_trans notAfter_total names).imp notAfter_iff.1

/-- The names with one lower case are in order before they are sorted, so they stay as they are. -/
theorem filter_mergeSort (names : List Text) (key : Text) :
    ((names.mergeSort notAfter).filter fun name => name.lower = key)
      = names.filter fun name => name.lower = key := by
  have hordered : (names.filter fun name => name.lower = key).Pairwise (notAfter · ·) := by
    refine List.pairwise_of_forall_mem_list fun a ha b hb => notAfter_iff.2 ?_
    rw [of_decide_eq_true (List.mem_filter.1 ha).2, of_decide_eq_true (List.mem_filter.1 hb).2]
    exact List.le_refl key
  have hsub := (List.sublist_mergeSort notAfter_trans notAfter_total hordered
    List.filter_sublist).filter fun name => name.lower = key
  simp only [List.filter_filter, Bool.and_self] at hsub
  have hlength := ((List.mergeSort_perm names notAfter).filter fun name => name.lower = key).length_eq
  exact (hsub.eq_of_length hlength.symm).symm

theorem sortedStably_select (tags : TagSet) :
    SortedStably (tags.tags.map displayName) (select tags []) :=
  ⟨List.mergeSort_perm _ _, ordered_mergeSort _, filter_mergeSort _⟩

/-- Without a request the display names of all tags come sorted by their lower case, names with the same
lower case in the order of attachment, and there is only one list like that. Sets with the same tags give
the same list unless two different display names have the same lower case. -/
theorem all_tags_are_sorted_by_lower_case (tags : TagSet) :
    SortedStably (tags.tags.map displayName) (select tags []) ∧
    (∀ sorted, SortedStably (tags.tags.map displayName) sorted → sorted = select tags []) ∧
    ∀ other : TagSet, other.tags.Perm tags.tags →
      (∀ a ∈ tags.tags, ∀ b ∈ tags.tags,
        (displayName a).lower = (displayName b).lower → displayName a = displayName b) →
      select other [] = select tags [] := by
  have hselect := sortedStably_select tags
  refine ⟨hselect, fun sorted hsorted => hsorted.unique hselect, fun other hperm hnames => ?_⟩
  have hother := sortedStably_select other
  have hsame := (hother.perm.trans (hperm.map displayName)).trans hselect.perm.symm
  refine List.Perm.eq_of_pairwise (fun a b ha hb hab hba => ?_) hother.ordered hselect.ordered hsame
  obtain ⟨x, hx, rfl⟩ := List.mem_map.1 (hselect.perm.mem_iff.1 (hsame.mem_iff.1 ha))
  obtain ⟨y, hy, rfl⟩ := List.mem_map.1 (hselect.perm.mem_iff.1 hb)
  exact hnames x hx y hy (List.le_antisymm hab hba)

/-- Two orders of attachment. The tag of the host is sorted by its display name, and the lower case of the
dotted capital, which is longer than it, comes behind that of the other names. -/
theorem order_of_attachment_is_no_matter :
    let tags : TagSet := .ofList [text "İ", text "b", text "background", text "A"]
    let other : TagSet := .ofList [text "A", text "b", text "background", text "İ"]
    (other.tags.Perm tags.tags ∧
      ∀ a ∈ tags.tags, ∀ b ∈ tags.tags,
        (displayName a).lower = (displayName b).lower → displayName a = displayName b) ∧
    select other [] = [text "A", text "b", text "Background", text "İ"] ∧
      select tags [] = [text "A", text "b", text "Background", text "İ"] := by
  intro tags other
  have hperm : other.tags.Perm tags.tags := by decide +kernel
  have hnames : ∀ a ∈ tags.tags, ∀ b ∈ tags.tags,
      (displayName a).lower = (displayName b).lower → displayName a = displayName b := by
    decide +kernel
  obtain ⟨-, -, hsame⟩ := all_tags_are_sorted_by_lower_case tags
  have hother : select other [] = other.tags.map displayName :=
    List.mergeSort_of_pairwise (by decide +kernel)
  rw [← hsame other hperm hnames, hother]
  exact ⟨⟨hperm, hnames⟩, by decide +kernel, by decide +kernel⟩

end NamePattern.Tags
