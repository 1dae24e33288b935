import Mathlib.Data.List.Basic
import NamePattern.Field.Tags

/-!
Requests for the tags that are shown. A tag is requested by the name by which it is shown, and a display
name of the host always asks for the tag of the host. So a tag that was attached under a display name of the
host, without the host's tag beside it, is shown and cannot be requested; every other tag can.
-/

namespace NamePattern.Tags

/-- A name by which a tag of the host is shown that a set does not have. Nobody can request a tag of the set
by it. -/
def Reserved (tags : TagSet) (name : Text) : Prop :=
  ∃ host ∈ hostTags, host.2 = name ∧ host.1 ∉ tags.tags

instance (tags : TagSet) (name : Text) : Decidable (Reserved tags name) :=
  inferInstanceAs (Decidable (∃ host ∈ hostTags, host.2 = name ∧ host.1 ∉ tags.tags))

/-! ### Display names and tags -/

theorem displayName_injective : ∀ a ∈ hostTags, ∀ b ∈ hostTags, a.2 = b.2 → a = b := by decide

theorem tag_injective : ∀ a ∈ hostTags, ∀ b ∈ hostTags, a.1 = b.1 → a = b := by decide

theorem tag_ne_displayName : ∀ a ∈ hostTags, ∀ b ∈ hostTags, a.1 ≠ b.2 := by decide

/-- Looking up a text in the table of the host gives what stands beside it, or the text itself. -/
theorem lookup_cases (look found : Text × Text → Text) (t : Text) :
    (∃ host ∈ hostTags, look host = t ∧
      ((hostTags.find? fun host => look host = t).map found).getD t = found host) ∨
    ((∀ host ∈ hostTags, look host ≠ t) ∧
      ((hostTags.find? fun host => look host = t).map found).getD t = t) := by
  cases hfind : hostTags.find? fun host => look host = t with
  | none => exact .inr ⟨by simpa using List.find?_eq_none.1 hfind, rfl⟩
  | some host =>
    exact .inl ⟨host, List.mem_of_find?_eq_some hfind, by simpa using List.find?_some hfind, rfl⟩

theorem displayName_cases (tag : Text) :
    (∃ host ∈ hostTags, host.1 = tag ∧ displayName tag = host.2) ∨
      ((∀ host ∈ hostTags, host.1 ≠ tag) ∧ displayName tag = tag) :=
  lookup_cases Prod.fst Prod.snd tag

theorem tagOf_cases (name : Text) :
    (∃ host ∈ hostTags, host.2 = name ∧ tagOf name = host.1) ∨
      ((∀ host ∈ hostTags, host.2 ≠ name) ∧ tagOf name = name) :=
  lookup_cases Prod.snd Prod.fst name

theorem displayName_host {host : Text × Text} (h : host ∈ hostTags) : displayName host.1 = host.2 := by
  obtain ⟨other, hother, heq, hname⟩ | ⟨hnone, -⟩ := displayName_cases host.1
  · rw [hname, tag_injective other hother host h heq]
  · exact absurd rfl (hnone host h)

/-- A tag that was attached under a display name of the host is shown by it as well. -/
theorem displayName_displayName {host : Text × Text} (h : host ∈ hostTags) :
    displayName host.2 = host.2 := by
  obtain ⟨other, hother, heq, -⟩ | ⟨-, hname⟩ := displayName_cases host.2
  · exact absurd heq (tag_ne_displayName other hother host h)
  · exact hname

/-- No display name is a tag of the host. -/
theorem ne_displayName {host : Text × Text} (h : host ∈ hostTags) (tag : Text) :
    host.1 ≠ displayName tag := by
  obtain ⟨other, hother, -, hname⟩ | ⟨hnone, hname⟩ := displayName_cases tag
  · rw [hname]
    exact tag_ne_displayName host h other hother
  · rw [hname]
    exact hnone host h

/-! ### Requests by display names -/

section
variable {tags : TagSet}

theorem not_reserved_of_mem {host : Text × Text} (hhost : host ∈ hostTags) (h : host.1 ∈ tags.tags) :
    ¬ Reserved tags host.2 := by
  rintro ⟨other, hother, heq, hnone⟩
  rw [displayName_injective other hother host hhost heq] at hnone
  exact hnone h

/-- A tag of the set that is shown by a reserved name was attached by that name. -/
theorem reserved_displayName_iff {tag : Text} (h : tag ∈ tags.tags) :
    Reserved tags (displayName tag) ↔ Reserved tags tag := by
  obtain ⟨host, hhost, rfl, hname⟩ | ⟨-, hname⟩ := displayName_cases tag
  · rw [hname]
    refine iff_of_false (not_reserved_of_mem hhost h) ?_
    rintro ⟨other, hother, heq, -⟩
    exact tag_ne_displayName host hhost other hother heq.symm
  · rw [hname]

theorem requested_displayName {tag : Text} (h : tag ∈ tags.tags) :
    requested? tags (displayName tag)
      = if Reserved tags (displayName tag) then none else some (displayName tag) := by
  have hhost : isHostTag (displayName tag) = false := by
    rw [isHostTag, List.any_eq_false]
    exact fun host hhost h => ne_displayName hhost tag (of_decide_eq_true h)
  rw [requested?, hhost, if_neg Bool.false_ne_true]
  obtain ⟨host, hhost, heq, htag⟩ | ⟨hnone, htag⟩ := tagOf_cases (displayName tag)
  · rw [htag, ← heq, displayName_host hhost]
    by_cases hmem : host.1 ∈ tags.tags
    · rw [if_pos (by simpa using hmem), if_neg (not_reserved_of_mem hhost hmem)]
    · rw [if_neg (by simpa using hmem), if_pos ⟨host, hhost, rfl, hmem⟩]
  · -- no name of the host, so the tag is shown as it was attached and asked for by the same text
    have hown : displayName tag = tag := by
      obtain ⟨host, hhost, -, hname⟩ | ⟨-, hname⟩ := displayName_cases tag
      · exact absurd hname.symm (hnone host hhost)
      · exact hname
    have hfree : ¬ Reserved tags (displayName tag) := by
      rintro ⟨host, hhost, heq, -⟩
      exact hnone host hhost heq
    rw [htag, if_neg hfree, hown, hown, if_pos (by simpa using h)]

theorem mem_select_nil {name : Text} :
    name ∈ select tags [] ↔ ∃ tag ∈ tags.tags, displayName tag = name := by
  rw [select, List.isEmpty_nil, if_pos rfl, List.mem_mergeSort, List.mem_map]

theorem filterMap_requested {names : List Text} (h : ∀ name ∈ names, name ∈ select tags []) :
    names.filterMap (requested? tags) = names.filter fun name => ¬ Reserved tags name := by
  rw [← List.filterMap_eq_filter]
  refine List.filterMap_congr fun name hname => ?_
  obtain ⟨tag, htag, rfl⟩ := mem_select_nil.1 (h name hname)
  rw [requested_displayName htag]
  by_cases hreserved : Reserved tags (displayName tag) <;> simp [hreserved, Option.guard]

theorem select_shown (tags : TagSet) :
    select tags (select tags []) = (select tags []).filter fun name => ¬ Reserved tags name := by
  rw [← filterMap_requested fun _ h => h]
  rcases hshown : select tags [] with _ | ⟨first, rest⟩
  · exact hshown
  · rfl

theorem select_displayName {tag : Text} (h : tag ∈ tags.tags) :
    select tags [displayName tag] = if Reserved tags tag then [] else [displayName tag] := by
  have hselect : select tags [displayName tag] = [displayName tag].filterMap (requested? tags) := rfl
  rw [hselect, List.filterMap_cons, requested_displayName h]
  by_cases hreserved : Reserved tags tag
  · rw [if_pos hreserved, if_pos ((reserved_displayName_iff h).2 hreserved), List.filterMap_nil]
  · rw [if_neg hreserved, if_neg (mt (reserved_displayName_iff h).1 hreserved), List.filterMap_nil]

end

/-- Requesting what is shown leaves out the reserved names, and nothing else. All of it comes back just if the
set has the host's tag wherever it has a tag of that display name, and a tag can be selected by its display
name unless it is reserved. -/
theorem shown_tags_come_back_iff (tags : TagSet) :
    select tags (select tags []) = (select tags []).filter (fun name => ¬ Reserved tags name) ∧
    (select tags (select tags []) = select tags [] ↔
      ∀ host ∈ hostTags, host.2 ∈ tags.tags → host.1 ∈ tags.tags) ∧
    ∀ tag ∈ tags.tags,
      select tags [displayName tag] = if Reserved tags tag then [] else [displayName tag] := by
  refine ⟨select_shown tags, ?_, fun tag htag => select_displayName htag⟩
  rw [select_shown, List.filter_eq_self]
  constructor
  · intro h host hhost hshown
    by_contra hmissing
    have hfree := h host.2 (mem_select_nil.2 ⟨host.2, hshown, displayName_displayName hhost⟩)
    exact of_decide_eq_true hfree ⟨host, hhost, rfl, hmissing⟩
  · intro h name hname
    obtain ⟨tag, htag, rfl⟩ := mem_select_nil.1 hname
    rw [decide_eq_true_iff, reserved_displayName_iff htag]
    rintro ⟨host, hhost, rfl, hmissing⟩
    exact hmissing (h host hhost htag)

/-- With the tag of the host beside it the other tag of that display name comes back. -/
theorem display_name_beside_host_tag_comes_back :
    let tags : TagSet := .ofList [text "Background", text "left", text "background"]
    (∀ host ∈ hostTags, host.2 ∈ tags.tags → host.1 ∈ tags.tags) ∧
      select tags (select tags []) = select tags [] ∧ text "Background" ∈ tags.tags ∧
      select tags [text "Background"] = [text "Background"] := by
  intro tags
  have hhosts : ∀ host ∈ hostTags, host.2 ∈ tags.tags → host.1 ∈ tags.tags := by decide
  obtain ⟨-, hback, hselect⟩ := shown_tags_come_back_iff tags
  have hmem : text "Background" ∈ tags.tags := by decide
  exact ⟨hhosts, hback.2 hhosts, hmem, hselect _ hmem⟩

/-- The only tag has a display name of the host. It is shown, and requesting it gives nothing. -/
theorem reserved_name_does_not_come_back :
    let tags : TagSet := .ofList [text "Background"]
    select tags [] = [text "Background"] ∧ select tags (select tags []) = [] ∧
      text "Background" ∈ tags.tags ∧ select tags [displayName (text "Background")] = [] := by
  intro tags
  have hshown : select tags [] = [text "Background"] := List.mergeSort_singleton _
  rw [hshown]
  exact ⟨rfl, by decide, by decide, by decide⟩

end NamePattern.Tags
