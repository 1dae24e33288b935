import NamePattern.FileName
import NamePattern.Proofs.Text.Cut

/-!
File names and their parts. A name with an extension is its root, a period and the extension; one without is
its own root. Removing the periods at the end of a text leaves the longest part of it from the front that
does not end in one.
-/

namespace NamePattern

/-! ### Roots and extensions -/

/-- The extension of a name with a period stands behind one, and is the rest of the name. -/
theorem exists_root_of_mem {t : Text} (h : period ∈ t) : ∃ root, t = root ++ period :: extensionAfter t := by
  induction t with
  | nil => cases h
  | cons u rest ih =>
    rw [extensionAfter]
    by_cases hu : u = period
    · subst hu
      rw [if_pos rfl]
      split
      · exact ⟨[], rfl⟩
      · split
        · next hmore =>
          obtain ⟨root, hroot⟩ := ih (by simpa using hmore)
          exact ⟨period :: root, congrArg (period :: ·) hroot⟩
        · exact ⟨[], rfl⟩
    · rw [if_neg hu]
      obtain ⟨root, hroot⟩ := ih ((List.mem_cons.1 h).resolve_left (Ne.symm hu))
      exact ⟨u :: root, congrArg (u :: ·) hroot⟩

theorem fileRoot_of_eq_nil {name : Text} (h : fileExtension name = []) : fileRoot name = name := by
  rw [fileRoot, h]
  rfl

/-- A name with an extension is put together from its parts. -/
theorem eq_fileRoot_append {name : Text} (h : fileExtension name ≠ []) :
    name = fileRoot name ++ period :: fileExtension name := by
  have hmem : period ∈ name := by
    by_contra hnone
    exact h (if_neg (by simpa using hnone))
  have hext : fileExtension name = extensionAfter name := if_pos (by simpa using hmem)
  obtain ⟨root, hroot⟩ := exists_root_of_mem hmem
  rw [← hext] at hroot
  have hlength : name.length - (fileExtension name).length - 1 = root.length := by
    have := congrArg List.length hroot
    simp only [List.length_append, List.length_cons] at this
    omega
  have htake : name.take root.length = root := by
    rw [hroot]
    exact List.take_left
  rw [fileRoot]
  simp only [List.isEmpty_iff, h, if_false, hlength, htake]
  exact hroot

theorem fileRoot_ne {name : Text} (h : fileExtension name ≠ []) : fileRoot name ≠ name := by
  intro hroot
  have hlength := congrArg List.length (eq_fileRoot_append h)
  rw [hroot, List.length_append, List.length_cons] at hlength
  omega

theorem fileRoot_isPrefix (name : Text) : fileRoot name <+: name := by
  by_cases h : fileExtension name = []
  · exact ⟨[], by rw [List.append_nil, fileRoot_of_eq_nil h]⟩
  · exact ⟨_, (eq_fileRoot_append h).symm⟩

/-! ### Periods at the end -/

theorem trimPeriods_append (t : Text) :
    ∃ count, t = trimPeriods t ++ List.replicate count period :=
  rdropWhile_append_replicate period t

theorem getLast_trimPeriods (t : Text) : (trimPeriods t).getLast? ≠ some period := by
  intro h
  by_cases hnil : trimPeriods t = []
  · rw [hnil] at h
    cases h
  · rw [List.getLast?_eq_some_getLast hnil, Option.some.injEq] at h
    exact List.rdropWhile_last_not (· == period) t hnil (beq_iff_eq.2 h)

/-! ### Removing the extension -/

/-- What is left of a name without its extension, the period before it and every period that this leaves at
the end. -/
structure Stripped (name kept : Text) : Prop where
  periods : ∃ count, fileRoot name = kept ++ List.replicate count period
  last : kept.getLast? ≠ some period

/-- The period before the extension of a name stands behind another one. -/
def HasDoublePeriod (name : Text) : Prop :=
  fileExtension name ≠ [] ∧ ∃ front, name = front ++ period :: period :: fileExtension name

theorem hasDoublePeriod_iff (name : Text) :
    HasDoublePeriod name ↔ fileExtension name ≠ [] ∧ (fileRoot name).getLast? = some period := by
  refine and_congr_right fun h => ?_
  have hname := eq_fileRoot_append h
  rw [List.getLast?_eq_some_iff]
  constructor
  · rintro ⟨front, hfront⟩
    have htexts : fileRoot name ++ period :: fileExtension name
        = (front ++ [period]) ++ period :: fileExtension name := by
      rw [← hname, List.append_assoc]
      exact hfront
    exact ⟨front, List.append_cancel_right htexts⟩
  · rintro ⟨front, hfront⟩
    refine ⟨front, ?_⟩
    rw [hfront, List.append_assoc] at hname
    exact hname

instance (name : Text) : Decidable (HasDoublePeriod name) :=
  decidable_of_iff _ (hasDoublePeriod_iff name).symm

theorem replaceExtension_of_eq_nil {name : Text} (h : fileExtension name = []) :
    replaceExtension name [] = trimPeriods name := by
  rw [replaceExtension, fileRoot_of_eq_nil h]
  simp

theorem replaceExtension_of_ne_nil {name : Text} (h : fileExtension name ≠ []) :
    replaceExtension name [] = fileRoot name := by
  simp [replaceExtension, fileRoot_ne h]

/-- Removing an extension takes nothing from a name but its extension, the period before it and periods. -/
theorem fileRoot_eq_append (name : Text) :
    ∃ count, fileRoot name = replaceExtension name [] ++ List.replicate count period := by
  by_cases h : fileExtension name = []
  · rw [replaceExtension_of_eq_nil h, fileRoot_of_eq_nil h]
    exact trimPeriods_append name
  · rw [replaceExtension_of_ne_nil h]
    exact ⟨0, (List.append_nil _).symm⟩

/-- The periods at the end go only if there was no extension in front of them. -/
theorem getLast_replaceExtension (name : Text) :
    (replaceExtension name []).getLast? = some period ↔ HasDoublePeriod name := by
  rw [hasDoublePeriod_iff]
  by_cases h : fileExtension name = []
  · rw [replaceExtension_of_eq_nil h]
    exact iff_of_false (getLast_trimPeriods name) fun hdouble => hdouble.1 h
  · rw [replaceExtension_of_ne_nil h]
    exact (and_iff_right h).symm

theorem stripped_replaceExtension (name : Text) :
    Stripped name (replaceExtension name []) ↔ ¬ HasDoublePeriod name := by
  rw [← getLast_replaceExtension]
  exact ⟨Stripped.last, fun h => ⟨fileRoot_eq_append name, h⟩⟩

theorem replaceExtension_isPrefix (name : Text) : replaceExtension name [] <+: name := by
  obtain ⟨count, hroot⟩ := fileRoot_eq_append name
  exact List.IsPrefix.trans ⟨_, hroot.symm⟩ (fileRoot_isPrefix name)

end NamePattern
