import NamePattern.Proofs.FileName.Extension
import NamePattern.Proofs.Text.Caseless

/-!
Compound extensions. The extension of a name is looked for from the left, after one period and then the next,
and the search stops at the first compound extension. Each of them has a single period, also in capital letters,
so a name ends in one of them at most, and what is found can be told from the end of the name: its compound
extension, or else what follows its last period.

An extension that is put behind a name reads back unless it makes a compound one with what stands before it.
-/

namespace NamePattern

/-! ### Compound extensions at the end -/

theorem count_period_of_isCompound {t : Text} (h : isCompoundExtension t = true) : t.count period = 1 := by
  have hall : ∀ ext ∈ compoundExtensions, ext.count period = 1 := by decide
  rw [← Text.count_lower (u := period) (by decide) t]
  exact hall _ (List.contains_iff_mem.1 h)

theorem not_isCompound_of_notMem {t : Text} (h : period ∉ t) : isCompoundExtension t = false := by
  rw [Bool.eq_false_iff]
  intro hcompound
  have hcount := count_period_of_isCompound hcompound
  rw [List.count_eq_zero.2 h] at hcount
  cases hcount

/-- What follows two places of a unit is the same, or the one is part of the other. -/
theorem behind_cases {u : CodeUnit} {front front' t t' : Text} (h : front ++ u :: t = front' ++ u :: t') :
    front = front' ∧ t = t' ∨ (∃ middle, front' = front ++ u :: middle ∧ t = middle ++ u :: t') ∨
      ∃ middle, front = front' ++ u :: middle ∧ t' = middle ++ u :: t := by
  rcases List.append_eq_append_iff.1 h with ⟨_ | ⟨v, middle⟩, hfront, htail⟩ | ⟨_ | ⟨v, middle⟩, hfront, htail⟩
  · simp_all
  · obtain ⟨rfl, rfl⟩ := List.cons.inj htail
    exact .inr (.inl ⟨middle, hfront, rfl⟩)
  · simp_all
  · obtain ⟨rfl, rfl⟩ := List.cons.inj htail
    exact .inr (.inr ⟨middle, hfront, rfl⟩)

/-- A compound extension stands at the end of a name behind a period. -/
def EndsInCompound (name : Text) : Prop :=
  ∃ front ext, name = front ++ period :: ext ∧ isCompoundExtension ext = true

theorem endsInCompound_cons (u : CodeUnit) (rest : Text) :
    EndsInCompound (u :: rest) ↔ u = period ∧ isCompoundExtension rest = true ∨ EndsInCompound rest := by
  constructor
  · rintro ⟨_ | ⟨v, front⟩, ext, hname, hcompound⟩
    · obtain ⟨rfl, rfl⟩ := List.cons.inj hname
      exact .inl ⟨rfl, hcompound⟩
    · exact .inr ⟨front, ext, (List.cons.inj hname).2, hcompound⟩
  · rintro (⟨rfl, hcompound⟩ | ⟨front, ext, rfl, hcompound⟩)
    · exact ⟨[], rest, rfl, hcompound⟩
    · exact ⟨u :: front, ext, rfl, hcompound⟩

theorem not_endsInCompound_of_notMem {name : Text} (h : period ∉ name) : ¬ EndsInCompound name := by
  rintro ⟨front, ext, rfl, -⟩
  simp at h

/-- A name ends in one compound extension at most. -/
theorem compound_unique {front front' ext ext' : Text} (hname : front ++ period :: ext = front' ++ period :: ext')
    (hext : isCompoundExtension ext = true) (hext' : isCompoundExtension ext' = true) : ext = ext' := by
  have hcount := count_period_of_isCompound hext
  have hcount' := count_period_of_isCompound hext'
  -- the longer of two has the period before the shorter one as well as that one's own
  rcases behind_cases hname with ⟨-, rfl⟩ | ⟨middle, -, rfl⟩ | ⟨middle, -, rfl⟩
  · rfl
  · rw [List.count_append, List.count_cons_self] at hcount
    omega
  · rw [List.count_append, List.count_cons_self] at hcount'
    omega

/-! ### The extension of a name -/

/-- The extension of a name as it is read from the end. -/
inductive IsExtension (name : Text) : Text → Prop
  | compound {front ext : Text} (hname : name = front ++ period :: ext)
    (hcompound : isCompoundExtension ext = true) : IsExtension name ext
  | last {front ext : Text} (hplain : ¬ EndsInCompound name) (hname : name = front ++ period :: ext)
    (hlast : period ∉ ext) : IsExtension name ext
  | none (hnone : period ∉ name) : IsExtension name []

theorem IsExtension.unique {name ext ext' : Text} (h : IsExtension name ext) (h' : IsExtension name ext') :
    ext = ext' := by
  cases h with
  | compound hname hcompound =>
    cases h' with
    | compound hname' hcompound' => exact compound_unique (hname.symm.trans hname') hcompound hcompound'
    | last hplain => exact absurd ⟨_, _, hname, hcompound⟩ hplain
    | none hnone => exact absurd (by rw [hname]; simp) hnone
  | last hplain hname hlast =>
    cases h' with
    | compound hname' hcompound' => exact absurd ⟨_, _, hname', hcompound'⟩ hplain
    | last _ hname' hlast' =>
      rcases behind_cases (hname.symm.trans hname') with ⟨-, rfl⟩ | ⟨middle, -, rfl⟩ | ⟨middle, -, rfl⟩
      · rfl
      · simp at hlast
      · simp at hlast'
    | none hnone => exact absurd (by rw [hname]; simp) hnone
  | none hnone =>
    cases h' with
    | compound hname' => exact absurd (by rw [hname']; simp) hnone
    | last _ hname' => exact absurd (by rw [hname']; simp) hnone
    | none => rfl

theorem IsExtension.cons {u : CodeUnit} {rest ext : Text} (h : IsExtension rest ext) (hmem : period ∈ rest)
    (hrest : u = period → isCompoundExtension rest = false) : IsExtension (u :: rest) ext := by
  cases h with
  | @compound front _ hname hcompound =>
    have hname' : u :: rest = (u :: front) ++ period :: ext := congrArg (u :: ·) hname
    exact .compound hname' hcompound
  | @last front _ hplain hname hlast =>
    have hname' : u :: rest = (u :: front) ++ period :: ext := congrArg (u :: ·) hname
    refine .last ?_ hname' hlast
    rintro hends
    rcases (endsInCompound_cons u rest).1 hends with ⟨hu, hcompound⟩ | hends
    · rw [hrest hu] at hcompound
      cases hcompound
    · exact hplain hends
  | none hnone => exact absurd hmem hnone

/-- The search from the left finds the extension that is read from the end. -/
theorem isExtension_extensionAfter {t : Text} (h : period ∈ t) : IsExtension t (extensionAfter t) := by
  induction t with
  | nil => cases h
  | cons u rest ih =>
    rw [extensionAfter]
    by_cases hu : u = period
    · subst hu
      rw [if_pos rfl]
      have hname : period :: rest = [] ++ period :: rest := rfl
      split
      · next hcompound => exact .compound hname hcompound
      · next hcompound =>
        split
        · next hmore =>
          have hmem : period ∈ rest := List.contains_iff_mem.1 hmore
          exact (ih hmem).cons hmem fun _ => Bool.eq_false_iff.2 hcompound
        · next hmore =>
          have hlast : period ∉ rest := fun hmem => hmore (List.contains_iff_mem.2 hmem)
          refine .last (fun hends => ?_) hname hlast
          rcases (endsInCompound_cons period rest).1 hends with ⟨-, hends⟩ | hends
          · exact hcompound hends
          · exact not_endsInCompound_of_notMem hlast hends
    · rw [if_neg hu]
      have hmem : period ∈ rest := (List.mem_cons.1 h).resolve_left (Ne.symm hu)
      exact (ih hmem).cons hmem fun hperiod => absurd hperiod hu

theorem isExtension_fileExtension (name : Text) : IsExtension name (fileExtension name) := by
  rw [fileExtension]
  split
  · next hmem => exact isExtension_extensionAfter (List.contains_iff_mem.1 hmem)
  · next hmem => exact .none fun h => hmem (List.contains_iff_mem.2 h)

theorem fileExtension_eq_iff {name ext : Text} : fileExtension name = ext ↔ IsExtension name ext := by
  constructor
  · rintro rfl
    exact isExtension_fileExtension name
  · exact (isExtension_fileExtension name).unique

/-- The extension of a name is its compound extension or else what follows its last period, and nothing if it has
no period. With a root and a period before it, it makes up the name. A layer's name is shown as it is if its
extension is always kept; if the target extension is kept, it is shown without another one. -/
theorem name_is_root_and_extension (name : Text) :
    (∀ ext, fileExtension name = ext ↔ IsExtension name ext) ∧
    name = fileRoot name ++ (if fileExtension name = [] then [] else period :: fileExtension name) ∧
    ∀ target, ExtensionMode.apply (some .always) name target = name ∧
      ExtensionMode.apply (some .ifTarget) name target
        = if (fileExtension name).lower = target.lower then name else fileRoot name := by
  refine ⟨fun ext => fileExtension_eq_iff, ?_, fun target => ?_⟩
  · split
    · next hnone => rw [List.append_nil, fileRoot_of_eq_nil hnone]
    · next hext => exact eq_fileRoot_append hext
  · by_cases hext : fileExtension name = []
    · have hroot := fileRoot_of_eq_nil hext
      simp [ExtensionMode.apply, hext, hroot]
    · simp [ExtensionMode.apply, hext]

example : fileExtension (text "v1.2.XCF.gz") = text "XCF.gz" ∧ fileExtension (text "xcf.gz") = text "gz" ∧
    fileExtension (text "a.xcf.gz.") = [] := by decide +kernel

end NamePattern
