import NamePattern.Pattern.Scan

/-!
The sources of closed groups as a grammar. `Enclosed n t` says that `t` is what is left of a group's
source where `n` nested stretches are open: `t` closes all of them, and the bracket that follows `t`
closes the group itself. `groupEnd_eq_some_iff` ties the grammar to the search for a group's end: the
search finds exactly the enclosed texts, so a group has one end at most.
-/

namespace NamePattern

/-- The rest of a group's source in which `nesting` stretches are still open. The last unit is never a
closing bracket: followed by the one that closes the group, it would be doubled. -/
inductive Enclosed : Nat → Text → Prop
  | done : Enclosed 0 []
  | other {n u t} (hu : isBracket u = false) (ht : Enclosed n t) : Enclosed n (u :: t)
  | openFirst {t} (ht : Enclosed 1 t) : Enclosed 0 (openBracket :: t)
  | openPair {n t} (ht : Enclosed (n + 1) t) : Enclosed (n + 1) (openBracket :: openBracket :: t)
  | openSingle {n t} (hd : t.head? ≠ some openBracket) (ht : Enclosed (n + 2) t) :
      Enclosed (n + 1) (openBracket :: t)
  | closePair {n t} (ht : Enclosed (n + 1) t) : Enclosed (n + 1) (closeBracket :: closeBracket :: t)
  | closeSingle {n t} (hd : t.head? ≠ some closeBracket) (hne : t ≠ []) (ht : Enclosed n t) :
      Enclosed (n + 1) (closeBracket :: t)

theorem openBracket_ne_closeBracket : openBracket ≠ closeBracket := by decide

theorem isBracket_openBracket : isBracket openBracket = true := by decide

theorem isBracket_closeBracket : isBracket closeBracket = true := by decide

theorem isBracket_eq_false {u : CodeUnit} :
    isBracket u = false ↔ u ≠ openBracket ∧ u ≠ closeBracket := by
  simp [isBracket]

theorem isBracket_eq_true {u : CodeUnit} :
    isBracket u = true ↔ u = openBracket ∨ u = closeBracket := by
  simp [isBracket]

/-- A unit is a bracket of one of the two kinds, or none. -/
theorem bracket_cases (u : CodeUnit) :
    u = openBracket ∨ u = closeBracket ∨ isBracket u = false := by
  rcases h : isBracket u with _ | _
  · exact Or.inr (Or.inr rfl)
  · rcases isBracket_eq_true.1 h with ho | hc
    · exact Or.inl ho
    · exact Or.inr (Or.inl hc)

/-- No unit of a text is a bracket, told by going through the text. -/
theorem not_bracket_of_all {t : Text} (h : t.all (!isBracket ·) = true) :
    ∀ u ∈ t, isBracket u = false := by
  intro u hu
  simpa using List.all_eq_true.1 h u hu

/-! ### First units -/

theorem head_cons_ne {u v : CodeUnit} (h : u ≠ v) (t : Text) : (u :: t).head? ≠ some v := by
  simpa using h

theorem head_append_ne {v : CodeUnit} {t : Text} (hne : t ≠ []) (hd : t.head? ≠ some v)
    (rest : Text) : (t ++ rest).head? ≠ some v := by
  cases t with
  | nil => exact absurd rfl hne
  | cons u _ => simpa using hd

theorem head_ne_of_append {v : CodeUnit} {t rest : Text} (hd : (t ++ rest).head? ≠ some v) :
    t.head? ≠ some v := by
  cases t with
  | nil => simp
  | cons u _ => simpa using hd

/-- A closing bracket after a text doubles no opening one before it. -/
theorem head_append_close {t : Text} (hd : t.head? ≠ some openBracket) (after : Text) :
    (t ++ closeBracket :: after).head? ≠ some openBracket := by
  cases t with
  | nil => exact head_cons_ne openBracket_ne_closeBracket.symm after
  | cons u _ => simpa using hd

theorem prependToSplit_eq_none {t : Text} {split : Option (Text × Text)} :
    prependToSplit t split = none ↔ split = none := by
  simp [prependToSplit]

/-! ### The search for a group's end, one unit or one doubled bracket at a time -/

theorem groupEnd_other {n : Nat} {u : CodeUnit} {t : Text} (hu : isBracket u = false) :
    groupEnd n (u :: t) = prependToSplit [u] (groupEnd n t) := by
  obtain ⟨ho, hc⟩ := isBracket_eq_false.1 hu
  cases t with
  | nil => simp [groupEnd, hc, prependToSplit]
  | cons v rest => simp [groupEnd, ho, hc]

theorem groupEnd_open_first (t : Text) :
    groupEnd 0 (openBracket :: t) = prependToSplit [openBracket] (groupEnd 1 t) := by
  cases t with
  | nil => simp [groupEnd, prependToSplit, openBracket_ne_closeBracket]
  | cons v rest => simp [groupEnd]

theorem groupEnd_open_pair (n : Nat) (t : Text) :
    groupEnd (n + 1) (openBracket :: openBracket :: t)
      = prependToSplit [openBracket, openBracket] (groupEnd (n + 1) t) := by
  simp [groupEnd]

theorem groupEnd_open_single {n : Nat} {t : Text} (hd : t.head? ≠ some openBracket) :
    groupEnd (n + 1) (openBracket :: t) = prependToSplit [openBracket] (groupEnd (n + 2) t) := by
  cases t with
  | nil => simp [groupEnd, prependToSplit]
  | cons v rest =>
    have hv : v ≠ openBracket := by simpa using hd
    simp [groupEnd, hv]

theorem groupEnd_close_last (t : Text) : groupEnd 0 (closeBracket :: t) = some ([], t) := by
  cases t with
  | nil => simp [groupEnd]
  | cons v rest => simp [groupEnd, openBracket_ne_closeBracket.symm]

theorem groupEnd_close_pair (n : Nat) (t : Text) :
    groupEnd (n + 1) (closeBracket :: closeBracket :: t)
      = prependToSplit [closeBracket, closeBracket] (groupEnd (n + 1) t) := by
  simp [groupEnd, openBracket_ne_closeBracket.symm]

theorem groupEnd_close_single {n : Nat} {t : Text} (hd : t.head? ≠ some closeBracket) :
    groupEnd (n + 1) (closeBracket :: t) = prependToSplit [closeBracket] (groupEnd n t) := by
  cases t with
  | nil => simp [groupEnd, prependToSplit]
  | cons v rest =>
    have hv : v ≠ closeBracket := by simpa using hd
    simp [groupEnd, hv, openBracket_ne_closeBracket.symm]

theorem Enclosed.ne_nil {n : Nat} {t : Text} (h : Enclosed (n + 1) t) : t ≠ [] := by
  rintro rfl
  cases h

/-! ### The search finds exactly the enclosed texts -/

/-- Induction along the search, with one case for each way in which it goes on. -/
theorem groupEnd_induction {motive : Nat → Text → Prop}
    (nil : ∀ n, motive n [])
    (other : ∀ n u t, isBracket u = false → motive n t → motive n (u :: t))
    (openFirst : ∀ t, motive 1 t → motive 0 (openBracket :: t))
    (openPair : ∀ n t, motive (n + 1) t → motive (n + 1) (openBracket :: openBracket :: t))
    (openSingle : ∀ n t, t.head? ≠ some openBracket → motive (n + 2) t →
      motive (n + 1) (openBracket :: t))
    (closeLast : ∀ t, motive 0 (closeBracket :: t))
    (closePair : ∀ n t, motive (n + 1) t → motive (n + 1) (closeBracket :: closeBracket :: t))
    (closeSingle : ∀ n t, t.head? ≠ some closeBracket → motive n t →
      motive (n + 1) (closeBracket :: t)) (n : Nat) (t : Text) : motive n t := by
  -- a doubled bracket takes two units at once, so the induction is on the length
  induction h : t.length using Nat.strongRecOn generalizing n t with
  | ind length ih =>
    subst h
    have shorter : ∀ m s, s.length < t.length → motive m s := fun m s hs => ih s.length hs m s rfl
    rcases t with _ | ⟨u, rest⟩
    · exact nil n
    have rest_shorter : rest.length < (u :: rest).length := by simp
    rcases bracket_cases u with rfl | rfl | hu
    · rcases n with _ | n
      · exact openFirst rest (shorter 1 rest rest_shorter)
      · by_cases hd : rest.head? = some openBracket
        · obtain ⟨more, rfl⟩ := List.head?_eq_some_iff.1 hd
          exact openPair n more (shorter _ more (by simp only [List.length_cons]; omega))
        · exact openSingle n rest hd (shorter _ rest rest_shorter)
    · rcases n with _ | n
      · exact closeLast rest
      · by_cases hd : rest.head? = some closeBracket
        · obtain ⟨more, rfl⟩ := List.head?_eq_some_iff.1 hd
          exact closePair n more (shorter _ more (by simp only [List.length_cons]; omega))
        · exact closeSingle n rest hd (shorter _ rest rest_shorter)
    · exact other n u rest hu (shorter n rest rest_shorter)

/-- What the search finds is enclosed. -/
theorem enclosed_of_groupEnd (n : Nat) (t : Text) : ∀ source after,
    groupEnd n t = some (source, after) → Enclosed n source := by
  induction n, t using groupEnd_induction with
  | nil n => intro source after h; simp [groupEnd] at h
  | other n u t hu ih =>
    intro source after h
    rw [groupEnd_other hu] at h
    obtain ⟨more, hmore, rfl⟩ := prependToSplit_eq_some.1 h
    exact .other hu (ih more after hmore)
  | openFirst t ih =>
    intro source after h
    rw [groupEnd_open_first] at h
    obtain ⟨more, hmore, rfl⟩ := prependToSplit_eq_some.1 h
    exact .openFirst (ih more after hmore)
  | openPair n t ih =>
    intro source after h
    rw [groupEnd_open_pair] at h
    obtain ⟨more, hmore, rfl⟩ := prependToSplit_eq_some.1 h
    exact .openPair (ih more after hmore)
  | openSingle n t hd ih =>
    intro source after h
    rw [groupEnd_open_single hd] at h
    obtain ⟨more, hmore, rfl⟩ := prependToSplit_eq_some.1 h
    rw [eq_of_groupEnd hmore] at hd
    exact .openSingle (head_ne_of_append hd) (ih more after hmore)
  | closeLast t =>
    intro source after h
    rw [groupEnd_close_last] at h
    simp only [Option.some.injEq, Prod.mk.injEq] at h
    obtain ⟨rfl, -⟩ := h
    exact .done
  | closePair n t ih =>
    intro source after h
    rw [groupEnd_close_pair] at h
    obtain ⟨more, hmore, rfl⟩ := prependToSplit_eq_some.1 h
    exact .closePair (ih more after hmore)
  | closeSingle n t hd ih =>
    intro source after h
    rw [groupEnd_close_single hd] at h
    obtain ⟨more, hmore, rfl⟩ := prependToSplit_eq_some.1 h
    rw [eq_of_groupEnd hmore] at hd
    -- were nothing left, the group's own closing bracket would double this one
    have hne : more ≠ [] := by rintro rfl; simp at hd
    exact .closeSingle (head_ne_of_append hd) hne (ih more after hmore)

/-- An enclosed text with a closing bracket after it is found. -/
theorem groupEnd_of_enclosed {n : Nat} {source : Text} (h : Enclosed n source) (after : Text) :
    groupEnd n (source ++ closeBracket :: after) = some (source, after) := by
  induction h with
  | done => exact groupEnd_close_last after
  | other hu _ ih => rw [List.cons_append, groupEnd_other hu, ih]; rfl
  | openFirst _ ih => rw [List.cons_append, groupEnd_open_first, ih]; rfl
  | openPair _ ih => rw [List.cons_append, List.cons_append, groupEnd_open_pair, ih]; rfl
  | openSingle hd _ ih =>
    rw [List.cons_append, groupEnd_open_single (head_append_close hd after), ih]; rfl
  | closePair _ ih => rw [List.cons_append, List.cons_append, groupEnd_close_pair, ih]; rfl
  | closeSingle hd hne _ ih =>
    rw [List.cons_append, groupEnd_close_single (head_append_ne hne hd _), ih]; rfl

/-- In the source of a group alone no end of the group is found. -/
theorem groupEnd_source_of_enclosed {n : Nat} {source : Text} (h : Enclosed n source) :
    groupEnd n source = none := by
  induction h with
  | done => rfl
  | other hu _ ih => rw [groupEnd_other hu, ih]; rfl
  | openFirst _ ih => rw [groupEnd_open_first, ih]; rfl
  | openPair _ ih => rw [groupEnd_open_pair, ih]; rfl
  | openSingle hd _ ih => rw [groupEnd_open_single hd, ih]; rfl
  | closePair _ ih => rw [groupEnd_close_pair, ih]; rfl
  | closeSingle hd _ _ ih => rw [groupEnd_close_single hd, ih]; rfl

theorem groupEnd_eq_some_iff {n : Nat} {t source after : Text} :
    groupEnd n t = some (source, after) ↔
      t = source ++ closeBracket :: after ∧ Enclosed n source := by
  constructor
  · intro h
    exact ⟨eq_of_groupEnd h, enclosed_of_groupEnd n t source after h⟩
  · rintro ⟨rfl, h⟩
    exact groupEnd_of_enclosed h after

end NamePattern
